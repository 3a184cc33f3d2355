import NdsStorage.Server.Demultiplexing

/-! Failed completions end their waits. Of a failed completion the verbs library
defines the identifier and the status, and sends and receives use overlapping
identifiers. A wait tells them apart by the opcode, so it depends on this field
whether a failure reaches the wait for its request. -/
namespace NdsStorage.Server.Endpoint

open Connection

section Missed

variable {connection : Connection} {opcode : WcOpcode} {wrId : UInt64} {looks : List Look}

theorem arrive_pending (connection : Connection) (arrival : Arrival) :
    (connection.arrive arrival).pendingCompletions = connection.pendingCompletions := by
  unfold arrive
  split
  · rfl
  · rfl

theorem arriveAll_pending (connection : Connection) (arrivals : List Arrival) :
    (arrivals.foldl arrive connection).pendingCompletions = connection.pendingCompletions := by
  induction arrivals generalizing connection with
  | nil => rfl
  | cons arrival arrivals ih => exact (ih _).trans (arrive_pending connection arrival)

/-- No parked completion is one that a wait is looking for. -/
def Unmatched (opcode : WcOpcode) (wrId : UInt64) (connection : Connection) : Prop :=
  ∀ completion ∈ connection.pendingCompletions,
    ¬(completion.opcode = opcode ∧ completion.wrId = wrId)

/-- A loop that finds nothing has parked only completions of other requests. -/
theorem pollLoop_unmatched {error : Error}
    (hMissed : (pollLoop opcode wrId looks connection).1 = .error error)
    (h : Unmatched opcode wrId connection) :
    Unmatched opcode wrId (pollLoop opcode wrId looks connection).2 := by
  induction looks generalizing connection with
  | nil => exact h
  | cons look looks ih =>
      have hArrived : Unmatched opcode wrId (look.arrivals.foldl arrive connection) := by
        rw [Unmatched, arriveAll_pending]
        exact h
      unfold pollLoop at hMissed ⊢
      dsimp only at hMissed ⊢
      split at hMissed
      · exact hArrived
      · exact ih hMissed hArrived
      · exact ih hMissed hArrived
      · rename_i completion entries hReady hEntries
        split at hMissed
        · cases hMissed
        · rename_i hOther
          rw [if_neg hOther]
          apply ih hMissed
          intro parked hParked
          rcases List.mem_append.mp hParked with hBefore | hNew
          · exact hArrived parked hBefore
          · rw [List.mem_singleton.mp hNew]
            exact hOther

/-- A poll that fails has no matching completion left. -/
theorem pollMatching_unmatched {error : Error} (hCreated : connection.created = true)
    (hMissed : (connection.pollMatching opcode wrId looks).1 = .error error) :
    Unmatched opcode wrId (connection.pollMatching opcode wrId looks).2 := by
  unfold pollMatching at hMissed ⊢
  rw [hCreated] at hMissed ⊢
  simp only [Bool.not_true, Bool.false_eq_true, if_false] at hMissed ⊢
  split at hMissed
  · cases hMissed
  · rename_i hNone
    apply pollLoop_unmatched hMissed
    intro completion hParked hMatch
    exact List.find?_eq_none.mp hNone completion hParked (decide_eq_true hMatch)

end Missed

namespace Wait

/-- A wait as an event of a run. -/
def event (looks : List Look) : Wait → Event
  | .poll opcode wrId => .poll opcode wrId looks
  | .receive timeoutMs => .waitReceive timeoutMs looks

theorem perform_event (connection : Connection) (wait : Wait) (looks : List Look) :
    perform connection (wait.event looks) = (wait.run connection looks).2 := by
  cases wait <;> rfl

theorem event_arrivals (wait : Wait) (looks : List Look) :
    (wait.event looks).arrivals = looks.flatMap Look.arrivals := by
  cases wait <;> rfl

theorem event_workRequests (wait : Wait) (looks : List Look) :
    (wait.event looks).workRequests = 0 := by
  cases wait <;> rfl

end Wait

theorem Accounted.run {connection : Connection} {budget : Nat} {looks : List Look}
    (h : Accounted budget connection) (wait : Wait)
    (hRight : ∀ arrival ∈ looks.flatMap Look.arrivals, arrival.Right) :
    Accounted budget (wait.run connection looks).2 := by
  rw [← wait.event_arrivals looks] at hRight
  have hAfter := perform_accounted h (wait.event looks) hRight
  rw [wait.event_workRequests, wait.perform_event] at hAfter
  exact hAfter

/-- What a failed completion does to a wait: once it has been taken from the
queue, the wait for its request returns an error, it is not parked any more and
a failed receive is retired, and it has ended no wait for another request. -/
structure EndsItsWait (connection : Connection) (wait : Wait) (looks : List Look)
    (arrival : Arrival) : Prop where
  error : arrival.completion ∈ (wait.run connection looks).2.taken →
    wait.target connection = some arrival.request →
    ∃ error, (wait.run connection looks).1 = .error error
  not_left : arrival.completion ∈ (wait.run connection looks).2.taken →
    wait.target connection = some arrival.request →
    arrival.completion ∉ (wait.run connection looks).2.pendingCompletions
  retired : arrival.completion ∈ (wait.run connection looks).2.taken →
    wait.target connection = some arrival.request → arrival.request.opcode = .recv →
    arrival.request.wrId ∉ (wait.run connection looks).2.pendingReceiveIds
  own : ∀ entry ∈ (wait.run connection looks).2.returned,
    entry.2 = arrival.completion → entry.1 = arrival.request

section Ends

variable {connection : Connection} {budget : Nat} {wait : Wait} {looks : List Look}
  {request : Signaled} {completion : IbvWc}

/-- A returned completion is not parked as well. -/
theorem Accounted.returned_not_parked (h : Accounted budget connection)
    (hBudget : budget < 2 ^ 64 - 1) {entry : Signaled × IbvWc}
    (hEntry : entry ∈ connection.returned) : entry.2 ∉ connection.pendingCompletions := by
  intro hParked
  have hTaken := (h.demultiplexed hBudget).taken_nodup
  have hPerm := (h.demultiplexed hBudget).taken_perm.map IbvWc.request
  rw [hPerm.nodup_iff, List.map_append, List.nodup_append'] at hTaken
  apply hTaken.2.2 (List.mem_map_of_mem hParked)
  exact List.mem_map_of_mem (List.mem_map_of_mem hEntry)

/-- A retired receive is not pending. -/
theorem Accounted.retired_not_pending (h : Accounted budget connection)
    (hBudget : budget < 2 ^ 64 - 1) {entry : Signaled × IbvWc}
    (hEntry : entry ∈ connection.returned) (hReceive : entry.1.opcode = .recv) :
    entry.1.wrId ∉ connection.pendingReceiveIds := by
  intro hPending
  have hNodup : connection.receives.Nodup := by
    rw [h.issued.receives_ids]
    exact SkipZero.after_nodup (by decide) (h.issued.receives_le.trans_lt hBudget)
  rw [h.receives_eq, List.nodup_append'] at hNodup
  refine hNodup.2.2 ?_ hPending
  exact List.mem_map.mpr ⟨entry, List.mem_filter.mpr ⟨hEntry, by simpa using hReceive⟩, rfl⟩

/-- Taken completions of one request are the same. -/
theorem Accounted.taken_eq (h : Accounted budget connection) (hBudget : budget < 2 ^ 64 - 1)
    {other : IbvWc} (hTaken : completion ∈ connection.taken) (hOther : other ∈ connection.taken)
    (hSame : other.request = completion.request) : other = completion :=
  List.inj_on_of_nodup_map (h.demultiplexed hBudget).taken_nodup hOther hTaken hSame

/-- A wait whose completion has been taken is over. -/
theorem Accounted.run_ends (h : Accounted budget connection) (hBudget : budget < 2 ^ 64 - 1)
    (hRight : ∀ arrival ∈ looks.flatMap Look.arrivals, arrival.Right)
    (hTarget : wait.target connection = some request)
    (hTaken : completion ∈ (wait.run connection looks).2.taken)
    (hRequest : completion.request = request) (hFailed : completion.status ≠ kWcSuccess) :
    (∃ error, (wait.run connection looks).1 = .error error) ∧
      completion ∉ (wait.run connection looks).2.pendingCompletions ∧
      (request.opcode = .recv → request.wrId ∉ (wait.run connection looks).2.pendingReceiveIds) := by
  have hAfter := h.run wait hRight
  have hWaited := h.run_waited hRight hTarget
  have hMissed : ∀ error, connection.created = true →
      (connection.pollMatching request.opcode request.wrId looks).1 = .error error →
      Unmatched request.opcode request.wrId
        (connection.pollMatching request.opcode request.wrId looks).2 :=
    fun _ hCreated hNone => pollMatching_unmatched hCreated hNone
  generalize connection.pollMatching request.opcode request.wrId looks = found at hWaited hMissed
  generalize wait.run connection looks = outcome at hAfter hWaited hTaken ⊢
  have hKept := (hAfter.demultiplexed hBudget).taken_perm
  cases hWaited with
  | @missed error connection' hSame =>
      have hCreated : connection.created = true := by
        rw [← hSame.created_eq]
        exact hAfter.created_of_taken (List.mem_append_right _ hTaken)
      have hFree : completion ∉ connection'.pendingCompletions := by
        intro hParked
        apply hMissed error hCreated rfl completion hParked
        rw [← hRequest]
        exact ⟨rfl, rfl⟩
      refine ⟨⟨error, rfl⟩, hFree, fun hReceive => ?_⟩
      have hReturned := (List.mem_append.mp (hKept.mem_iff.mp hTaken)).resolve_left hFree
      obtain ⟨entry, hEntry, hSecond⟩ := List.mem_map.mp hReturned
      have hFirst : entry.1 = request := by
        rw [← hAfter.returned_match entry hEntry, hSecond]
        exact hRequest
      rw [← hFirst] at hReceive ⊢
      exact hAfter.retired_not_pending hBudget hEntry hReceive
  | @obtained found connection' _ hMatch hStatus hTimely hReturned hEntries hSame =>
      have hEntry : (request, found) ∈ outcome.2.returned := by
        rw [hReturned]
        exact List.mem_append_right _ List.mem_cons_self
      have hFound : found ∈ outcome.2.taken := by
        apply hKept.mem_iff.mpr
        exact List.mem_append_right _ (List.mem_map_of_mem hEntry)
      have hIs : found = completion :=
        hAfter.taken_eq hBudget hTaken hFound (hMatch.trans hRequest.symm)
      subst hIs
      refine ⟨?_, hAfter.returned_not_parked hBudget hEntry,
        fun hReceive => hAfter.retired_not_pending hBudget hEntry hReceive⟩
      cases hOutcome : outcome.1 with
      | error error => exact ⟨error, rfl⟩
      | ok value => exact absurd (hStatus.mp hOutcome) hFailed

end Ends

/-- Over every run in which completions carry the opcode of their request, a
failed one ends the wait for it and no other wait. -/
theorem failures_end_waits (created connected : Bool) {events : List Event}
    (hRight : ∀ event ∈ events, ∀ arrival ∈ event.arrivals, arrival.Right)
    (hRequests : totalRequests events < 2 ^ 64 - 1) (wait : Wait) {looks : List Look}
    (hLooks : ∀ arrival ∈ looks.flatMap Look.arrivals, arrival.Right) :
    ∀ arrival ∈ events.flatMap Event.arrivals ++ looks.flatMap Look.arrivals,
      arrival.completion.status ≠ kWcSuccess →
      EndsItsWait (performAll (fresh created connected) events) wait looks arrival := by
  have h := performAll_accounted (fresh_accounted created connected) hRight
  rw [Nat.zero_add] at h
  generalize performAll (fresh created connected) events = connection at h
  intro arrival hArrival hFailed
  have hMatch : arrival.completion.request = arrival.request := by
    rcases List.mem_append.mp hArrival with hBefore | hNow
    · obtain ⟨event, hEvent, hListed⟩ := List.mem_flatMap.mp hBefore
      exact hRight event hEvent arrival hListed
    · exact hLooks arrival hNow
  have hEnds := fun (hTaken : arrival.completion ∈ (wait.run connection looks).2.taken)
      (hTarget : wait.target connection = some arrival.request) =>
    h.run_ends hRequests hLooks hTarget hTaken hMatch hFailed
  exact {
    error := fun hTaken hTarget => (hEnds hTaken hTarget).1
    not_left := fun hTaken hTarget => (hEnds hTaken hTarget).2.1
    retired := fun hTaken hTarget => (hEnds hTaken hTarget).2.2
    own := by
      intro entry hEntry hSame
      rw [← (h.run wait hLooks).returned_match entry hEntry, hSame]
      exact hMatch }

/-- A failed completion of a request, with some value in its opcode field. -/
def failedArrival (request : Signaled) (opcode : WcOpcode) : Arrival where
  request := request
  completion := {
    wrId := request.wrId
    status := 5
    opcode := opcode
    vendorErr := 0 }

def readyLook : Look := { arrivals := [], answer := .ready }

def firstSend : Signaled := { opcode := .send, wrId := 4 }

/-- A send fails, and its completion names its opcode. -/
def failedSendEvents : List Event := [
  .postSend smallRegion 64 .accepted, .arrive (failedArrival firstSend .send)]

theorem failures_end_waits_send :
    ((Wait.poll .send 4).run (performAll (fresh true true) failedSendEvents) [readyLook]).1 =
      .error (unexpectedCompletion (failedArrival firstSend .send).completion) ∧
    EndsItsWait (performAll (fresh true true) failedSendEvents) (.poll .send 4) [readyLook]
      (failedArrival firstSend .send) := by
  refine ⟨by decide, ?_⟩
  exact failures_end_waits true true (by decide) (by decide) (.poll .send 4) (by decide) _
    (by decide) (by decide)

/-- A send fails after three receives have been completed. Its completion names
the opcode of a receive, and its identifier is that of the fourth receive. -/
def crossedEvents : List Event := [
  .postSend smallRegion 64 .accepted,
  .postReceive smallRegion none, .postReceive smallRegion none,
  .postReceive smallRegion none, .postReceive smallRegion none,
  .arrive { request := { opcode := .recv, wrId := 1 }, completion := succeeded .recv 1 },
  .waitReceive 10 [readyLook],
  .arrive { request := { opcode := .recv, wrId := 2 }, completion := succeeded .recv 2 },
  .waitReceive 10 [readyLook],
  .arrive { request := { opcode := .recv, wrId := 3 }, completion := succeeded .recv 3 },
  .waitReceive 10 [readyLook],
  .arrive (failedArrival firstSend .recv)]

/-- The wait for the send runs into its deadline with the failure parked, and
the wait for the receive ends with it. -/
theorem failures_left_parked :
    ¬EndsItsWait (performAll (fresh true true) crossedEvents) (.poll .send 4) [readyLook]
        (failedArrival firstSend .recv) ∧
      ((Wait.poll .send 4).run (performAll (fresh true true) crossedEvents) [readyLook]).1 =
        .error timedOut ∧
      ¬EndsItsWait (performAll (fresh true true) crossedEvents) (.receive 10) [readyLook]
        (failedArrival firstSend .recv) ∧
      ({ opcode := .recv, wrId := 4 }, (failedArrival firstSend .recv).completion) ∈
        ((Wait.receive 10).run (performAll (fresh true true) crossedEvents)
          [readyLook]).2.returned := by
  refine ⟨fun hEnds => ?_, by decide, fun hEnds => ?_, by decide⟩
  · exact hEnds.not_left (by decide) (by decide) (by decide)
  · have hOwn := hEnds.own ({ opcode := .recv, wrId := 4 },
      (failedArrival firstSend .recv).completion) (by decide) rfl
    revert hOwn
    decide

end NdsStorage.Server.Endpoint
