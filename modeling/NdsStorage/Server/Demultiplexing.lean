import NdsStorage.Server.CompletionFlow

/-! Completions of all kinds share one queue, and waits come in an order of
their own. Over every run each completion is handed to the wait for its own
request, once, however many waits run into their deadline before. -/
namespace NdsStorage.Server.Endpoint

open Connection

/-- A wait for one request: a poll by opcode and identifier, or the wait for
the oldest receive with its time limit. -/
inductive Wait where
  | poll (opcode : WrOpcode) (wrId : UInt64)
  | receive (timeoutMs : UInt32)
deriving DecidableEq, Repr

namespace Wait

/-- The request a wait is for, unless its arguments are refused. -/
def target (connection : Connection) : Wait → Option Signaled
  | .poll opcode wrId => some { opcode := opcode.completion, wrId := wrId }
  | .receive timeoutMs =>
      if timeoutMs = 0 ∨ timeoutMs > kMaxTimeout then none
      else connection.pendingReceiveIds.head?.map fun wrId => { opcode := .recv, wrId := wrId }

def run (connection : Connection) (looks : List Look) : Wait → Except Error Unit × Connection
  | .poll opcode wrId => connection.poll opcode.completion wrId looks
  | .receive timeoutMs => connection.waitReceive timeoutMs looks

end Wait

section Waits

variable {connection : Connection} {wait : Wait} {request : Signaled} {looks : List Look}

/-- What a wait makes of the outcome of its search. -/
structure Settles (request : Signaled) (found : Except Error IbvWc × Connection)
    (outcome : Except Error Unit × Connection) : Prop where
  missed : ∀ error, found.1 = .error error → outcome = (.error error, found.2)
  obtained : ∀ completion, found.1 = .ok completion → completion.request = request →
    (outcome.1 = .ok () ↔ completion.status = kWcSuccess) ∧ outcome.1 ≠ .error timedOut ∧
    outcome.2.returned = found.2.returned ++ [(request, completion)] ∧
    outcome.2.entries = found.2.entries ∧ outcome.2.taken = found.2.taken

/-- A completion that matches is accepted or refused by its status. -/
theorem judge_ok {opcode : WcOpcode} {wrId : UInt64} {refusal : IbvWc → Error} {completion : IbvWc}
    (hMatch : completion.request = { opcode := opcode, wrId := wrId }) :
    judge opcode wrId refusal (.ok completion) = .ok () ↔ completion.status = kWcSuccess := by
  have hOpcode := congrArg Signaled.opcode hMatch
  have hId := congrArg Signaled.wrId hMatch
  change completion.opcode = opcode at hOpcode
  change completion.wrId = wrId at hId
  simp [judge, hOpcode, hId]

/-- A verdict on a completion is never a timeout. -/
theorem judge_not_timedOut {opcode : WcOpcode} {wrId : UInt64} {refusal : IbvWc → Error}
    {completion : IbvWc} (hRefusal : ∀ completion, refusal completion ≠ timedOut) :
    judge opcode wrId refusal (.ok completion) ≠ .error timedOut := by
  intro hSame
  dsimp only [judge] at hSame
  split at hSame
  · exact hRefusal completion (Except.error.inj hSame)
  · cases hSame

theorem unexpectedCompletion_ne (completion : IbvWc) :
    unexpectedCompletion completion ≠ timedOut := by
  intro hSame
  have hHead := congrArg (fun error => error.message.toList.head?) hSame
  simp [unexpectedCompletion, timedOut, verbsError] at hHead

theorem unexpectedReceive_ne (wrId : UInt64) (completion : IbvWc) :
    unexpectedReceive wrId completion ≠ timedOut := by
  intro hSame
  have hHead := congrArg (fun error => error.message.toList.head?) hSame
  simp [unexpectedReceive, timedOut, verbsError] at hHead

theorem poll_settles (connection : Connection) (opcode : WcOpcode) (wrId : UInt64)
    (looks : List Look) :
    Settles { opcode := opcode, wrId := wrId } (connection.pollMatching opcode wrId looks)
      (connection.poll opcode wrId looks) := by
  unfold poll
  generalize connection.pollMatching opcode wrId looks = found
  obtain ⟨found, connection'⟩ := found
  refine ⟨?_, ?_⟩
  · rintro error rfl
    rfl
  · rintro completion rfl hMatch
    exact ⟨judge_ok hMatch, judge_not_timedOut unexpectedCompletion_ne, rfl, rfl, rfl⟩

theorem run_settles (looks : List Look) (hTarget : wait.target connection = some request) :
    Settles request (connection.pollMatching request.opcode request.wrId looks)
      (wait.run connection looks) := by
  cases wait with
  | poll opcode wrId =>
      cases hTarget
      exact poll_settles connection opcode.completion wrId looks
  | receive timeoutMs =>
      simp only [Wait.target, Option.ite_none_left_eq_some, Option.map_eq_some_iff] at hTarget
      obtain ⟨hTimeout, wrId, hHead, rfl⟩ := hTarget
      obtain ⟨rest, hPending⟩ : ∃ rest, connection.pendingReceiveIds = wrId :: rest :=
        List.head?_eq_some_iff.mp hHead
      dsimp only [Wait.run, Connection.waitReceive]
      rw [if_neg hTimeout, hPending]
      dsimp only
      generalize connection.pollMatching .recv wrId looks = found
      obtain ⟨found, connection'⟩ := found
      refine ⟨?_, ?_⟩
      · rintro error rfl
        rfl
      · rintro completion rfl hMatch
        exact ⟨judge_ok hMatch, judge_not_timedOut (unexpectedReceive_ne wrId), rfl, rfl, rfl⟩

/-- A wait whose arguments are refused does nothing. -/
theorem run_refused (looks : List Look) (hTarget : wait.target connection = none) :
    ∃ error, error ≠ timedOut ∧ wait.run connection looks = (.error error, connection) := by
  cases wait with
  | poll opcode wrId => cases hTarget
  | receive timeoutMs =>
      dsimp only [Wait.run, Connection.waitReceive]
      split
      · exact ⟨_, by simp [invalidArgument, timedOut, verbsError], rfl⟩
      · rename_i hTimeout
        simp only [Wait.target, if_neg hTimeout, Option.map_eq_none_iff,
          List.head?_eq_none_iff] at hTarget
        rw [hTarget]
        exact ⟨_, by simp [invalidArgument, timedOut, verbsError], rfl⟩

/-- The turns of a polling loop that show a completion if there is one. -/
def readyLooks (looks : List Look) : Nat := looks.countP fun look => look.answer = .ready

/-- The loop gets to a completion in the queue once it has looked past those
before it. -/
theorem pollLoop_obtains {opcode : WcOpcode} {wrId : UInt64} {completion : IbvWc}
    {before rest : List IbvWc} (hQueued : connection.entries = before ++ completion :: rest)
    (hMatch : completion.opcode = opcode ∧ completion.wrId = wrId)
    (hBefore : ∀ other ∈ before, ¬(other.opcode = opcode ∧ other.wrId = wrId))
    (hAnswers : ∀ look ∈ looks, look.answer ≠ .failed)
    (hLooks : before.length < readyLooks looks) :
    (pollLoop opcode wrId looks connection).1 = .ok completion := by
  induction looks generalizing connection before rest with
  | nil => exact absurd hLooks (Nat.not_lt_zero _)
  | cons look looks ih =>
      rw [List.forall_mem_cons] at hAnswers
      obtain ⟨later, hLater⟩ := arriveAll_entries connection look.arrivals
      rw [hQueued, List.append_assoc, List.cons_append] at hLater
      unfold pollLoop
      dsimp only
      split
      · rename_i hFailed
        exact absurd hFailed hAnswers.1
      · rename_i hEmpty
        apply ih hLater hBefore hAnswers.2
        simpa [readyLooks, hEmpty] using hLooks
      · rename_i hNone
        rw [hLater] at hNone
        simp at hNone
      · rename_i other entries hReady hEntries
        rw [hLater] at hEntries
        cases before with
        | nil =>
            cases hEntries
            rw [if_pos hMatch]
        | cons first before =>
            cases hEntries
            rw [List.forall_mem_cons] at hBefore
            rw [if_neg hBefore.1]
            refine ih rfl hBefore.2 hAnswers.2 ?_
            simpa [readyLooks, hReady] using hLooks

end Waits

section Demultiplexing

variable {connection : Connection} {budget : Nat}

/-- Within the budget no two sends have the same identifier. -/
theorem Issued.sends_nodup (h : Issued budget connection) (hBudget : budget < 2 ^ 64 - 1) :
    connection.sends.Nodup := by
  obtain ⟨used, hUsed, -, hSends⟩ := h.sends_ids
  exact hSends.nodup (SkipZero.after_nodup (by decide) (hUsed.trans_lt hBudget))

/-- Within the budget no send has the identifier zero. -/
theorem Issued.sends_ne_zero (h : Issued budget connection) {wrId : UInt64}
    (hId : wrId ∈ connection.sends) : wrId ≠ 0 := by
  obtain ⟨used, -, -, hSends⟩ := h.sends_ids
  obtain ⟨index, -, rfl⟩ := List.mem_map.mp (hSends.subset hId)
  exact SkipZero.after_ne_zero (by decide) index

/-- No two signaled requests share opcode and identifier. -/
theorem Issued.signaled_nodup (h : Issued budget connection) (hBudget : budget < 2 ^ 64 - 1) :
    connection.signaled.Nodup := by
  have hReceives : (connection.signaled.filter fun request => request.opcode = .recv).Nodup := by
    apply List.Nodup.of_map Signaled.wrId
    rw [h.signaled_receives, h.receives_ids]
    exact SkipZero.after_nodup (by decide) (h.receives_le.trans_lt hBudget)
  have hSends : (connection.signaled.filter fun request => request.opcode ≠ .recv).Nodup :=
    List.Nodup.of_map Signaled.wrId (h.signaled_sends.nodup (h.sends_nodup hBudget))
  have hPerm := List.filter_append_perm (fun request => decide (request.opcode = .recv))
    connection.signaled
  rw [← hPerm.nodup_iff, List.nodup_append']
  refine ⟨hReceives, by simpa using hSends, ?_⟩
  intro request hFirst hSecond
  simp only [List.mem_filter, decide_eq_true_eq] at hFirst hSecond
  simp [hFirst.2] at hSecond

theorem Accounted.placed_nodup (h : Accounted budget connection) (hBudget : budget < 2 ^ 64 - 1) :
    (connection.expected ++ (connection.entries ++ connection.taken).map IbvWc.request).Nodup :=
  h.flow.signaled_perm.nodup_iff.mp (h.issued.signaled_nodup hBudget)

/-- What a wait comes to. -/
inductive Waited (connection : Connection) (request : Signaled) :
    Except Error IbvWc × Connection → Except Error Unit × Connection → Prop
  | missed {error : Error} {connection' : Connection}
      (hSame : SameRequests connection connection') :
      Waited connection request (.error error, connection') (.error error, connection')
  | obtained {completion : IbvWc} {connection' : Connection}
      {outcome : Except Error Unit × Connection} (hMatch : completion.request = request)
      (hStatus : outcome.1 = .ok () ↔ completion.status = kWcSuccess)
      (hTimely : outcome.1 ≠ .error timedOut)
      (hReturned : outcome.2.returned = connection.returned ++ [(request, completion)])
      (hEntries : outcome.2.entries = connection'.entries)
      (hTaken : outcome.2.taken = connection'.taken) :
      Waited connection request (.ok completion, connection') outcome

theorem Accounted.run_waited (h : Accounted budget connection) {looks : List Look}
    (hRight : ∀ arrival ∈ looks.flatMap Look.arrivals, arrival.Right) {wait : Wait}
    {request : Signaled} (hTarget : wait.target connection = some request) :
    Waited connection request (connection.pollMatching request.opcode request.wrId looks)
      (wait.run connection looks) := by
  have hSettles : Settles request (connection.pollMatching request.opcode request.wrId looks)
      (wait.run connection looks) := run_settles looks hTarget
  have hFound := pollMatching_found request.opcode request.wrId hRight h.flow
  generalize connection.pollMatching request.opcode request.wrId looks = found at hSettles hFound ⊢
  cases hFound with
  | @missed error _ hSame hFlow =>
      rw [hSettles.missed error rfl]
      exact .missed hSame
  | @obtained completion _ hSame hFlow hMatch =>
      obtain ⟨hStatus, hTimely, hReturned, hEntries, hTaken⟩ :=
        hSettles.obtained completion rfl hMatch
      rw [hSame.returned_eq] at hReturned
      exact .obtained hMatch hStatus hTimely hReturned hEntries hTaken

/-- A parked completion is found without a look at the queue. -/
theorem pollMatching_parked {completion : IbvWc} (looks : List Look)
    (hNodup : (connection.pendingCompletions.map IbvWc.request).Nodup)
    (hCreated : connection.created = true) (hParked : completion ∈ connection.pendingCompletions) :
    connection.pollMatching completion.opcode completion.wrId looks =
      (.ok completion, { connection with
        pendingCompletions := connection.pendingCompletions.eraseP fun other =>
          other.opcode = completion.opcode ∧ other.wrId = completion.wrId }) := by
  have hFind : connection.pendingCompletions.find? (fun other =>
      other.opcode = completion.opcode ∧ other.wrId = completion.wrId) = some completion := by
    cases hFound : connection.pendingCompletions.find? (fun other =>
        other.opcode = completion.opcode ∧ other.wrId = completion.wrId) with
    | none =>
        have hNone := List.find?_eq_none.mp hFound completion hParked
        simp at hNone
    | some other =>
        have hMatch := List.find?_some hFound
        rw [decide_eq_true_eq] at hMatch
        have hSame : other.request = completion.request := by
          rw [IbvWc.request, IbvWc.request, hMatch.1, hMatch.2]
        rw [List.inj_on_of_nodup_map hNodup (List.mem_of_find?_eq_some hFound) hParked hSame]
  unfold pollMatching
  rw [hCreated, hFind]
  rfl

/-- No two parked completions belong to the same request. -/
theorem Accounted.parked_nodup (h : Accounted budget connection) (hBudget : budget < 2 ^ 64 - 1) :
    (connection.pendingCompletions.map IbvWc.request).Nodup := by
  have hTaken : (connection.taken.map IbvWc.request).Nodup := by
    have hPlaced := h.placed_nodup hBudget
    rw [List.map_append, ← List.append_assoc] at hPlaced
    exact hPlaced.of_append_right
  have hPerm := h.flow.taken_perm.map IbvWc.request
  rw [List.append_nil, List.map_append] at hPerm
  exact (hPerm.nodup_iff.mp hTaken).of_append_left

/-- Completions are accounted for, over every run. -/
structure Demultiplexed (connection : Connection) : Prop where
  taken_perm : List.Perm connection.taken
    (connection.pendingCompletions ++ connection.returned.map Prod.snd)
  taken_nodup : (connection.taken.map IbvWc.request).Nodup
  returned_match : ∀ entry ∈ connection.returned, entry.2.request = entry.1
  receives_eq : connection.receives = retired connection ++ connection.pendingReceiveIds
  pending_le : connection.pendingReceiveIds.length ≤ kQpDepth
  sends_nodup : connection.sends.Nodup
  sends_ne_zero : ∀ wrId ∈ connection.sends, wrId ≠ 0

/-- An account within its budget is demultiplexed. -/
theorem Accounted.demultiplexed (h : Accounted budget connection)
    (hBudget : budget < 2 ^ 64 - 1) : Demultiplexed connection where
  taken_perm := by simpa using h.flow.taken_perm
  taken_nodup := by
    have hPlaced := h.placed_nodup hBudget
    rw [List.map_append, ← List.append_assoc] at hPlaced
    exact hPlaced.of_append_right
  returned_match := h.returned_match
  receives_eq := h.receives_eq
  pending_le := h.pending_le
  sends_nodup := h.issued.sends_nodup hBudget
  sends_ne_zero := fun _ hId => h.issued.sends_ne_zero hId

/-- How waits are served in a state. Arrivals during a wait carry the opcode
and identifier of their request. -/
structure Serves (connection : Connection) : Prop where
  /-- A wait succeeds on the successful completion of its own request. -/
  own : ∀ (wait : Wait) (looks : List Look),
    (∀ arrival ∈ looks.flatMap Look.arrivals, arrival.Right) →
    (wait.run connection looks).1 = .ok () →
    ∃ request completion, wait.target connection = some request ∧
      completion.request = request ∧ completion.status = kWcSuccess ∧
      (wait.run connection looks).2.returned = connection.returned ++ [(request, completion)]
  /-- A parked completion answers its wait without a look at the queue. -/
  parked : ∀ (wait : Wait) (looks : List Look), ∀ completion ∈ connection.pendingCompletions,
    wait.target connection = some completion.request →
    (wait.run connection looks).2.returned =
        connection.returned ++ [(completion.request, completion)] ∧
      (wait.run connection looks).2.entries = connection.entries ∧
      (wait.run connection looks).2.taken = connection.taken ∧
      ((wait.run connection looks).1 = .ok () ↔ completion.status = kWcSuccess)
  /-- A wait that runs into its deadline returns nothing and can be repeated. -/
  again : ∀ (wait : Wait) (looks : List Look),
    (∀ arrival ∈ looks.flatMap Look.arrivals, arrival.Right) →
    (wait.run connection looks).1 = .error timedOut →
    (wait.run connection looks).2.returned = connection.returned ∧
      (wait.run connection looks).2.pendingReceiveIds = connection.pendingReceiveIds ∧
      wait.target (wait.run connection looks).2 = wait.target connection
  /-- Once its completion has arrived, a wait that polls long enough gets it. -/
  obtains : ∀ (wait : Wait) (request : Signaled) (looks : List Look),
    (∀ arrival ∈ looks.flatMap Look.arrivals, arrival.Right) →
    wait.target connection = some request → request ∈ connection.signaled →
    request ∉ connection.expected → (∀ entry ∈ connection.returned, entry.1 ≠ request) →
    (∀ look ∈ looks, look.answer ≠ .failed) → connection.entries.length ≤ readyLooks looks →
    ∃ completion, completion.request = request ∧
      (wait.run connection looks).2.returned = connection.returned ++ [(request, completion)]

section Served

variable {wait : Wait} {looks : List Look}

/-- Completions come from a queue pair that exists. -/
theorem Accounted.created_of_taken (h : Accounted budget connection) {completion : IbvWc}
    (hPlaced : completion ∈ connection.entries ++ connection.taken) :
    connection.created = true := by
  apply h.issued.created_of_signaled
  have hMember : completion.request ∈ connection.signaled :=
    h.flow.signaled_perm.mem_iff.mpr
      (List.mem_append_right _ (List.mem_map_of_mem hPlaced))
  exact List.ne_nil_of_mem hMember

/-- A wait that succeeds has its own completion. -/
theorem Accounted.serves_own (h : Accounted budget connection)
    (hRight : ∀ arrival ∈ looks.flatMap Look.arrivals, arrival.Right)
    (hRun : (wait.run connection looks).1 = .ok ()) :
    ∃ request completion, wait.target connection = some request ∧
      completion.request = request ∧ completion.status = kWcSuccess ∧
      (wait.run connection looks).2.returned =
        connection.returned ++ [(request, completion)] := by
  cases hTarget : wait.target connection with
  | none =>
      obtain ⟨error, -, hRefused⟩ := run_refused looks hTarget
      rw [hRefused] at hRun
      cases hRun
  | some request =>
      have hWaited := h.run_waited hRight hTarget
      generalize connection.pollMatching request.opcode request.wrId looks = found at hWaited
      generalize wait.run connection looks = outcome at hWaited hRun ⊢
      cases hWaited with
      | missed hSame => cases hRun
      | @obtained completion connection' _ hMatch hStatus hTimely hReturned hEntries hTaken =>
          exact ⟨request, completion, rfl, hMatch, hStatus.mp hRun, hReturned⟩

/-- A wait whose completion is parked returns it. -/
theorem Accounted.serves_parked (h : Accounted budget connection)
    (hBudget : budget < 2 ^ 64 - 1) {completion : IbvWc}
    (hParked : completion ∈ connection.pendingCompletions)
    (hTarget : wait.target connection = some completion.request) :
    (wait.run connection looks).2.returned =
        connection.returned ++ [(completion.request, completion)] ∧
      (wait.run connection looks).2.entries = connection.entries ∧
      (wait.run connection looks).2.taken = connection.taken ∧
      ((wait.run connection looks).1 = .ok () ↔ completion.status = kWcSuccess) := by
  have hTaken : completion ∈ connection.taken := by
    apply h.flow.taken_perm.mem_iff.mpr
    simp [hParked]
  have hCreated := h.created_of_taken (List.mem_append_right _ hTaken)
  have hSettles := run_settles looks hTarget
  rw [IbvWc.request_opcode, IbvWc.request_wrId,
    pollMatching_parked looks (h.parked_nodup hBudget) hCreated hParked] at hSettles
  obtain ⟨hStatus, -, hReturned, hEntries, hTaken'⟩ := hSettles.obtained completion rfl rfl
  exact ⟨hReturned, hEntries, hTaken', hStatus⟩

/-- What a wait looks for depends on the pending receives only. -/
theorem target_of_pending {connection' : Connection}
    (h : connection'.pendingReceiveIds = connection.pendingReceiveIds) :
    wait.target connection' = wait.target connection := by
  cases wait with
  | poll opcode wrId => rfl
  | receive timeoutMs => rw [Wait.target, Wait.target, h]

theorem Accounted.serves_again (h : Accounted budget connection)
    (hRight : ∀ arrival ∈ looks.flatMap Look.arrivals, arrival.Right)
    (hRun : (wait.run connection looks).1 = .error timedOut) :
    (wait.run connection looks).2.returned = connection.returned ∧
      (wait.run connection looks).2.pendingReceiveIds = connection.pendingReceiveIds ∧
      wait.target (wait.run connection looks).2 = wait.target connection := by
  cases hTarget : wait.target connection with
  | none =>
      obtain ⟨error, hError, hRefused⟩ := run_refused looks hTarget
      rw [hRefused] at hRun
      exact absurd (Except.error.inj hRun) hError
  | some request =>
      have hWaited := h.run_waited hRight hTarget
      generalize connection.pollMatching request.opcode request.wrId looks = found at hWaited
      generalize wait.run connection looks = outcome at hWaited hRun ⊢
      cases hWaited with
      | @missed error connection' hSame =>
          exact ⟨hSame.returned_eq, hSame.pending_eq,
            (target_of_pending hSame.pending_eq).trans hTarget⟩
      | obtained hMatch hStatus hTimely hReturned hEntries hTaken => exact absurd hRun hTimely

/-- A completion that is parked or in the queue is found. -/
theorem Accounted.search_obtains (h : Accounted budget connection)
    (hBudget : budget < 2 ^ 64 - 1) {request : Signaled}
    (hSignaled : request ∈ connection.signaled) (hArrived : request ∉ connection.expected)
    (hOpen : ∀ entry ∈ connection.returned, entry.1 ≠ request)
    (hAnswers : ∀ look ∈ looks, look.answer ≠ .failed)
    (hLooks : connection.entries.length ≤ readyLooks looks) :
    ∃ completion,
      (connection.pollMatching request.opcode request.wrId looks).1 = .ok completion := by
  have hPlaced := h.flow.signaled_perm.mem_iff.mp hSignaled
  rw [List.mem_append, or_iff_right hArrived, List.mem_map] at hPlaced
  obtain ⟨completion, hPlace, rfl⟩ := hPlaced
  have hCreated := h.created_of_taken hPlace
  rcases List.mem_append.mp hPlace with hQueued | hTaken
  · unfold pollMatching
    simp only [hCreated, Bool.not_true, Bool.false_eq_true, if_false]
    split
    · exact ⟨_, rfl⟩
    · have hSome : (connection.entries.find? fun other =>
          other.opcode = completion.opcode ∧ other.wrId = completion.wrId).isSome = true :=
        List.find?_isSome.mpr ⟨completion, hQueued, by simp⟩
      obtain ⟨found, hFound⟩ := Option.isSome_iff_exists.mp hSome
      obtain ⟨hMatch, before, rest, hEntries, hBefore⟩ :=
        List.find?_eq_some_iff_append.mp hFound
      refine ⟨found, pollLoop_obtains hEntries (of_decide_eq_true hMatch) ?_ hAnswers ?_⟩
      · intro other hOther
        have hOther' := hBefore other hOther
        rw [Bool.not_eq_true', decide_eq_false_iff_not] at hOther'
        exact hOther'
      · rw [hEntries, List.length_append, List.length_cons] at hLooks
        omega
  · have hKept := h.flow.taken_perm.mem_iff.mp hTaken
    rw [List.append_nil, List.mem_append] at hKept
    rcases hKept with hParked | hReturned
    · refine ⟨completion, ?_⟩
      rw [IbvWc.request_opcode, IbvWc.request_wrId,
        pollMatching_parked looks (h.parked_nodup hBudget) hCreated hParked]
    · obtain ⟨entry, hEntry, rfl⟩ := List.mem_map.mp hReturned
      exact absurd (h.returned_match entry hEntry).symm (hOpen entry hEntry)

/-- A wait whose completion is there returns it. -/
theorem Accounted.serves_obtains (h : Accounted budget connection) {request : Signaled}
    (hRight : ∀ arrival ∈ looks.flatMap Look.arrivals, arrival.Right)
    (hTarget : wait.target connection = some request)
    (hFound : ∃ completion,
      (connection.pollMatching request.opcode request.wrId looks).1 = .ok completion) :
    ∃ completion, completion.request = request ∧
      (wait.run connection looks).2.returned =
        connection.returned ++ [(request, completion)] := by
  have hWaited := h.run_waited hRight hTarget
  generalize connection.pollMatching request.opcode request.wrId looks = found at hWaited hFound
  generalize wait.run connection looks = outcome at hWaited ⊢
  cases hWaited with
  | missed hSame =>
      obtain ⟨completion, hNone⟩ := hFound
      cases hNone
  | @obtained completion connection' _ hMatch hStatus hTimely hReturned hEntries hTaken =>
      exact ⟨completion, hMatch, hReturned⟩

/-- The waits of an accounted connection, taken together. -/
theorem Accounted.serves (h : Accounted budget connection) (hBudget : budget < 2 ^ 64 - 1) :
    Serves connection where
  own := fun _ _ hRight hRun => h.serves_own hRight hRun
  parked := fun _ _ _ hParked hTarget => h.serves_parked hBudget hParked hTarget
  again := fun _ _ hRight hRun => h.serves_again hRight hRun
  obtains := fun _ _ _ hRight hTarget hSignaled hArrived hOpen hAnswers hLooks =>
    h.serves_obtains hRight hTarget
      (h.search_obtains hBudget hSignaled hArrived hOpen hAnswers hLooks)

end Served

/-- Whatever the order of posts, waits, deadlines and arrivals, completions are
neither lost nor duplicated, and every wait is served with its own. -/
theorem completions_demultiplexed (created connected : Bool) {events : List Event}
    (hRight : ∀ event ∈ events, ∀ arrival ∈ event.arrivals, arrival.Right)
    (hRequests : totalRequests events < 2 ^ 64 - 1) :
    Demultiplexed (performAll (fresh created connected) events) ∧
      Serves (performAll (fresh created connected) events) := by
  have hAccounted := performAll_accounted (fresh_accounted created connected) hRight
  rw [Nat.zero_add] at hAccounted
  exact ⟨hAccounted.demultiplexed hRequests, hAccounted.serves hRequests⟩

def smallRegion : MemoryRegion where
  address := 4096
  length := 64
  localKey := 1
  belongs := true

def succeeded (opcode : WcOpcode) (wrId : UInt64) : IbvWc where
  wrId := wrId
  status := kWcSuccess
  opcode := opcode
  vendorErr := 0

/-- A wait for a receive runs into its deadline and leaves the completion of a
send parked; both waits then succeed. -/
def crossingEvents : List Event := [
  .postReceive smallRegion none,
  .postSend smallRegion 64 .accepted,
  .arrive { request := { opcode := .send, wrId := 4 }, completion := succeeded .send 4 },
  .waitReceive 10 [{ arrivals := [], answer := .ready }],
  .arrive { request := { opcode := .recv, wrId := 1 }, completion := succeeded .recv 1 },
  .waitReceive 10 [{ arrivals := [], answer := .empty }, { arrivals := [], answer := .ready }],
  .poll .send 4 []]

/-- A receive and a send whose completions arrive in the other order. -/
theorem completions_demultiplexed_crossing :
    ((∀ event ∈ crossingEvents, ∀ arrival ∈ event.arrivals, arrival.Right) ∧
      totalRequests crossingEvents < 2 ^ 64 - 1 ∧
      (performAll (fresh true true) crossingEvents).returned =
        [({ opcode := .recv, wrId := 1 }, succeeded .recv 1),
          ({ opcode := .send, wrId := 4 }, succeeded .send 4)]) ∧
    Demultiplexed (performAll (fresh true true) crossingEvents) ∧
      Serves (performAll (fresh true true) crossingEvents) :=
  ⟨⟨by decide, by decide, by decide⟩, completions_demultiplexed true true (by decide) (by decide)⟩

end Demultiplexing

end NdsStorage.Server.Endpoint
