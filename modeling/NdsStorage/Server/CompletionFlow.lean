import Mathlib.Algebra.Ring.Nat
import Mathlib.Data.List.Perm.Subperm
import NdsStorage.Server.Endpoint

/-! Where the completions of a queue pair are. What happens on it is a sequence
of calls and arrivals; one account ties the parked completions, the receives in
posting order and the two identifier counters together, and every event keeps
it. -/
namespace NdsStorage.Server.Endpoint

open Connection

/-- What happens on a queue pair, with the answers of the verbs library. Waits
for sends and transfers are polled for by opcode. -/
inductive Event where
  | arrive (arrival : Arrival)
  | postReceive (region : MemoryRegion) (answer : Option String)
  | postSend (region : MemoryRegion) (length : UInt32) (answer : PostAnswer)
  | postTransferBatch (opcode : WrOpcode) (requests : List TransferRequest) (answer : PostAnswer)
  | poll (opcode : WrOpcode) (wrId : UInt64) (looks : List Look)
  | waitReceive (timeoutMs : UInt32) (looks : List Look)
deriving DecidableEq, Repr

namespace Event

/-- The work requests a call asks for. -/
def workRequests : Event → Nat
  | .arrive _ | .poll .. | .waitReceive .. => 0
  | .postReceive .. | .postSend .. => 1
  | .postTransferBatch _ requests _ => requests.length

/-- The completions that arrive during an event. -/
def arrivals : Event → List Arrival
  | .arrive arrival => [arrival]
  | .postReceive .. | .postSend .. | .postTransferBatch .. => []
  | .poll _ _ looks | .waitReceive _ looks => looks.flatMap Look.arrivals

end Event

/-- The completion carries the opcode and the identifier of its request. -/
def Arrival.Right (arrival : Arrival) : Prop := arrival.completion.request = arrival.request

instance (arrival : Arrival) : Decidable arrival.Right :=
  inferInstanceAs (Decidable (_ = _))

def perform (connection : Connection) : Event → Connection
  | .arrive arrival => connection.arrive arrival
  | .postReceive region answer => (connection.postReceive region answer).2
  | .postSend region length answer => (connection.postSend region length answer).2
  | .postTransferBatch opcode requests answer =>
      (connection.postTransferBatch opcode requests answer).2
  | .poll opcode wrId looks => (connection.poll opcode.completion wrId looks).2
  | .waitReceive timeoutMs looks => (connection.waitReceive timeoutMs looks).2

/-- The state after a sequence of events. -/
def performAll (connection : Connection) (events : List Event) : Connection :=
  events.foldl perform connection

def totalRequests (events : List Event) : Nat := (events.map Event.workRequests).sum

/-- A queue pair as it is created, connected or not. -/
def fresh (created connected : Bool) : Connection where
  created := created
  connected := connected

section Flow

variable {connection connection' : Connection} {held : List IbvWc}

/-- Where completions are: expected, in the queue, or taken; and of the taken
ones, parked, returned, or held by the wait in progress. -/
structure Flow (connection : Connection) (held : List IbvWc) : Prop where
  signaled_perm : List.Perm connection.signaled
    (connection.expected ++ (connection.entries ++ connection.taken).map IbvWc.request)
  taken_perm : List.Perm connection.taken
    (connection.pendingCompletions ++ connection.returned.map Prod.snd ++ held)

/-- What a wait leaves alone. -/
structure SameRequests (connection connection' : Connection) : Prop where
  created_eq : connection'.created = connection.created
  nextSend_eq : connection'.nextSendWrId = connection.nextSendWrId
  nextReceive_eq : connection'.nextReceiveWrId = connection.nextReceiveWrId
  pending_eq : connection'.pendingReceiveIds = connection.pendingReceiveIds
  sends_eq : connection'.sends = connection.sends
  receives_eq : connection'.receives = connection.receives
  signaled_eq : connection'.signaled = connection.signaled
  returned_eq : connection'.returned = connection.returned

theorem SameRequests.refl (connection : Connection) : SameRequests connection connection :=
  ⟨rfl, rfl, rfl, rfl, rfl, rfl, rfl, rfl⟩

/-- Connections with the same requests can be chained. -/
theorem SameRequests.trans {connection'' : Connection} (h : SameRequests connection connection')
    (h' : SameRequests connection' connection'') : SameRequests connection connection'' where
  created_eq := h'.created_eq.trans h.created_eq
  nextSend_eq := h'.nextSend_eq.trans h.nextSend_eq
  nextReceive_eq := h'.nextReceive_eq.trans h.nextReceive_eq
  pending_eq := h'.pending_eq.trans h.pending_eq
  sends_eq := h'.sends_eq.trans h.sends_eq
  receives_eq := h'.receives_eq.trans h.receives_eq
  signaled_eq := h'.signaled_eq.trans h.signaled_eq
  returned_eq := h'.returned_eq.trans h.returned_eq

theorem arrive_same (connection : Connection) (arrival : Arrival) :
    SameRequests connection (connection.arrive arrival) := by
  unfold arrive
  split
  · exact ⟨rfl, rfl, rfl, rfl, rfl, rfl, rfl, rfl⟩
  · exact SameRequests.refl connection

/-- A right arrival completes one of the requests in flight. -/
theorem arrive_flow {arrival : Arrival} (hRight : arrival.Right) (h : Flow connection held) :
    Flow (connection.arrive arrival) held := by
  unfold arrive
  split
  · rename_i hExpected
    refine ⟨h.signaled_perm.trans ?_, h.taken_perm⟩
    simp only [List.append_assoc, List.map_append, List.map_cons, List.map_nil]
    rw [show arrival.completion.request = arrival.request from hRight]
    have hErase := List.perm_cons_erase hExpected.1
    calc List.Perm (connection.expected ++ (connection.entries.map IbvWc.request ++
            connection.taken.map IbvWc.request))
          (arrival.request :: connection.expected.erase arrival.request ++
            (connection.entries.map IbvWc.request ++ connection.taken.map IbvWc.request)) :=
        hErase.append_right _
      List.Perm _ (connection.expected.erase arrival.request ++
            (connection.entries.map IbvWc.request ++
              ([arrival.request] ++ connection.taken.map IbvWc.request))) := by
        rw [List.cons_append]
        refine (List.perm_middle.symm).trans (List.Perm.append_left _ ?_)
        exact List.perm_middle.symm
  · exact h

theorem arriveAll_same (connection : Connection) (arrivals : List Arrival) :
    SameRequests connection (arrivals.foldl arrive connection) := by
  induction arrivals generalizing connection with
  | nil => exact SameRequests.refl connection
  | cons arrival arrivals ih => exact (arrive_same connection arrival).trans (ih _)

theorem arriveAll_flow {arrivals : List Arrival} (hRight : ∀ arrival ∈ arrivals, arrival.Right)
    (h : Flow connection held) : Flow (arrivals.foldl arrive connection) held := by
  induction arrivals generalizing connection with
  | nil => exact h
  | cons arrival arrivals ih =>
      rw [List.forall_mem_cons] at hRight
      exact ih hRight.2 (arrive_flow hRight.1 h)

/-- Arrivals only append to the queue. -/
theorem arriveAll_entries (connection : Connection) (arrivals : List Arrival) :
    ∃ later, (arrivals.foldl arrive connection).entries = connection.entries ++ later := by
  induction arrivals generalizing connection with
  | nil => exact ⟨[], by simp⟩
  | cons arrival arrivals ih =>
      obtain ⟨later, hLater⟩ := ih (connection.arrive arrival)
      rw [List.foldl_cons, hLater]
      unfold arrive
      split
      · exact ⟨arrival.completion :: later, by simp⟩
      · exact ⟨later, rfl⟩

/-- The completion a wait holds, if it found one. -/
def heldBy : Except Error IbvWc → List IbvWc
  | .error _ => []
  | .ok completion => [completion]

theorem takeEntry_same (connection : Connection) (completion : IbvWc) (entries : List IbvWc) :
    SameRequests connection (connection.takeEntry completion entries) :=
  ⟨rfl, rfl, rfl, rfl, rfl, rfl, rfl, rfl⟩

theorem park_same (connection : Connection) (completion : IbvWc) :
    SameRequests connection (connection.park completion) :=
  ⟨rfl, rfl, rfl, rfl, rfl, rfl, rfl, rfl⟩

section Loop

variable {opcode : WcOpcode} {wrId : UInt64} {looks : List Look}

theorem pollLoop_same (looks : List Look) (connection : Connection) :
    SameRequests connection (pollLoop opcode wrId looks connection).2 := by
  induction looks generalizing connection with
  | nil => exact SameRequests.refl connection
  | cons look looks ih =>
      have hArrive := arriveAll_same connection look.arrivals
      unfold pollLoop
      dsimp only
      split
      · exact hArrive
      · exact hArrive.trans (ih _)
      · exact hArrive.trans (ih _)
      · rename_i completion entries _ _
        have hTake := hArrive.trans (takeEntry_same _ completion entries)
        split
        · exact hTake
        · exact (hTake.trans (park_same _ completion)).trans (ih _)

/-- A completion that is taken is held by the caller. -/
theorem take_flow {completion : IbvWc} {entries : List IbvWc} (h : Flow connection [])
    (hEntries : connection.entries = completion :: entries) :
    Flow (connection.takeEntry completion entries) [completion] := by
  refine ⟨h.signaled_perm.trans ?_, ?_⟩
  · rw [hEntries]
    apply List.Perm.append_left
    apply List.Perm.map
    dsimp only [takeEntry]
    rw [List.cons_append, ← List.append_assoc]
    exact List.perm_append_singleton completion (entries ++ connection.taken) |>.symm
  · have hTaken := h.taken_perm
    rw [List.append_nil] at hTaken
    exact hTaken.append_right [completion]

/-- A completion that is parked is held by nobody. -/
theorem park_flow {completion : IbvWc} (h : Flow connection [completion]) :
    Flow (connection.park completion) [] := by
  refine ⟨h.signaled_perm, h.taken_perm.trans ?_⟩
  dsimp only [park]
  rw [List.append_nil, List.append_assoc, List.append_assoc]
  exact List.Perm.append_left _ List.perm_append_comm

/-- The loop ends with its own completion in hand or with none. -/
theorem pollLoop_flow (hRight : ∀ arrival ∈ looks.flatMap Look.arrivals, arrival.Right)
    (h : Flow connection []) :
    Flow (pollLoop opcode wrId looks connection).2
      (heldBy (pollLoop opcode wrId looks connection).1) := by
  induction looks generalizing connection with
  | nil => exact h
  | cons look looks ih =>
      rw [List.flatMap_cons, List.forall_mem_append] at hRight
      have hArrive := arriveAll_flow hRight.1 h
      unfold pollLoop
      dsimp only
      split
      · exact hArrive
      · exact ih hRight.2 hArrive
      · exact ih hRight.2 hArrive
      · rename_i hEntries
        have hTake := take_flow hArrive hEntries
        split
        · exact hTake
        · exact ih hRight.2 (park_flow hTake)

/-- The completion that the loop returns is the one it looks for. -/
theorem pollLoop_match {completion : IbvWc}
    (h : (pollLoop opcode wrId looks connection).1 = .ok completion) :
    completion.request = { opcode := opcode, wrId := wrId } := by
  induction looks generalizing connection with
  | nil => cases h
  | cons look looks ih =>
      unfold pollLoop at h
      dsimp only at h
      split at h
      · cases h
      · exact ih h
      · exact ih h
      · split at h
        · rename_i hMatch
          cases h
          rw [IbvWc.request, hMatch.1, hMatch.2]
        · exact ih h

end Loop

theorem find_perm_eraseP {Item : Type} {accept : Item → Bool} {items : List Item} {item : Item}
    (h : items.find? accept = some item) : List.Perm items (item :: items.eraseP accept) := by
  obtain ⟨hAccept, before, later, hItems, hBefore⟩ := List.find?_eq_some_iff_append.mp h
  rw [hItems, List.eraseP_append_right _ fun item hItem => by simpa using hBefore item hItem,
    List.eraseP_cons_of_pos hAccept]
  exact List.perm_middle

section Matching

variable {opcode : WcOpcode} {wrId : UInt64} {looks : List Look}

/-- What a search for a completion comes to. -/
inductive Found (connection : Connection) (request : Signaled) :
    Except Error IbvWc × Connection → Prop
  | missed {error : Error} {connection' : Connection}
      (hSame : SameRequests connection connection') (hFlow : Flow connection' []) :
      Found connection request (.error error, connection')
  | obtained {completion : IbvWc} {connection' : Connection}
      (hSame : SameRequests connection connection') (hFlow : Flow connection' [completion])
      (hMatch : completion.request = request) :
      Found connection request (.ok completion, connection')

/-- The loop finds what has arrived and parks what it passes. -/
theorem pollLoop_found (hRight : ∀ arrival ∈ looks.flatMap Look.arrivals, arrival.Right)
    (h : Flow connection []) :
    Found connection { opcode := opcode, wrId := wrId } (pollLoop opcode wrId looks connection) := by
  have hSame : SameRequests connection (pollLoop opcode wrId looks connection).2 :=
    pollLoop_same looks connection
  have hFlow : Flow (pollLoop opcode wrId looks connection).2
      (heldBy (pollLoop opcode wrId looks connection).1) := pollLoop_flow hRight h
  have hMatch : ∀ completion, (pollLoop opcode wrId looks connection).1 = .ok completion →
      completion.request = { opcode := opcode, wrId := wrId } := fun _ hFound =>
    pollLoop_match hFound
  generalize pollLoop opcode wrId looks connection = run at hSame hFlow hMatch ⊢
  obtain ⟨found, connection'⟩ := run
  cases found with
  | error error => exact .missed hSame hFlow
  | ok completion => exact .obtained hSame hFlow (hMatch completion rfl)

theorem pollMatching_found (opcode : WcOpcode) (wrId : UInt64)
    (hRight : ∀ arrival ∈ looks.flatMap Look.arrivals, arrival.Right) (h : Flow connection []) :
    Found connection { opcode := opcode, wrId := wrId }
      (connection.pollMatching opcode wrId looks) := by
  unfold pollMatching
  split
  · exact .missed (SameRequests.refl connection) h
  · split
    · rename_i completion hFound
      have hMatch := List.find?_some hFound
      rw [decide_eq_true_eq] at hMatch
      refine .obtained ⟨rfl, rfl, rfl, rfl, rfl, rfl, rfl, rfl⟩
        ⟨h.signaled_perm, h.taken_perm.trans ?_⟩ ?_
      · rw [List.append_nil]
        refine ((find_perm_eraseP hFound).append_right _).trans ?_
        rw [List.cons_append]
        exact (List.perm_append_singleton completion _).symm
      · rw [IbvWc.request, hMatch.1, hMatch.2]
    · exact pollLoop_found hRight h

end Matching

theorem recordReturned_flow {completion : IbvWc} (request : Signaled)
    (h : Flow connection [completion]) :
    Flow (connection.recordReturned request (.ok completion)) [] := by
  refine ⟨h.signaled_perm, h.taken_perm.trans ?_⟩
  simp [recordReturned]

end Flow

section Issue

variable {connection connection' : Connection} {budget : Nat}

/-- The requests posted so far and their identifiers. A budget bounds how many
identifiers have been used up. -/
structure Issued (budget : Nat) (connection : Connection) : Prop where
  receives_ids : connection.receives =
    (List.range connection.receives.length).map (SkipZero.after 1)
  nextReceive_eq : connection.nextReceiveWrId = SkipZero.after 1 connection.receives.length
  receives_le : connection.receives.length ≤ budget
  sends_ids : ∃ used, used ≤ budget ∧ connection.nextSendWrId = SkipZero.after 4 used ∧
    connection.sends.Sublist ((List.range used).map (SkipZero.after 4))
  signaled_receives : (connection.signaled.filter fun request => request.opcode = .recv).map
    Signaled.wrId = connection.receives
  signaled_sends : ((connection.signaled.filter fun request => request.opcode ≠ .recv).map
    Signaled.wrId).Sublist connection.sends
  created_of_signaled : connection.signaled ≠ [] → connection.created = true

/-- The identifiers depend on the requests only. -/
theorem Issued.of_same (h : Issued budget connection) (hSame : SameRequests connection connection') :
    Issued budget connection' := by
  obtain ⟨hCreated, hSend, hReceive, -, hSends, hReceives, hSignaled, -⟩ := hSame
  refine ⟨?_, ?_, ?_, ?_, ?_, ?_, ?_⟩
  · rw [hReceives]
    exact h.receives_ids
  · rw [hReceive, hReceives]
    exact h.nextReceive_eq
  · rw [hReceives]
    exact h.receives_le
  · rw [hSend, hSends]
    exact h.sends_ids
  · rw [hSignaled, hReceives]
    exact h.signaled_receives
  · rw [hSignaled, hSends]
    exact h.signaled_sends
  · rw [hSignaled, hCreated]
    exact h.created_of_signaled

theorem Issued.mono {larger : Nat} (h : Issued budget connection) (hLarger : budget ≤ larger) :
    Issued larger connection := by
  obtain ⟨used, hUsed, hSends⟩ := h.sends_ids
  exact { h with
    receives_le := h.receives_le.trans hLarger
    sends_ids := ⟨used, hUsed.trans hLarger, hSends⟩ }

/-- Signaled requests of the send queue are not receives. -/
theorem signals_opcode {wrs : List IbvSendWr} {request : Signaled} (h : request ∈ signals wrs) :
    request.opcode ≠ .recv := by
  simp only [signals, List.mem_map, List.mem_filter] at h
  obtain ⟨wr, -, rfl⟩ := h
  cases wr.opcode <;> simp [WrOpcode.completion]

/-- The signaled identifiers are among those of the work requests, in order. -/
theorem signals_ids (wrs : List IbvSendWr) :
    ((signals wrs).map Signaled.wrId).Sublist (wrs.map fun wr => wr.wrId) := by
  rw [signals, List.map_map]
  exact List.filter_sublist.map _

/-- Requests are posted with identifiers from those just used up. -/
theorem Issued.post {count : Nat} {wrs : List IbvSendWr} (h : Issued budget connection)
    (hIds : (wrs.map fun wr => wr.wrId).Sublist
      ((List.range count).map (SkipZero.after connection.nextSendWrId)))
    (hCreated : connection.created = true) :
    Issued (budget + count) { connection.ibvPostSend wrs with
      nextSendWrId := SkipZero.after connection.nextSendWrId count } := by
  obtain ⟨used, hUsed, hNext, hSends⟩ := h.sends_ids
  have hKeep : (signals wrs).filter (fun request => request.opcode ≠ .recv) = signals wrs := by
    rw [List.filter_eq_self]
    intro request hRequest
    simpa using signals_opcode hRequest
  have hDrop : (signals wrs).filter (fun request => request.opcode = .recv) = [] := by
    rw [List.filter_eq_nil_iff]
    intro request hRequest
    simpa using signals_opcode hRequest
  refine ⟨h.receives_ids, h.nextReceive_eq, h.receives_le.trans (Nat.le_add_right ..),
    ⟨used + count, Nat.add_le_add_right hUsed count, ?_, ?_⟩, ?_, ?_, fun _ => hCreated⟩
  · rw [SkipZero.after_add, ← hNext]
  · rw [List.range_add, List.map_append, List.map_map]
    apply hSends.append
    rw [hNext] at hIds
    simpa only [Function.comp_def, SkipZero.after_add] using hIds
  · dsimp only [ibvPostSend]
    rw [List.filter_append, hDrop, List.append_nil]
    exact h.signaled_receives
  · dsimp only [ibvPostSend]
    rw [List.filter_append, hKeep, List.map_append]
    exact h.signaled_sends.append (signals_ids wrs)

/-- A receive takes the next identifier of its own counter. -/
theorem Issued.postRecv (h : Issued budget connection) (hCreated : connection.created = true) :
    Issued (budget + 1) { connection.ibvPostRecv connection.nextReceiveWrId with
      nextReceiveWrId := nextWrId connection.nextReceiveWrId
      pendingReceiveIds := connection.pendingReceiveIds ++ [connection.nextReceiveWrId] } := by
  obtain ⟨used, hUsed, hSends⟩ := h.sends_ids
  refine ⟨?_, ?_, ?_, ⟨used, Nat.le_succ_of_le hUsed, hSends⟩, ?_, ?_, fun _ => hCreated⟩
  · dsimp only [ibvPostRecv]
    rw [List.length_append, List.length_singleton, List.range_succ, List.map_append,
      ← h.receives_ids, h.nextReceive_eq, List.map_singleton]
  · dsimp only [ibvPostRecv]
    rw [List.length_append, List.length_singleton, SkipZero.after, ← h.nextReceive_eq]
    rfl
  · simpa [ibvPostRecv] using h.receives_le
  · simp [ibvPostRecv, List.filter_append, h.signaled_receives]
  · simpa [ibvPostRecv, List.filter_append] using h.signaled_sends

/-- What preparing a batch does: identifiers are used up, and a batch that is
prepared as a whole holds them in order. -/
theorem prepareTransfers_effect (opcode : WrOpcode) (requests : List TransferRequest)
    (connection : Connection) : ∃ count, count ≤ requests.length ∧
      (prepareTransfers opcode requests connection).2 = { connection with
        nextSendWrId := SkipZero.after connection.nextSendWrId count } ∧
      ∀ wrs, (prepareTransfers opcode requests connection).1 = some wrs →
        wrs.map (fun wr => wr.wrId) =
          (List.range count).map (SkipZero.after connection.nextSendWrId) := by
  induction requests generalizing connection with
  | nil => exact ⟨0, Nat.le_refl _, rfl, fun wrs hWrs => by cases hWrs; rfl⟩
  | cons request requests ih =>
      unfold prepareTransfers
      split
      · exact ⟨0, Nat.zero_le _, rfl, fun wrs hWrs => by cases hWrs⟩
      · split
        · exact ⟨0, Nat.zero_le _, rfl, fun wrs hWrs => by cases hWrs⟩
        · obtain ⟨count, hCount, hNext, hIds⟩ := ih { connection with
            nextSendWrId := nextWrId connection.nextSendWrId }
          have hShift : SkipZero.after (nextWrId connection.nextSendWrId) =
              SkipZero.after connection.nextSendWrId ∘ Nat.succ := by
            funext index
            rw [Function.comp_apply, Nat.succ_eq_one_add, SkipZero.after_add]
            rfl
          refine ⟨count + 1, Nat.succ_le_succ hCount, ?_, ?_⟩
          · dsimp only
            rw [hNext]
            dsimp only
            rw [hShift, Function.comp_apply]
          · intro wrs hWrs
            obtain ⟨rest, hRest, rfl⟩ := Option.map_eq_some_iff.mp hWrs
            rw [List.map_cons, hIds rest hRest, List.range_succ_eq_map, List.map_cons, List.map_map,
              ← hShift]
            rfl

end Issue

section Runs

variable {connection : Connection} {budget : Nat}

/-- The receives that a wait has retired, in the order of the waits. -/
def retired (connection : Connection) : List UInt64 :=
  (connection.returned.filter fun entry => entry.1.opcode = .recv).map fun entry => entry.1.wrId

/-- What holds of a queue pair at any time. -/
structure Accounted (budget : Nat) (connection : Connection) : Prop where
  flow : Flow connection []
  issued : Issued budget connection
  returned_match : ∀ entry ∈ connection.returned, entry.2.request = entry.1
  receives_eq : connection.receives = retired connection ++ connection.pendingReceiveIds
  pending_le : connection.pendingReceiveIds.length ≤ kQpDepth

/-- A fresh connection has nothing to account for. -/
theorem fresh_accounted (created connected : Bool) : Accounted 0 (fresh created connected) where
  flow := ⟨List.Perm.refl _, List.Perm.refl _⟩
  issued := ⟨rfl, rfl, Nat.le_refl _, ⟨0, Nat.le_refl _, rfl, List.Sublist.refl _⟩, rfl,
    List.Sublist.refl _, fun h => absurd rfl h⟩
  returned_match := fun _ hEntry => absurd hEntry List.not_mem_nil
  receives_eq := rfl
  pending_le := Nat.zero_le _

/-- The account depends on the requests and on the flow. -/
theorem Accounted.of_same {connection' : Connection} (h : Accounted budget connection)
    (hSame : SameRequests connection connection') (hFlow : Flow connection' []) :
    Accounted budget connection' where
  flow := hFlow
  issued := h.issued.of_same hSame
  returned_match := by
    rw [hSame.returned_eq]
    exact h.returned_match
  receives_eq := by
    rw [hSame.receives_eq, hSame.pending_eq, retired, hSame.returned_eq]
    exact h.receives_eq
  pending_le := by
    rw [hSame.pending_eq]
    exact h.pending_le

/-- Posting sends leaves the completions alone. -/
theorem ibvPostSend_flow {wrs : List IbvSendWr} (h : Flow connection []) :
    Flow (connection.ibvPostSend wrs) [] := by
  refine ⟨(h.signaled_perm.append_right _).trans ?_, h.taken_perm⟩
  dsimp only [ibvPostSend]
  rw [List.append_assoc, List.append_assoc]
  exact List.Perm.append_left _ List.perm_append_comm

theorem ibvPostRecv_flow {wrId : UInt64} (h : Flow connection []) :
    Flow (connection.ibvPostRecv wrId) [] := by
  refine ⟨(h.signaled_perm.append_right _).trans ?_, h.taken_perm⟩
  dsimp only [ibvPostRecv]
  rw [List.append_assoc, List.append_assoc]
  exact List.Perm.append_left _ List.perm_append_comm

/-- A region is valid only on a queue pair that exists. -/
theorem created_of_validLocalRegion {qp : QueuePair} {region : MemoryRegion}
    {localOffset : UInt64} {length : UInt32}
    (h : qp.validLocalRegion region localOffset length = true) : qp.created = true := by
  simp only [QueuePair.validLocalRegion, Bool.and_eq_true] at h
  exact h.1.1.1.1.1.1.1.1.1

/-- A receive keeps the account, whatever the device answers. -/
theorem postReceive_accounted (h : Accounted budget connection) (region : MemoryRegion)
    (answer : Option String) : Accounted (budget + 1) (connection.postReceive region answer).2 := by
  have hSame : Accounted (budget + 1) connection :=
    { h with issued := h.issued.mono (Nat.le_succ budget) }
  unfold Connection.postReceive
  split
  · exact hSame
  · rename_i hValid
    split
    · exact hSame
    · rename_i hDepth
      cases answer with
      | some reason => exact hSame
      | none =>
          have hCreated : connection.created = true := by
            rw [Bool.or_eq_true, Bool.not_eq_true', not_or, Bool.not_eq_false] at hValid
            exact created_of_validLocalRegion hValid.1
          have hFlow : Flow (connection.ibvPostRecv connection.nextReceiveWrId) [] :=
            ibvPostRecv_flow h.flow
          refine ⟨⟨hFlow.signaled_perm, hFlow.taken_perm⟩, h.issued.postRecv hCreated,
            h.returned_match, ?_, ?_⟩
          · dsimp only [ibvPostRecv, retired]
            rw [← List.append_assoc]
            exact congrArg (· ++ [connection.nextReceiveWrId]) h.receives_eq
          · dsimp only
            rw [List.length_append, List.length_singleton]
            omega

/-- Sends are handed over with identifiers from those just used up. -/
theorem Accounted.post {count : Nat} {wrs : List IbvSendWr} (h : Accounted budget connection)
    (hIds : (wrs.map fun wr => wr.wrId).Sublist
      ((List.range count).map (SkipZero.after connection.nextSendWrId)))
    (hCreated : connection.created = true) :
    Accounted (budget + count) { connection.ibvPostSend wrs with
      nextSendWrId := SkipZero.after connection.nextSendWrId count } := by
  have hFlow : Flow (connection.ibvPostSend wrs) [] := ibvPostSend_flow h.flow
  exact ⟨⟨hFlow.signaled_perm, hFlow.taken_perm⟩, h.issued.post hIds hCreated, h.returned_match,
    h.receives_eq, h.pending_le⟩

theorem Accounted.mono {larger : Nat} (h : Accounted budget connection)
    (hLarger : budget ≤ larger) : Accounted larger connection :=
  { h with issued := h.issued.mono hLarger }

theorem postSend_accounted (h : Accounted budget connection) (region : MemoryRegion)
    (length : UInt32) (answer : PostAnswer) :
    Accounted (budget + 1) (connection.postSend region length answer).2 := by
  have hSame : Accounted (budget + 1) connection := h.mono (Nat.le_succ budget)
  unfold Connection.postSend
  split
  · exact hSame
  · rename_i hValid
    rw [Bool.not_eq_true', Bool.not_eq_false] at hValid
    cases answer with
    | refused accepted reason => exact hSame
    | accepted =>
        exact h.post (List.Sublist.refl _) (created_of_validLocalRegion hValid)

theorem postTransferBatch_accounted (h : Accounted budget connection) (opcode : WrOpcode)
    (requests : List TransferRequest) (answer : PostAnswer) :
    Accounted (budget + requests.length)
      (connection.postTransferBatch opcode requests answer).2 := by
  unfold postTransferBatch
  split
  · exact h.mono (Nat.le_add_right ..)
  · rename_i hOpen
    have hCreated : connection.created = true := by
      rw [Bool.or_eq_true, Bool.or_eq_true, Bool.not_eq_true', not_or, not_or,
        Bool.not_eq_false] at hOpen
      exact hOpen.1.1
    obtain ⟨count, hCount, hNext, hIds⟩ := prepareTransfers_effect opcode requests connection
    have hBudget : budget + count ≤ budget + requests.length := Nat.add_le_add_left hCount budget
    split
    · rename_i connection' hPrepared
      rw [hPrepared] at hNext
      subst hNext
      have hNone : connection.ibvPostSend [] = connection := by simp [ibvPostSend, signals]
      have hPost : Accounted (budget + count) { connection.ibvPostSend [] with
          nextSendWrId := SkipZero.after connection.nextSendWrId count } :=
        h.post (List.nil_sublist _) hCreated
      rw [hNone] at hPost
      exact hPost.mono hBudget
    · rename_i wrs connection' hPrepared
      rw [hPrepared] at hNext hIds
      subst hNext
      specialize hIds wrs rfl
      cases answer with
      | refused accepted reason =>
          refine (h.post ?_ hCreated).mono hBudget
          rw [← hIds]
          exact ((List.take_sublist ..).trans (List.dropLast_sublist wrs)).map _
      | accepted =>
          refine (h.post ?_ hCreated).mono hBudget
          rw [← hIds]

theorem poll_accounted (h : Accounted budget connection) (opcode : WrOpcode) (wrId : UInt64)
    {looks : List Look} (hRight : ∀ arrival ∈ looks.flatMap Look.arrivals, arrival.Right) :
    Accounted budget (connection.poll opcode.completion wrId looks).2 := by
  have hSend : opcode.completion ≠ .recv := by cases opcode <;> simp [WrOpcode.completion]
  have hFound := pollMatching_found opcode.completion wrId hRight h.flow
  unfold poll
  generalize connection.pollMatching opcode.completion wrId looks = run at hFound ⊢
  obtain ⟨found, connection'⟩ := run
  cases hFound with
  | missed hSame hFlow => exact h.of_same hSame hFlow
  | @obtained completion _ hSame hFlow hMatch =>
      have hIssued := h.issued.of_same hSame
      refine ⟨recordReturned_flow _ hFlow, ⟨hIssued.1, hIssued.2, hIssued.3, hIssued.4, hIssued.5,
        hIssued.6, hIssued.7⟩, ?_, ?_, ?_⟩
      · dsimp only [recordReturned]
        rw [hSame.returned_eq, List.forall_mem_append]
        exact ⟨h.returned_match, by simpa using hMatch⟩
      · dsimp only [recordReturned, retired]
        rw [hSame.receives_eq, hSame.pending_eq, hSame.returned_eq, List.filter_append]
        simpa [hSend, retired] using h.receives_eq
      · dsimp only [recordReturned]
        rw [hSame.pending_eq]
        exact h.pending_le

theorem waitReceive_accounted (h : Accounted budget connection) (timeoutMs : UInt32)
    {looks : List Look} (hRight : ∀ arrival ∈ looks.flatMap Look.arrivals, arrival.Right) :
    Accounted budget (connection.waitReceive timeoutMs looks).2 := by
  unfold Connection.waitReceive
  split
  · exact h
  · split
    · exact h
    · rename_i wrId rest hPending
      have hFound := pollMatching_found .recv wrId hRight h.flow
      generalize connection.pollMatching .recv wrId looks = run at hFound ⊢
      obtain ⟨found, connection'⟩ := run
      have hReceives := h.receives_eq
      have hLength := h.pending_le
      rw [hPending] at hReceives hLength
      cases hFound with
      | missed hSame hFlow => exact h.of_same hSame hFlow
      | @obtained completion _ hSame hFlow hMatch =>
          have hNext := recordReturned_flow { opcode := .recv, wrId := wrId } hFlow
          have hIssued := h.issued.of_same hSame
          refine ⟨⟨hNext.1, hNext.2⟩, ⟨hIssued.1, hIssued.2, hIssued.3, hIssued.4, hIssued.5,
            hIssued.6, hIssued.7⟩, ?_, ?_, ?_⟩
          · dsimp only [recordReturned]
            rw [hSame.returned_eq, List.forall_mem_append]
            exact ⟨h.returned_match, by simpa using hMatch⟩
          · dsimp only [recordReturned, retired]
            rw [hSame.receives_eq, hSame.returned_eq, List.filter_append]
            simpa [retired] using hReceives
          · exact Nat.le_of_succ_le hLength

/-- Every event keeps the account. -/
theorem perform_accounted (h : Accounted budget connection) (event : Event)
    (hRight : ∀ arrival ∈ event.arrivals, arrival.Right) :
    Accounted (budget + event.workRequests) (perform connection event) := by
  cases event with
  | arrive arrival =>
      exact h.of_same (arrive_same connection arrival)
        (arrive_flow (hRight arrival (List.mem_singleton_self arrival)) h.flow)
  | postReceive region answer => exact postReceive_accounted h region answer
  | postSend region length answer => exact postSend_accounted h region length answer
  | postTransferBatch opcode requests answer =>
      exact postTransferBatch_accounted h opcode requests answer
  | poll opcode wrId looks => exact poll_accounted h opcode wrId hRight
  | waitReceive timeoutMs looks => exact waitReceive_accounted h timeoutMs hRight

theorem performAll_accounted {events : List Event} (h : Accounted budget connection)
    (hRight : ∀ event ∈ events, ∀ arrival ∈ event.arrivals, arrival.Right) :
    Accounted (budget + totalRequests events) (performAll connection events) := by
  induction events generalizing connection budget with
  | nil => exact h
  | cons event events ih =>
      rw [List.forall_mem_cons] at hRight
      have hStep := perform_accounted h event hRight.1
      have hRest := ih hStep hRight.2
      rw [Nat.add_assoc] at hRest
      exact hRest

end Runs

end NdsStorage.Server.Endpoint
