import NdsStorage.Server.PayloadTrace
import NdsStorage.System.SynchronousClient

/-! One namespace behind several queues. Workers and client interleave in any
order, and every byte of a payload moves on its own at some moment while its
payload is open. What the client had seen complete when it submitted a command
is kept next to the physical state, and so is the byte that was last stored at
each position. -/
namespace NdsStorage.System

open Bytes Interaction Server Client

/-- What one move of a worker does to what others can see of it. -/
structure Progress (sent : Nat) (before after : Fabric) : Prop where
  history_subset : ∀ turn, before.history turn ⊆ after.history turn
  received_le : before.received ≤ before.arrived → after.received ≤ after.arrived
  arrived_le : before.arrived ≤ sent → after.arrived ≤ sent

/-- A fabric whose history has not moved has progressed. -/
theorem Progress.same {sent : Nat} {before after : Fabric} (hHistory : after.history = before.history)
    (hReceived : after.received = before.received) (hArrived : after.arrived = before.arrived) :
    Progress sent before after where
  history_subset := fun _ => hHistory ▸ List.Subset.refl _
  received_le := fun h => hReceived ▸ hArrived ▸ h
  arrived_le := fun h => hArrived ▸ h

theorem Progress.record {sent : Nat} {before after : Fabric} (h : Progress sent before after)
    (command : Nat) (event : Event) : Progress sent before (after.record command event) where
  history_subset := by
    intro turn
    by_cases hSame : turn = command
    · subst hSame
      simp only [Fabric.record, Function.update_self]
      exact List.subset_append_of_subset_left _ (h.history_subset turn)
    · simp only [Fabric.record, Function.update_of_ne hSame]
      exact h.history_subset turn
  received_le := h.received_le
  arrived_le := h.arrived_le

theorem reply_progress {traffic : Traffic} {session : Session} {sent : Nat}
    {before after : Fabric} {call : Call} {answer : call.Answer}
    (h : Reply traffic session before call answer after) : Progress sent before after := by
  cases h with
  | waitReceive hArrived _ =>
      exact {
        history_subset := fun _ => List.Subset.refl _
        received_le := fun _ => hArrived
        arrived_le := fun hLess => hLess }
  | loadCommand => exact (Progress.same rfl rfl rfl).record ..
  | postRead | waitRead | postTransferBatch | waitTransferBatch | postWrite | waitWrite =>
      apply Progress.record
      exact .same rfl rfl rfl
  | postReceive | loadEntries | loadCompletion | storeCompletion => exact .same rfl rfl rfl
  | failed => cases call <;> exact .same rfl rfl rfl

theorem clientWorld_progress {traffic : Traffic} {session : Session} {sent : Nat}
    {config config' : Config} (h : (clientWorld traffic session sent).Step config config') :
    Progress sent config.2 config'.2 := by
  cases h with
  | drift hDrift =>
      obtain ⟨hSent, -, rfl⟩ := hDrift
      exact {
        history_subset := fun _ => List.Subset.refl _
        received_le := fun hReceived => Nat.le_succ_of_le hReceived
        arrived_le := fun _ => hSent }
  | reply hReply => exact reply_progress hReply

/-- A command, by its queue and by its turn on the queue. -/
structure CommandRef where
  queue : Nat
  turn : Nat
deriving DecidableEq, Repr

/-- One byte of the payload of a command. -/
structure PayloadByte where
  command : CommandRef
  request : Nat
  offset : Nat
deriving DecidableEq, Repr

/-- The position in the namespace that a byte of these requests belongs to. -/
def Moves (requests : List TransferRequest) (byte : PayloadByte) (position : Nat) : Prop :=
  ∃ request, requests[byte.request]? = some request ∧ byte.offset < request.length.toNat ∧
    position = request.localOffset.toNat + byte.offset

structure SharedNamespace where
  configs : Nat → Config
  submitted : Nat → Nat
  bytes : Nat → UInt8
  buffers : PayloadByte → Option UInt8
  landed : PayloadByte → Prop
  writer : Nat → Option PayloadByte
  observed : CommandRef → Option StorageStatus
  seen : CommandRef → CommandRef → Option StorageStatus

namespace SharedNamespace

def fabric (state : SharedNamespace) (queue : Nat) : Fabric := (state.configs queue).2

/-- One worker has moved on. -/
def place (state : SharedNamespace) (queue : Nat) (config : Config) : SharedNamespace :=
  { state with configs := Function.update state.configs queue config }

@[simp] theorem place_fabric_self (state : SharedNamespace) (queue : Nat) (config : Config) :
    (state.place queue config).fabric queue = config.2 := by
  simp [fabric, place]

/-- A step of one worker leaves the others alone. -/
theorem place_fabric_other (state : SharedNamespace) {queue other : Nat} (h : other ≠ queue)
    (config : Config) : (state.place queue config).fabric other = state.fabric other := by
  simp [fabric, place, h]

@[simp] theorem place_place (state : SharedNamespace) (queue : Nat) (first second : Config) :
    (state.place queue first).place queue second = state.place queue second := by
  simp only [place, Function.update_idem]

@[simp] theorem place_same (state : SharedNamespace) (queue : Nat) :
    state.place queue (state.configs queue) = state := by
  simp only [place, Function.update_eq_self]

/-- A byte of a write reaches the namespace. -/
def store (state : SharedNamespace) (byte : PayloadByte) (position : Nat) (value : UInt8) :
    SharedNamespace :=
  { state with
    bytes := Function.update state.bytes position value
    writer := Function.update state.writer position (some byte)
    landed := fun other => other = byte ∨ state.landed other }

/-- A byte of the namespace reaches the buffer of a read. -/
def deliver (state : SharedNamespace) (byte : PayloadByte) (position : Nat) : SharedNamespace :=
  { state with
    buffers := Function.update state.buffers byte (some (state.bytes position))
    landed := fun other => other = byte ∨ state.landed other }

def submit (state : SharedNamespace) (queue : Nat) : SharedNamespace :=
  { state with
    submitted := Function.update state.submitted queue (state.submitted queue + 1)
    seen := Function.update state.seen { queue := queue, turn := state.submitted queue }
      state.observed }

def observe (state : SharedNamespace) (command : CommandRef) (status : StorageStatus) :
    SharedNamespace :=
  { state with observed := Function.update state.observed command (some status) }

/-- Every payload that a worker has waited for has moved all its bytes. -/
def Settled (landed : PayloadByte → Prop) (queue : Nat) (fabric : Fabric) : Prop :=
  ∀ turn opcode requests, .payloadPosted opcode requests ∈ fabric.history turn →
    .payloadWaited ∈ fabric.history turn → ∀ byte position,
      byte.command = { queue := queue, turn := turn } → Moves requests byte position → landed byte

variable (traffic : Nat → Traffic) (session : Session) (workers : List Worker)
  (content : PayloadByte → UInt8)

/-- The workers start on a namespace with some content. -/
def begin (bytes : Nat → UInt8) : SharedNamespace where
  configs := fun queue => match workers[queue]? with
    | some worker => ((runWorker session worker).run, Fabric.initial)
    | none => (.done (.ok ()), Fabric.initial)
  submitted := fun _ => 0
  bytes := bytes
  buffers := fun _ => none
  landed := fun _ => False
  writer := fun _ => none
  observed := fun _ => none
  seen := fun _ _ => none

/-- The wait for a payload returns only when all its bytes have moved. A byte
may move more than once before that. -/
inductive Step : SharedNamespace → SharedNamespace → Prop
  | submit {state : SharedNamespace} (queue : Nat) : Step state (state.submit queue)
  | serve {state : SharedNamespace} {queue : Nat} {worker : Worker} {config : Config}
      (hWorker : workers[queue]? = some worker)
      (hStep : (clientWorld (traffic queue) session (state.submitted queue)).Step
        (state.configs queue) config)
      (hSettled : Settled state.landed queue config.2) :
      Step state (state.place queue config)
  | store {state : SharedNamespace} {byte : PayloadByte} {position : Nat}
      {requests : List TransferRequest}
      (hOpen : (state.fabric byte.command.queue).PayloadOpen byte.command.turn .rdmaRead requests)
      (hMoves : Moves requests byte position) :
      Step state (state.store byte position (content byte))
  | deliver {state : SharedNamespace} {byte : PayloadByte} {position : Nat}
      {requests : List TransferRequest}
      (hOpen : (state.fabric byte.command.queue).PayloadOpen byte.command.turn .rdmaWrite requests)
      (hMoves : Moves requests byte position) : Step state (state.deliver byte position)
  | observe {state : SharedNamespace} {command : CommandRef} {address : UInt64}
      {key length : UInt32} {record : Buffer} {completion : StorageCompletion}
      (hPosted : .completionPosted address key length record ∈
        (state.fabric command.queue).history command.turn)
      (hRecord : deserializeStorageCompletion record = .ok completion) :
      Step state (state.observe command completion.status)

/-- Every state that some interleaving reaches. -/
def Reached (bytes : Nat → UInt8) (state : SharedNamespace) : Prop :=
  Relation.ReflTransGen (Step traffic session workers content) (begin session workers bytes) state

/-- A byte of a valid read or write command, and the position it is about. -/
def Covers (isRead : Bool) (byte : PayloadByte) (position : Nat) : Prop :=
  ∃ operation entries entry,
    deserializeStorageOperation ((traffic byte.command.queue).message byte.command.turn) =
      .ok operation ∧ operation.isRead = isRead ∧
    described session.storageSize ((traffic byte.command.queue).message byte.command.turn)
      ((traffic byte.command.queue).descriptors byte.command.turn) = some entries ∧
    entries[byte.request]? = some entry ∧ byte.offset < entry.length.toNat ∧
    position = entry.offset.toNat + byte.offset

variable {traffic session workers content} {state : SharedNamespace}

theorem Covers.unique {isRead isRead' : Bool} {byte : PayloadByte} {position position' : Nat}
    (h : Covers traffic session isRead byte position)
    (h' : Covers traffic session isRead' byte position') :
    isRead = isRead' ∧ position = position' := by
  obtain ⟨operation, entries, entry, hOperation, rfl, hEntries, hEntry, -, rfl⟩ := h
  obtain ⟨operation', entries', entry', hOperation', rfl, hEntries', hEntry', -, rfl⟩ := h'
  rw [hOperation] at hOperation'
  cases hOperation'
  rw [hEntries] at hEntries'
  cases hEntries'
  rw [hEntry] at hEntry'
  cases hEntry'
  exact ⟨rfl, rfl⟩

variable (traffic session workers content)

/-- What holds in every state. `newest` and `delivered` carry the argument: a
byte that is stored over another one belongs to a write that is still open, so
nobody can have seen it complete. -/
structure Coherent (state : SharedNamespace) : Prop where
  runs : ∀ queue worker, workers[queue]? = some worker →
    WorkerReaches (traffic queue) session worker (state.configs queue).1 (state.fabric queue)
  idle : ∀ queue, workers[queue]? = none → state.fabric queue = Fabric.initial
  received_le : ∀ queue, (state.fabric queue).received ≤ (state.fabric queue).arrived
  arrived_le : ∀ queue, (state.fabric queue).arrived ≤ state.submitted queue
  seen_le : ∀ command other, state.seen command other ≠ none → state.observed other ≠ none
  answered : ∀ command, state.observed command ≠ none →
    (state.fabric command.queue).Answered command.turn
  settled : ∀ queue, Settled state.landed queue (state.fabric queue)
  landed_lt : ∀ byte, state.landed byte →
    byte.command.turn < state.submitted byte.command.queue
  written : ∀ position byte, state.writer position = some byte →
    state.bytes position = content byte ∧ Covers traffic session false byte position
  newest : ∀ byte position, state.landed byte → Covers traffic session false byte position →
    ∃ last, state.writer position = some last ∧
      (last.command = byte.command ∨ state.seen byte.command last.command = none)
  delivered : ∀ byte position, state.landed byte → Covers traffic session true byte position →
    ∀ source, state.seen byte.command source.command ≠ none →
      Covers traffic session false source position →
      ∃ last, Covers traffic session false last position ∧
        state.buffers byte = some (content last) ∧
        (last.command = source.command ∨ state.seen source.command last.command = none)

namespace Coherent

theorem begin (bytes : Nat → UInt8) :
    Coherent traffic session workers content (begin session workers bytes) where
  runs := by
    intro queue worker hWorker
    simp only [SharedNamespace.begin, fabric, hWorker]
    exact Relation.ReflTransGen.refl
  idle := by
    intro queue hNone
    simp only [SharedNamespace.begin, fabric, hNone]
  received_le := by
    intro queue
    simp only [SharedNamespace.begin, fabric]
    split <;> exact Nat.le_refl 0
  arrived_le := by
    intro queue
    simp only [SharedNamespace.begin, fabric]
    split <;> exact Nat.le_refl 0
  seen_le := fun _ _ hSeen => absurd rfl hSeen
  answered := fun _ hObserved => absurd rfl hObserved
  settled := by
    intro queue turn opcode requests hPosted
    simp only [SharedNamespace.begin, fabric] at hPosted
    split at hPosted <;> cases hPosted
  landed_lt := fun _ hLanded => hLanded.elim
  written := fun _ _ hWriter => nomatch hWriter
  newest := fun _ _ hLanded => hLanded.elim
  delivered := fun _ _ hLanded => hLanded.elim

variable {traffic session workers content}

/-- Only a started worker has a history. -/
theorem worker_of_history (h : Coherent traffic session workers content state) {queue turn : Nat}
    (hHistory : (state.fabric queue).history turn ≠ []) :
    ∃ worker, workers[queue]? = some worker ∧
      WorkerReaches (traffic queue) session worker (state.configs queue).1
        (state.fabric queue) := by
  cases hWorker : workers[queue]? with
  | none =>
      rw [h.idle queue hWorker] at hHistory
      exact absurd rfl hHistory
  | some worker => exact ⟨worker, rfl, h.runs queue worker hWorker⟩

/-- A byte of the first requests of a description is covered by the command. -/
theorem covers_of_moves {byte : PayloadByte} {position : Nat} {requests : List TransferRequest}
    {operation : StorageOperation} {entries : List StorageBatchEntry}
    (hOperation : deserializeStorageOperation
      ((traffic byte.command.queue).message byte.command.turn) = .ok operation)
    (hEntries : described session.storageSize
      ((traffic byte.command.queue).message byte.command.turn)
      ((traffic byte.command.queue).descriptors byte.command.turn) = some entries)
    (hFirst : requests <+: entries.map entryRequest)
    (hExact : ∀ entry ∈ entries, (entryRequest entry).length.toNat = entry.length.toNat)
    (hMoves : Moves requests byte position) :
    Covers traffic session operation.isRead byte position := by
  obtain ⟨request, hRequest, hOffset, hPosition⟩ := hMoves
  obtain ⟨rest, hRest⟩ := hFirst
  have hIndex : byte.request < requests.length := (List.getElem?_eq_some_iff.mp hRequest).1
  have hSame : (entries.map entryRequest)[byte.request]? = some request := by
    rw [← hRest, List.getElem?_append_left hIndex, hRequest]
  rw [List.getElem?_map] at hSame
  obtain ⟨entry, hEntry, rfl⟩ := Option.map_eq_some_iff.mp hSame
  rw [hExact entry (List.mem_of_getElem? hEntry)] at hOffset
  exact ⟨operation, entries, entry, hOperation, rfl, hEntries, hEntry, hOffset, hPosition⟩

/-- A byte of an open payload belongs to a submitted command that is described
to move it, and nobody has seen the command complete. -/
theorem open_byte (h : Coherent traffic session workers content state) {byte : PayloadByte}
    {position : Nat} {opcode : TransferOpcode} {requests : List TransferRequest}
    (hOpen : (state.fabric byte.command.queue).PayloadOpen byte.command.turn opcode requests)
    (hMoves : Moves requests byte position) :
    byte.command.turn < state.submitted byte.command.queue ∧
      state.observed byte.command = none ∧
      ∃ isRead, opcode = payloadOpcode isRead ∧ Covers traffic session isRead byte position := by
  cases hWorker : workers[byte.command.queue]? with
  | none =>
      rw [h.idle _ hWorker] at hOpen
      rcases hOpen with ⟨hPosted, -⟩ | hRefused
      · cases hPosted
      · cases hRefused
  | some worker =>
      let workload : Workload := {
        traffic := traffic byte.command.queue
        session := session
        worker := worker }
      have hRun : WorkerReaches workload.traffic workload.session workload.worker
          (state.configs byte.command.queue).1 (state.configs byte.command.queue).2 :=
        h.runs _ _ hWorker
      obtain ⟨hReceived, hUnanswered, operation, entries, hOperation, hEntries, hOpcode, hFirst,
        hExact⟩ := payload_open hRun hOpen
      have hArrived := h.received_le byte.command.queue
      have hSubmitted := h.arrived_le byte.command.queue
      refine ⟨Nat.lt_of_lt_of_le hReceived (Nat.le_trans hArrived hSubmitted), ?_,
        operation.isRead, hOpcode, covers_of_moves hOperation hEntries hFirst hExact hMoves⟩
      by_contra hObserved
      exact hUnanswered (h.answered byte.command hObserved)

/-- All bytes of a command that was seen complete have moved. -/
theorem landed_of_observed (h : Coherent traffic session workers content state)
    {byte : PayloadByte} {position : Nat} {isRead : Bool}
    (hObserved : state.observed byte.command ≠ none)
    (hCovers : Covers traffic session isRead byte position) : state.landed byte := by
  obtain ⟨operation, entries, entry, hOperation, -, hEntries, hEntry, hOffset, hPosition⟩ := hCovers
  have hAnswered := h.answered byte.command hObserved
  obtain ⟨address, key, length, bytes, hCompletion⟩ := hAnswered
  obtain ⟨worker, -, hRun⟩ := h.worker_of_history (List.ne_nil_of_mem hCompletion)
  let workload : Workload := {
    traffic := traffic byte.command.queue
    session := session
    worker := worker }
  have hReaches : WorkerReaches workload.traffic workload.session workload.worker _ _ := hRun
  obtain ⟨opcode, hPosted, hWaited⟩ := answered_described hReaches.invariant
    (h.answered byte.command hObserved) hEntries
  have hWidth := (described_fit hEntries entry (List.mem_of_getElem? hEntry)).2
  have hLength : (entryRequest entry).length.toNat = entry.length.toNat := by
    rw [entryRequest, transferRequest, UInt64.toNat_toUInt32]
    exact Nat.mod_eq_of_lt (by omega)
  have hMoves : Moves (entries.map entryRequest) byte position := by
    refine ⟨entryRequest entry, ?_, ?_, hPosition⟩
    · rw [List.getElem?_map, hEntry, Option.map_some]
    · rw [hLength]
      exact hOffset
  exact h.settled _ _ _ _ hPosted hWaited byte position rfl hMoves

/-- The client learns what has been complete so far. No byte of the new command
has moved, and none is among the writes that an earlier command could know. -/
theorem submit (h : Coherent traffic session workers content state) (queue : Nat) :
    Coherent traffic session workers content (state.submit queue) := by
  have hEarlier : ∀ byte, state.landed byte →
      byte.command ≠ { queue := queue, turn := state.submitted queue } := by
    intro byte hLanded hSame
    have hTurn := h.landed_lt byte hLanded
    rw [hSame] at hTurn
    exact Nat.lt_irrefl _ hTurn
  have hMore : ∀ other, state.submitted other ≤ (state.submit queue).submitted other := by
    intro other
    by_cases hSame : other = queue
    · subst hSame
      simp [SharedNamespace.submit]
    · simp [SharedNamespace.submit, hSame]
  have hSeen : ∀ byte, state.landed byte →
      (state.submit queue).seen byte.command = state.seen byte.command := fun byte hLanded =>
    Function.update_of_ne (hEarlier byte hLanded) ..
  exact {
    runs := h.runs
    idle := h.idle
    received_le := h.received_le
    arrived_le := fun other => Nat.le_trans (h.arrived_le other) (hMore other)
    seen_le := by
      intro command other hKnown
      by_cases hSame : command = { queue := queue, turn := state.submitted queue }
      · subst hSame
        simpa [SharedNamespace.submit] using hKnown
      · apply h.seen_le command other
        simpa [SharedNamespace.submit, hSame] using hKnown
    answered := h.answered
    settled := h.settled
    landed_lt := fun byte hLanded => Nat.lt_of_lt_of_le (h.landed_lt byte hLanded) (hMore _)
    written := h.written
    newest := by
      intro byte position hLanded hCovers
      rw [hSeen byte hLanded]
      exact h.newest byte position hLanded hCovers
    delivered := by
      intro byte position hLanded hCovers source hKnown hSource
      rw [hSeen byte hLanded] at hKnown
      rw [hSeen source (h.landed_of_observed (h.seen_le _ _ hKnown) hSource)]
      exact h.delivered byte position hLanded hCovers source hKnown hSource }

/-- A step of a worker keeps the namespace coherent. -/
theorem serve (h : Coherent traffic session workers content state) {queue : Nat}
    {worker : Worker} {config : Config} (hWorker : workers[queue]? = some worker)
    (hStep : (clientWorld (traffic queue) session (state.submitted queue)).Step
      (state.configs queue) config)
    (hSettled : Settled state.landed queue config.2) :
    Coherent traffic session workers content (state.place queue config) where
  runs := by
    intro other worker' hOther
    by_cases hSame : other = queue
    · subst hSame
      rw [place_fabric_self]
      simp only [place, Function.update_self]
      exact Relation.ReflTransGen.tail (h.runs other worker' hOther) (clientWorld_step hStep)
    · rw [place_fabric_other state hSame]
      simp only [place, Function.update_of_ne hSame]
      exact h.runs other worker' hOther
  idle := by
    intro other hNone
    have hOther : other ≠ queue := by
      rintro rfl
      rw [hWorker] at hNone
      cases hNone
    rw [place_fabric_other state hOther]
    exact h.idle other hNone
  received_le := by
    intro other
    by_cases hSame : other = queue
    · subst hSame
      rw [place_fabric_self]
      exact (clientWorld_progress hStep).received_le (h.received_le other)
    · rw [place_fabric_other state hSame]
      exact h.received_le other
  arrived_le := by
    intro other
    by_cases hSame : other = queue
    · subst hSame
      rw [place_fabric_self]
      exact (clientWorld_progress hStep).arrived_le (h.arrived_le other)
    · rw [place_fabric_other state hSame]
      exact h.arrived_le other
  seen_le := h.seen_le
  answered := by
    intro command hObserved
    obtain ⟨address, key, length, bytes, hPosted⟩ := h.answered command hObserved
    refine ⟨address, key, length, bytes, ?_⟩
    by_cases hSame : command.queue = queue
    · subst hSame
      rw [place_fabric_self]
      exact (clientWorld_progress hStep).history_subset command.turn hPosted
    · rw [place_fabric_other state hSame]
      exact hPosted
  settled := by
    intro other
    by_cases hSame : other = queue
    · subst hSame
      rw [place_fabric_self]
      exact hSettled
    · rw [place_fabric_other state hSame]
      exact h.settled other
  landed_lt := h.landed_lt
  written := h.written
  newest := h.newest
  delivered := h.delivered

/-- The write of the stored byte has not been seen complete, so it is none of
those that a landed write could know. -/
theorem store (h : Coherent traffic session workers content state) {byte : PayloadByte}
    {position : Nat} (hSubmitted : byte.command.turn < state.submitted byte.command.queue)
    (hUnseen : state.observed byte.command = none)
    (hCovers : Covers traffic session false byte position) :
    Coherent traffic session workers content (state.store byte position (content byte)) where
  runs := h.runs
  idle := h.idle
  received_le := h.received_le
  arrived_le := h.arrived_le
  seen_le := h.seen_le
  answered := h.answered
  settled := fun queue turn opcode requests hPosted hWaited other place hSame hMoves =>
    Or.inr (h.settled queue turn opcode requests hPosted hWaited other place hSame hMoves)
  landed_lt := by
    rintro other (rfl | hLanded)
    · exact hSubmitted
    · exact h.landed_lt other hLanded
  written := by
    intro other writer hWriter
    by_cases hSame : other = position
    · subst hSame
      simp only [SharedNamespace.store, Function.update_self] at hWriter ⊢
      obtain rfl := Option.some.inj hWriter
      exact ⟨rfl, hCovers⟩
    · simp only [SharedNamespace.store, Function.update_of_ne hSame] at hWriter ⊢
      exact h.written other writer hWriter
  newest := by
    intro other place hLanded hPlace
    by_cases hSame : place = position
    · subst hSame
      refine ⟨byte, Function.update_self .., Or.inr ?_⟩
      by_contra hKnown
      exact h.seen_le _ _ hKnown hUnseen
    · rcases hLanded with rfl | hLanded
      · exact absurd (hPlace.unique hCovers).2 hSame
      · simp only [SharedNamespace.store, Function.update_of_ne hSame]
        exact h.newest other place hLanded hPlace
  delivered := by
    rintro other place (rfl | hLanded) hPlace
    · exact absurd (hPlace.unique hCovers).1 Bool.noConfusion
    · exact h.delivered other place hLanded hPlace

theorem deliver (h : Coherent traffic session workers content state) {byte : PayloadByte}
    {position : Nat} (hSubmitted : byte.command.turn < state.submitted byte.command.queue)
    (hCovers : Covers traffic session true byte position) :
    Coherent traffic session workers content (state.deliver byte position) where
  runs := h.runs
  idle := h.idle
  received_le := h.received_le
  arrived_le := h.arrived_le
  seen_le := h.seen_le
  answered := h.answered
  settled := fun queue turn opcode requests hPosted hWaited other place hSame hMoves =>
    Or.inr (h.settled queue turn opcode requests hPosted hWaited other place hSame hMoves)
  landed_lt := by
    rintro other (rfl | hLanded)
    · exact hSubmitted
    · exact h.landed_lt other hLanded
  written := h.written
  newest := by
    rintro other place (rfl | hLanded) hPlace
    · exact absurd (hPlace.unique hCovers).1 Bool.noConfusion
    · exact h.newest other place hLanded hPlace
  delivered := by
    intro other place hLanded hPlace source hKnown hSource
    by_cases hSame : other = byte
    · -- the write that the read knows of has landed, so the position holds it or a newer one
      subst hSame
      obtain ⟨-, rfl⟩ := hPlace.unique hCovers
      obtain ⟨last, hLast, hNewest⟩ := h.newest source place
        (h.landed_of_observed (h.seen_le _ _ hKnown) hSource) hSource
      obtain ⟨hBytes, hWrite⟩ := h.written place last hLast
      refine ⟨last, hWrite, ?_, hNewest⟩
      rw [← hBytes]
      exact Function.update_self ..
    · simp only [SharedNamespace.deliver, Function.update_of_ne hSame]
      rcases hLanded with hEqual | hLanded
      · exact absurd hEqual hSame
      · exact h.delivered other place hLanded hPlace source hKnown hSource

theorem observe (h : Coherent traffic session workers content state) {command : CommandRef}
    (status : StorageStatus) (hAnswered : (state.fabric command.queue).Answered command.turn) :
    Coherent traffic session workers content (state.observe command status) where
  runs := h.runs
  idle := h.idle
  received_le := h.received_le
  arrived_le := h.arrived_le
  seen_le := by
    intro first other hKnown
    by_cases hSame : other = command
    · subst hSame
      simp [SharedNamespace.observe]
    · simp only [SharedNamespace.observe, Function.update_of_ne hSame]
      exact h.seen_le first other hKnown
  answered := by
    intro other hObserved
    by_cases hSame : other = command
    · subst hSame
      exact hAnswered
    · simp only [SharedNamespace.observe, Function.update_of_ne hSame] at hObserved
      exact h.answered other hObserved
  settled := h.settled
  landed_lt := h.landed_lt
  written := h.written
  newest := h.newest
  delivered := h.delivered

theorem step {state' : SharedNamespace} (h : Coherent traffic session workers content state)
    (hStep : Step traffic session workers content state state') :
    Coherent traffic session workers content state' := by
  cases hStep with
  | submit queue => exact h.submit queue
  | serve hWorker hServe hSettled => exact h.serve hWorker hServe hSettled
  | store hOpen hMoves =>
      obtain ⟨hSubmitted, hUnseen, isRead, hOpcode, hCovers⟩ := h.open_byte hOpen hMoves
      cases isRead with
      | false => exact h.store hSubmitted hUnseen hCovers
      | true => cases hOpcode
  | deliver hOpen hMoves =>
      obtain ⟨hSubmitted, -, isRead, hOpcode, hCovers⟩ := h.open_byte hOpen hMoves
      cases isRead with
      | false => cases hOpcode
      | true => exact h.deliver hSubmitted hCovers
  | observe hPosted hRecord => exact h.observe _ ⟨_, _, _, _, hPosted⟩

/-- The namespace is coherent in every run. -/
theorem reached {bytes : Nat → UInt8} (h : Reached traffic session workers content bytes state) :
    Coherent traffic session workers content state := by
  induction h with
  | refl => exact Coherent.begin traffic session workers content bytes
  | tail _ hStep ih => exact ih.step hStep

end Coherent

end SharedNamespace

end NdsStorage.System
