import NdsStorage.Protocol.RoundTrip
import NdsStorage.Server.Fabric

/-! What a worker is going to do for each command, as a function of the
messages, the descriptor arrays and the slot table alone. The histories below
are cumulative: each phase of a window appends to the history of the previous
one. -/
namespace NdsStorage.Server

open Bytes Interaction

/-- The fixed inputs of one worker's run. -/
structure Workload where
  traffic : Traffic
  session : Session
  worker : Worker

/-- The record that carries a completion to the client. -/
def completionRecord (completion : StorageCompletion) : Buffer :=
  completionLayout completion (List.replicate kStorageCompletionBytes 0)

/-- The payload of a command that has been found valid. -/
def payloadEvents (state : PendingCommand) : List Event :=
  if state.completion.status = .success then
    [.payloadPosted (payloadOpcode state.storageRead) state.requests]
  else
    []

/-- Requests that the payload of a command hands to the send queue. -/
def payloadLoad (state : PendingCommand) : Nat :=
  if state.completion.status = .success then state.requests.length else 0

/-- The sum of a per-command load over `count` commands from `base` on. -/
def loadOver (load : Nat → Nat) (base : Nat) : Nat → Nat
  | 0 => 0
  | count + 1 => loadOver load base count + load (base + count)

/-- The load of two ranges is the sum of their loads. -/
theorem loadOver_add (load : Nat → Nat) (base first second : Nat) :
    loadOver load base (first + second) =
      loadOver load base first + loadOver load (base + first) second := by
  induction second with
  | zero => rfl
  | succ second ih =>
      rw [← Nat.add_assoc, loadOver, loadOver, ih, Nat.add_assoc, Nat.add_assoc base]

theorem loadOver_mono (load : Nat → Nat) (base : Nat) {first second : Nat}
    (h : first ≤ second) : loadOver load base first ≤ loadOver load base second := by
  obtain ⟨rest, rfl⟩ := Nat.exists_eq_add_of_le h
  rw [loadOver_add]
  exact Nat.le_add_right _ _

/-- A bound for each command bounds the range. -/
theorem loadOver_le {load : Nat → Nat} {bound : Nat} (h : ∀ command, load command ≤ bound)
    (base count : Nat) : loadOver load base count ≤ count * bound := by
  induction count with
  | zero => simp [loadOver]
  | succ count ih =>
      simp only [loadOver, Nat.succ_mul]
      exact Nat.add_le_add ih (h _)

/-- A bound that covers every nonzero load covers them all. -/
theorem loadOver_covered {load : Nat → Nat} {start base bound count : Nat}
    (hStart : start ≤ bound) (h : ∀ index, index < count → load (base + index) ≠ 0 →
      start + loadOver load base (index + 1) ≤ bound) :
    start + loadOver load base count ≤ bound := by
  induction count with
  | zero => exact hStart
  | succ count ih =>
      have hEarlier := ih fun index hIndex => h index (Nat.lt_succ_of_lt hIndex)
      by_cases hLoad : load (base + count) = 0
      · rw [loadOver, hLoad]
        exact hEarlier
      · exact h count (Nat.lt_succ_self count) hLoad

namespace Workload

variable (workload : Workload)

def active : Nat := activeSlots workload.worker

/-- The position of the slot that serves a command. -/
def slotOf (command : Nat) : Nat := command % workload.active

/-- The slot table index that a command has to carry. -/
def slotIndexOf (command : Nat) : Nat :=
  workload.worker.slots.getD (workload.slotOf command) 0

def parsed (command : Nat) : Except Error (PendingCommand × Option StorageMemory) :=
  parseCommand workload.session.storageSize (workload.slotOf command)
    (workload.slotIndexOf command) (workload.traffic.message command)

/-- The command after its descriptors, if any, have been examined. -/
def resolved (command : Nat) : PendingCommand :=
  match workload.parsed command with
  | .error _ => { slot := workload.slotOf command }
  | .ok (state, none) => state
  | .ok (state, some _) =>
      decodeBatch workload.session.storageSize state (workload.traffic.descriptors command)

def loadedEvents (command : Nat) : List Event :=
  [.loaded (workload.slotOf command) (workload.traffic.message command)]

/-- First phase: a batch posts its descriptor fetch, a valid single transfer its payload. -/
def admittedEvents (command : Nat) : List Event :=
  workload.loadedEvents command ++ match workload.parsed command with
    | .error _ => []
    | .ok (state, none) => payloadEvents state
    | .ok (state, some entries) =>
        [.fetchPosted entries.address entries.remoteKey (descriptorBytes state.entryCount)]

/-- Second phase: a batch sees its descriptors and posts its payload if they are valid. -/
def resolvedEvents (command : Nat) : List Event :=
  workload.admittedEvents command ++ match workload.parsed command with
    | .ok (_, some _) => .fetchWaited :: payloadEvents (workload.resolved command)
    | _ => []

/-- Third phase: the payload has landed. -/
def settledEvents (command : Nat) : List Event :=
  workload.resolvedEvents command ++
    if (workload.resolved command).completion.status = .success then [.payloadWaited] else []

def completionEvent (command : Nat) : Event :=
  let remote := workload.session.completionMemory (workload.slotIndexOf command)
  .completionPosted remote.address remote.remoteKey (UInt32.ofNat kStorageCompletionBytes)
    (completionRecord (workload.resolved command).completion)

/-- Fourth phase: the completion record is on its way. A refused message ends
the worker and is never answered. -/
def answeredEvents (command : Nat) : List Event :=
  workload.settledEvents command ++ match workload.parsed command with
    | .error _ => []
    | .ok _ => [workload.completionEvent command]

/-- The whole history of a served command. -/
def completedEvents (command : Nat) : List Event :=
  workload.answeredEvents command ++ [.completionWaited]

/-- Send requests of a command in the first phase. -/
def admitLoad (command : Nat) : Nat :=
  match workload.parsed command with
  | .error _ => 0
  | .ok (state, none) => payloadLoad state
  | .ok (_, some _) => 1

/-- Send requests of a command in the second phase. -/
def resolveLoad (command : Nat) : Nat :=
  match workload.parsed command with
  | .ok (_, some _) => payloadLoad (workload.resolved command)
  | _ => 0

variable {workload} {command : Nat} {state : PendingCommand} {entries : StorageMemory}

/-- A single command is resolved as it is parsed. -/
theorem resolved_single (hParsed : workload.parsed command = .ok (state, none)) :
    workload.resolved command = state := by
  simp only [resolved, hParsed]

theorem resolved_batch (hParsed : workload.parsed command = .ok (state, some entries)) :
    workload.resolved command = decodeBatch workload.session.storageSize state
      (workload.traffic.descriptors command) := by
  simp only [resolved, hParsed]

theorem resolvedEvents_batch (hParsed : workload.parsed command = .ok (state, some entries)) :
    workload.resolvedEvents command = workload.admittedEvents command ++
      Event.fetchWaited :: payloadEvents (workload.resolved command) := by
  simp only [resolvedEvents, hParsed]

end Workload

section Parsing

variable {size : UInt64} {storageRead : Bool} {slot slotIndex : Nat} {bytes : Buffer}
  {invalid wrongSlot : String} {state : PendingCommand} {entries : Option StorageMemory}

/-- When a transfer is parsed, and what comes of it. -/
theorem parseTransfer_ok {decoded : Except SerdeError StorageTransferCommand} :
    parseTransfer size storageRead slot slotIndex invalid wrongSlot decoded =
        .ok (state, entries) ↔
      ∃ command, decoded = .ok command ∧ command.slotIndex.toNat = slotIndex ∧ entries = none ∧
        state = acceptTransfer size storageRead command { slot := slot } := by
  cases decoded with
  | error reason => simp [parseTransfer, decodeOr, Except.mapError, bind, Except.bind]
  | ok command =>
      simp only [parseTransfer, decodeOr, Except.mapError, bind, Except.bind, Except.ok.injEq,
        exists_eq_left']
      by_cases hSlot : command.slotIndex.toNat = slotIndex
      · simp [hSlot, pure, Except.pure, eq_comm, and_comm]
      · simp [hSlot, throw, throwThe, MonadExceptOf.throw]

/-- When a batch is parsed, and what comes of it. -/
theorem parseBatch_ok {decoded : Except SerdeError StorageBatchCommand} :
    parseBatch storageRead slot slotIndex invalid wrongSlot decoded = .ok (state, entries) ↔
      ∃ command, decoded = .ok command ∧ command.slotIndex.toNat = slotIndex ∧
        entries = some command.entries ∧
        state = acceptBatch storageRead command { slot := slot } := by
  cases decoded with
  | error reason => simp [parseBatch, decodeOr, Except.mapError, bind, Except.bind]
  | ok command =>
      simp only [parseBatch, decodeOr, Except.mapError, bind, Except.bind, Except.ok.injEq,
        exists_eq_left']
      by_cases hSlot : command.slotIndex.toNat = slotIndex
      · simp [hSlot, pure, Except.pure, eq_comm, and_comm]
      · simp [hSlot, throw, throwThe, MonadExceptOf.throw]

/-- Which single-transfer deserializer an operation selects. -/
def transferAccess (operation : StorageOperation) : UInt32 :=
  if operation.isRead then kRemoteWrite else kRemoteRead

/-- Every accepted command is either a single transfer or a batch whose
descriptors have to be fetched, decoded and found in the right slot. -/
theorem parseCommand_cases (h : parseCommand size slot slotIndex bytes = .ok (state, entries)) :
    (∃ operation command, (operation = .read ∨ operation = .write) ∧
      deserializeTransfer operation (transferAccess operation) bytes = .ok command ∧
      command.slotIndex.toNat = slotIndex ∧ entries = none ∧
      state = acceptTransfer size operation.isRead command { slot := slot }) ∨
    (∃ operation command, (operation = .batchRead ∨ operation = .batchWrite) ∧
      deserializeBatch operation bytes = .ok command ∧
      command.slotIndex.toNat = slotIndex ∧ entries = some command.entries ∧
      state = acceptBatch operation.isRead command { slot := slot }) := by
  unfold parseCommand at h
  cases hOperation : deserializeStorageOperation bytes with
  | error reason => simp [hOperation, decodeOr, Except.mapError, bind, Except.bind] at h
  | ok operation =>
      simp only [hOperation, decodeOr, Except.mapError, bind, Except.bind] at h
      cases operation with
      | read => exact .inl ⟨.read, (parseTransfer_ok.mp h).imp fun _ => .intro (.inl rfl)⟩
      | write => exact .inl ⟨.write, (parseTransfer_ok.mp h).imp fun _ => .intro (.inr rfl)⟩
      | batchRead => exact .inr ⟨.batchRead, (parseBatch_ok.mp h).imp fun _ => .intro (.inl rfl)⟩
      | batchWrite =>
          exact .inr ⟨.batchWrite, (parseBatch_ok.mp h).imp fun _ => .intro (.inr rfl)⟩

/-- The errors that end a worker when it examines a message. -/
def refusalMessages : List String := [
  "invalid storage operation",
  "invalid storage read command", "storage read arrived in the wrong slot",
  "invalid storage write command", "storage write arrived in the wrong slot",
  "invalid storage batch-read command", "storage batch-read arrived in the wrong slot",
  "invalid storage batch-write command", "storage batch-write arrived in the wrong slot"]

/-- A transfer that is not parsed is invalid or in the wrong slot. -/
theorem parseTransfer_error {decoded : Except SerdeError StorageTransferCommand} {error : Error}
    (h : parseTransfer size storageRead slot slotIndex invalid wrongSlot decoded =
      .error error) : error = protocolError invalid ∨ error = protocolError wrongSlot := by
  cases decoded with
  | error reason =>
      cases h
      exact .inl rfl
  | ok command =>
      simp only [parseTransfer, decodeOr, Except.mapError, bind, Except.bind] at h
      split at h
      · cases h
        exact .inr rfl
      · cases h

theorem parseBatch_error {decoded : Except SerdeError StorageBatchCommand} {error : Error}
    (h : parseBatch storageRead slot slotIndex invalid wrongSlot decoded = .error error) :
    error = protocolError invalid ∨ error = protocolError wrongSlot := by
  cases decoded with
  | error reason =>
      cases h
      exact .inl rfl
  | ok command =>
      simp only [parseBatch, decodeOr, Except.mapError, bind, Except.bind] at h
      split at h
      · cases h
        exact .inr rfl
      · cases h

/-- A command is refused with one of the messages of the source. -/
theorem parseCommand_error {error : Error}
    (h : parseCommand size slot slotIndex bytes = .error error) :
    ∃ message ∈ refusalMessages, error = protocolError message := by
  have hPair : ∀ {invalid wrongSlot : String}, invalid ∈ refusalMessages →
      wrongSlot ∈ refusalMessages →
      error = protocolError invalid ∨ error = protocolError wrongSlot →
      ∃ message ∈ refusalMessages, error = protocolError message := by
    rintro invalid wrongSlot hInvalid hWrong (hError | hError)
    · exact ⟨invalid, hInvalid, hError⟩
    · exact ⟨wrongSlot, hWrong, hError⟩
  unfold parseCommand at h
  cases hOperation : deserializeStorageOperation bytes with
  | error reason =>
      simp only [hOperation, decodeOr, Except.mapError, bind, Except.bind] at h
      cases h
      exact ⟨_, List.mem_cons_self, rfl⟩
  | ok operation =>
      simp only [hOperation, decodeOr, Except.mapError, bind, Except.bind] at h
      cases operation with
      | read =>
          exact hPair (by simp [refusalMessages]) (by simp [refusalMessages])
            (parseTransfer_error h)
      | write =>
          exact hPair (by simp [refusalMessages]) (by simp [refusalMessages])
            (parseTransfer_error h)
      | batchRead =>
          exact hPair (by simp [refusalMessages]) (by simp [refusalMessages])
            (parseBatch_error h)
      | batchWrite =>
          exact hPair (by simp [refusalMessages]) (by simp [refusalMessages])
            (parseBatch_error h)

end Parsing

section Facts

variable {size : UInt64} {slot slotIndex : Nat} {bytes : Buffer} {state : PendingCommand}

theorem deserializeCommand_ok {operation : StorageOperation} {access : UInt32}
    {command : StorageTransferCommand}
    (h : deserializeCommand operation access bytes = .ok command) :
    command.commandId ≠ 0 ∧ command.length ≠ 0 ∧ memoryValid command.data 0 := by
  unfold deserializeCommand at h
  split at h
  · cases h
  · split at h
    · cases h
    · dsimp only at h
      split at h
      · cases h
      · rename_i hValid
        cases h
        simp only [not_or, Decidable.not_not] at hValid
        exact ⟨hValid.1, hValid.2.1, hValid.2.2.1⟩

/-- A transfer that is read also fits into its memory. -/
theorem deserializeTransfer_ok {operation : StorageOperation} {access : UInt32}
    {command : StorageTransferCommand}
    (h : deserializeTransfer operation access bytes = .ok command) :
    deserializeCommand operation access bytes = .ok command ∧
      command.length ≤ command.data.length := by
  unfold deserializeTransfer at h
  cases hDecoded : deserializeCommand operation access bytes with
  | error reason => simp [hDecoded, bind, Except.bind] at h
  | ok decoded =>
      simp only [hDecoded, bind, Except.bind] at h
      split at h
      · rename_i hLength
        cases h
        exact ⟨rfl, hLength⟩
      · cases h

theorem deserializeBatch_ok {operation : StorageOperation} {command : StorageBatchCommand}
    (h : deserializeBatch operation bytes = .ok command) :
    deserializeCommand operation kRemoteRead bytes = .ok command.asTransfer ∧
      batchBounded command := by
  unfold deserializeBatch at h
  cases hDecoded : deserializeCommand operation kRemoteRead bytes with
  | error reason => simp [hDecoded, bind, Except.bind] at h
  | ok decoded =>
      simp only [hDecoded, bind, Except.bind] at h
      split at h
      · rename_i hBounded
        cases h
        exact ⟨rfl, hBounded⟩
      · cases h

/-- The entry count survives the narrowing to 32 bits and stays within the protocol limit. -/
theorem entryCount_le {command : StorageBatchCommand} (h : batchBounded command) :
    command.entryCount.toUInt32.toNat = command.entryCount.toNat ∧
      command.entryCount.toNat ≤ kStorageMaxBatchEntries := by
  have hCount : command.entryCount.toNat ≤ kStorageMaxBatchEntries :=
    UInt64.le_iff_toNat_le.mp h.1
  refine ⟨?_, hCount⟩
  rw [UInt64.toNat_toUInt32]
  exact Nat.mod_eq_of_lt (Nat.lt_of_le_of_lt hCount (by decide))

/-- What every accepted command has in common before anything is posted for it. -/
structure Accepted (state : PendingCommand) (slot : Nat) : Prop where
  slot_eq : state.slot = slot
  complete : state.completion.state = .complete
  commandId_ne : state.completion.commandId ≠ 0
  noDescriptor : state.descriptorPending = false
  noPayload : state.payloadPending = false

/-- A parsed command is accepted in the state it was parsed to. -/
theorem parseCommand_accepted {entries : Option StorageMemory}
    (h : parseCommand size slot slotIndex bytes = .ok (state, entries)) :
    Accepted state slot := by
  rcases parseCommand_cases h with ⟨operation, command, -, hDecoded, -, -, rfl⟩ |
    ⟨operation, command, -, hDecoded, -, -, rfl⟩
  · have hId := (deserializeCommand_ok (deserializeTransfer_ok hDecoded).1).1
    unfold acceptTransfer
    dsimp only
    split
    · exact ⟨rfl, rfl, hId, rfl, rfl⟩
    · exact ⟨rfl, rfl, hId, rfl, rfl⟩
  · have hId := (deserializeCommand_ok (deserializeBatch_ok hDecoded).1).1
    exact ⟨rfl, rfl, hId, rfl, rfl⟩

/-- An accepted single command has one request. -/
theorem parseCommand_single
    (h : parseCommand size slot slotIndex bytes = .ok (state, none))
    (hSuccess : state.completion.status = .success) : state.requests.length = 1 := by
  rcases parseCommand_cases h with ⟨operation, command, -, -, -, -, rfl⟩ |
    ⟨operation, command, -, -, -, hEntries, -⟩
  · unfold acceptTransfer at hSuccess ⊢
    dsimp only at hSuccess ⊢
    split at hSuccess
    · cases hSuccess
    · rename_i hRange
      rw [if_neg hRange]
      rfl
  · cases hEntries

/-- An accepted batch has no request before its descriptors. -/
theorem parseCommand_batch {entries : StorageMemory}
    (h : parseCommand size slot slotIndex bytes = .ok (state, some entries)) :
    state.completion.status = .success ∧ state.requests = [] ∧
      state.completion.bytesTransferred = 0 ∧
      state.entryCount.toNat ≤ kStorageMaxBatchEntries := by
  rcases parseCommand_cases h with ⟨operation, command, -, -, -, hEntries, -⟩ |
    ⟨operation, command, -, hDecoded, -, -, rfl⟩
  · cases hEntries
  · have hCount := entryCount_le (deserializeBatch_ok hDecoded).2
    exact ⟨rfl, rfl, rfl, hCount.1 ▸ hCount.2⟩

/-- The descriptor fetch covers exactly the entries and stays inside the slot's buffer. -/
theorem descriptorBytes_toNat {count : UInt32} (h : count.toNat ≤ kStorageMaxBatchEntries) :
    (descriptorBytes count).toNat = count.toNat * kStorageBatchEntryBytes ∧
      count.toNat * kStorageBatchEntryBytes ≤
        kStorageMaxBatchEntries * kStorageBatchEntryBytes := by
  have hBound := Nat.mul_le_mul_right kStorageBatchEntryBytes h
  refine ⟨?_, hBound⟩
  rw [descriptorBytes, UInt32.toNat_mul]
  exact Nat.mod_eq_of_lt (Nat.lt_of_le_of_lt hBound (by decide))

/-- The walk over the descriptors reads nothing but the entries it is asked for. -/
theorem decodeEntries_congr {first second : Buffer} (storageRead : Bool)
    (remaining index : Nat) (total : UInt64) (requests : List TransferRequest)
    (h : ∀ entry, entry < index + remaining →
      slice first (entry * kStorageBatchEntryBytes) kStorageBatchEntryBytes =
        slice second (entry * kStorageBatchEntryBytes) kStorageBatchEntryBytes) :
    decodeEntries size storageRead first remaining index total requests =
      decodeEntries size storageRead second remaining index total requests := by
  induction remaining generalizing index total requests with
  | zero => rfl
  | succ remaining ih =>
      simp only [decodeEntries]
      rw [h index (by omega)]
      split
      · rfl
      · split
        · rfl
        · exact ih _ _ _ fun entry hEntry => h entry (by omega)

/-- Examining the landed descriptors is examining the client's array. -/
theorem decodeBatch_landed {buffer descriptors : Buffer}
    (hBuffer : buffer.length = kStorageMaxBatchEntries * kStorageBatchEntryBytes)
    (hCount : state.entryCount.toNat ≤ kStorageMaxBatchEntries) :
    decodeBatch size state
        (put buffer 0 (slice descriptors 0 (descriptorBytes state.entryCount).toNat)) =
      decodeBatch size state descriptors := by
  obtain ⟨hBytes, hBound⟩ := descriptorBytes_toNat hCount
  unfold decodeBatch batchVerdict
  rw [decodeEntries_congr]
  intro entry hEntry
  rw [hBytes]
  apply slice_put_slice (by omega)
  calc
    entry * kStorageBatchEntryBytes + kStorageBatchEntryBytes =
        (entry + 1) * kStorageBatchEntryBytes := (Nat.succ_mul ..).symm
    _ ≤ state.entryCount.toNat * kStorageBatchEntryBytes :=
        Nat.mul_le_mul_right _ (by omega)

/-- The identifier of the pending fetch plays no part in the verdict. -/
theorem decodeBatch_pending (size : UInt64) (state : PendingCommand) (entryBytes : Buffer)
    (wrId : Nat) :
    decodeBatch size { state with descriptorWrId := wrId, descriptorPending := true } entryBytes =
      { decodeBatch size state entryBytes with
        descriptorWrId := wrId
        descriptorPending := true } :=
  rfl

end Facts

namespace Workload

variable (workload : Workload) (command : Nat)

/-- Resolving keeps the slot and the identifier. -/
theorem resolved_accepted {parsed : PendingCommand × Option StorageMemory}
    (h : workload.parsed command = .ok parsed) :
    (workload.resolved command).slot = workload.slotOf command ∧
      (workload.resolved command).completion.state = .complete ∧
      (workload.resolved command).completion.commandId = parsed.1.completion.commandId ∧
      parsed.1.completion.commandId ≠ 0 := by
  obtain ⟨state, entries⟩ := parsed
  have hAccepted := parseCommand_accepted h
  unfold resolved
  rw [h]
  cases entries with
  | none => exact ⟨hAccepted.slot_eq, hAccepted.complete, rfl, hAccepted.commandId_ne⟩
  | some entries => exact ⟨hAccepted.slot_eq, hAccepted.complete, rfl, hAccepted.commandId_ne⟩

/-- The completion of an accepted command can always be serialized. -/
theorem resolved_completionValid {parsed : PendingCommand × Option StorageMemory}
    (h : workload.parsed command = .ok parsed) :
    completionValid (workload.resolved command).completion := by
  obtain ⟨-, hComplete, hId, hNonzero⟩ := workload.resolved_accepted command h
  simp [completionValid, hComplete, hId, hNonzero]

/-- Admitting a command posts at most one work request. -/
theorem admitLoad_le : workload.admitLoad command ≤ 1 := by
  unfold admitLoad
  split
  · exact Nat.zero_le 1
  · rename_i state hParsed
    unfold payloadLoad
    split
    · rename_i hSuccess
      exact Nat.le_of_eq (parseCommand_single hParsed hSuccess)
    · exact Nat.zero_le 1
  · exact Nat.le_refl 1

theorem admitted_isPrefix :
    workload.loadedEvents command <+: workload.admittedEvents command :=
  List.prefix_append ..

theorem resolved_isPrefix :
    workload.admittedEvents command <+: workload.resolvedEvents command :=
  List.prefix_append ..

theorem settled_isPrefix :
    workload.resolvedEvents command <+: workload.settledEvents command :=
  List.prefix_append ..

theorem answered_isPrefix :
    workload.settledEvents command <+: workload.answeredEvents command :=
  List.prefix_append ..

theorem completed_isPrefix :
    workload.answeredEvents command <+: workload.completedEvents command :=
  List.prefix_append ..

end Workload

end NdsStorage.Server
