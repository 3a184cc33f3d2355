import NdsStorage.Client.Submission
import NdsStorage.Client.Verbs
import NdsStorage.Interaction.Program

/-! The storage operations of the three backends with the transport send as a
request. What a backend emits is then visible: the queue and the work request
it sends, the records it has written before, and the state it leaves for each
outcome of the send. -/
namespace NdsStorage.Client

open Bytes Interaction

/-- A work request that is handed to the transport of a queue. -/
structure Posting where
  queue : UInt32
  wr : SendWr
deriving DecidableEq, Repr

/-- The send of a command record. -/
def commandTransfer (buffer : Sge) (commandId : UInt64) : SendWr where
  wrId := commandId
  opcode := kWrSend
  flags := 0
  localBuffer := {
    address := buffer.address
    length := UInt32.ofNat kStorageCommandBytes
    localKey := buffer.localKey }
  remoteAddress := 0
  remoteKey := 0

abbrev Sends (Outcome Result : Type) := Program Posting (fun _ => Outcome) Result

section Aiv

def aivExecuteSerializedSends (descriptor : StorageDescriptor) (memory : DeviceMemory)
    (slotId expectedBytes : UInt32) (commandBytes : Buffer) :
    Sends Int32 (Int32 × DeviceMemory) :=
  match aivClaim descriptor memory slotId expectedBytes with
  | none => .done (setReturnValue OperationStatus.queueFull.code, memory)
  | some memory =>
      let index := (storageSlotIdIndex slotId).toNat
      let slot := descriptor.slots index
      let state := memory.states index
      match serializePending state.commandId with
      | (.error _, _) =>
          .done (setReturnValue OperationStatus.invalidArgument.code,
            memory.setState index { state with inFlight := 0 })
      | (.ok (), pending) =>
          let memory := memory.storeCompletion index pending
          let memory := memory.storeCommand index commandBytes
          let transfer := commandTransfer slot.commandBuffer state.commandId
          .call { queue := slot.qpIndex, wr := transfer } fun sent =>
            .done (sent, memory.setState index { state with status := sent })

def aivStorageSubmitSends (descriptor : StorageDescriptor) (memory : DeviceMemory)
    (slotId expectedBytes : UInt32) (write : CommandWriter) : Sends Int32 (Int32 × DeviceMemory) :=
  match write (aivCommandId descriptor memory slotId) (storageSlotIdIndex slotId) with
  | (.error _, _) => .done (setReturnValue OperationStatus.invalidArgument.code, memory)
  | (.ok (), bytes) => aivExecuteSerializedSends descriptor memory slotId expectedBytes bytes

def aivStorageTransferSends
    (serialize : StorageTransferCommand → Buffer → Except SerdeError Unit × Buffer)
    (descriptor : StorageDescriptor) (memory : DeviceMemory) (args : TransferArgs) :
    Sends Int32 (Int32 × DeviceMemory) :=
  if args.length = 0 then
    .done (setReturnValue OperationStatus.invalidArgument.code, memory)
  else
    aivStorageSubmitSends descriptor memory args.slotId args.length (args.writer serialize)

def aivStorageBatchSends
    (serialize : StorageBatchCommand → Buffer → Except SerdeError Unit × Buffer)
    (deserialize : Buffer → Except SerdeError StorageBatchEntry)
    (descriptor : StorageDescriptor) (memory : DeviceMemory) (args : BatchArgs)
    (entries : Buffer) : Sends Int32 (Int32 × DeviceMemory) :=
  if args.entryCount = 0 ∨ args.entryCount > UInt32.ofNat kStorageMaxBatchEntries then
    .done (setReturnValue OperationStatus.invalidArgument.code, memory)
  else
    let total := aivBatchTotal args deserialize entries
    aivStorageSubmitSends descriptor memory args.slotId total (args.writer total.toUInt64 serialize)

def aivSubmitSends (descriptor : StorageDescriptor) (memory : DeviceMemory)
    (submission : Submission) : Sends Int32 (Int32 × DeviceMemory) :=
  match submission with
  | .read args => aivStorageTransferSends serializeStorageRead descriptor memory args
  | .write args => aivStorageTransferSends serializeStorageWrite descriptor memory args
  | .batchRead args entries => aivStorageBatchSends serializeStorageBatchRead
      deserializeStorageBatchReadEntry descriptor memory args entries
  | .batchWrite args entries => aivStorageBatchSends serializeStorageBatchWrite
      deserializeStorageBatchWriteEntry descriptor memory args entries

end Aiv

section Aicpu

def aicpuExecuteSends (descriptor : StorageDescriptor) (memory : DeviceMemory)
    (slotId expectedBytes : UInt32) (write : CommandWriter) :
    Sends Int32 (Except UInt32 Int32 × DeviceMemory) :=
  if ¬ storageDescriptorValid descriptor ∨ ¬ storageSlotIdValid descriptor slotId ∨
      expectedBytes = 0 then
    .done (.error kNdsAicpuInvalidArgument, memory)
  else
    let index := (storageSlotIdIndex slotId).toNat
    let slot := descriptor.slots index
    let state := memory.states index
    if state.commandId = 0 ∨ state.inFlight ≠ 0 then
      .done (.error kNdsAicpuInvalidArgument, memory)
    else
      let state := { state with
        expectedBytes := expectedBytes
        inFlight := 1
        status := 0 }
      match serializePending state.commandId,
          write state.commandId (storageSlotIdIndex slotId) with
      | (.ok (), pending), (.ok (), commandBytes) =>
          let memory := memory.storeCompletion index pending
          let memory := memory.storeCommand index commandBytes
          let transfer := commandTransfer slot.commandBuffer state.commandId
          .call { queue := slot.qpIndex, wr := transfer } fun sent =>
            .done (.ok (setReturnValue (if sent = 0 then 0 else (-sent).toUInt32)),
              memory.setState index { state with status := sent })
      | _, _ =>
          .done (.ok (setReturnValue OperationStatus.invalidArgument.code),
            memory.setState index { state with inFlight := 0 })

def aicpuStorageTransferSends
    (serialize : StorageTransferCommand → Buffer → Except SerdeError Unit × Buffer)
    (descriptor : StorageDescriptor) (memory : DeviceMemory) (args : TransferArgs) :
    Sends Int32 (Except UInt32 Int32 × DeviceMemory) :=
  if args.length = 0 ∨ args.bufferAddress = 0 ∨ args.bufferKey = 0 then
    .done (.error kNdsAicpuInvalidArgument, memory)
  else
    aicpuExecuteSends descriptor memory args.slotId args.length (args.writer serialize)

def aicpuStorageBatchSends
    (serialize : StorageBatchCommand → Buffer → Except SerdeError Unit × Buffer)
    (deserialize : Buffer → Except SerdeError StorageBatchEntry)
    (descriptor : StorageDescriptor) (memory : DeviceMemory) (args : BatchArgs)
    (entries : Buffer) : Sends Int32 (Except UInt32 Int32 × DeviceMemory) :=
  let total := aicpuBatchBytes args deserialize entries
  aicpuExecuteSends descriptor memory args.slotId total (args.writer total.toUInt64 serialize)

def aicpuSubmitSends (descriptor : StorageDescriptor) (memory : DeviceMemory)
    (submission : Submission) : Sends Int32 (Except UInt32 Int32 × DeviceMemory) :=
  match submission with
  | .read args => aicpuStorageTransferSends serializeStorageRead descriptor memory args
  | .write args => aicpuStorageTransferSends serializeStorageWrite descriptor memory args
  | .batchRead args entries => aicpuStorageBatchSends serializeStorageBatchRead
      deserializeStorageBatchReadEntry descriptor memory args entries
  | .batchWrite args entries => aicpuStorageBatchSends serializeStorageBatchWrite
      deserializeStorageBatchWriteEntry descriptor memory args entries

end Aicpu

section Ra

/-- Only the copies of `outcomes` are used; the send is a request on the queue
that the context was made for. -/
def raExecuteSends (context : RaStorageContext) (queue : UInt32) (memory : DeviceMemory)
    (write : CommandWriter) (expectedBytes : UInt64) (outcomes : RaOutcomes) :
    Sends (Except Error Unit) (Except Error Unit × DeviceMemory) :=
  let index := context.slotIndex.toNat
  match raClaim context (memory.states index) expectedBytes with
  | .error error => .done (.error error, memory)
  | .ok state =>
      let abandoned := fun memory : DeviceMemory => memory.setState index (raAbandon state)
      match serializePending state.commandId with
      | (.error _, _) =>
          .done (.error { code := .protocol, message := "invalid RA pending completion record" },
            abandoned memory)
      | (.ok (), pending) =>
          match outcomes.pendingCopied with
          | .error error => .done (.error error, abandoned memory)
          | .ok () =>
              let memory := memory.storeCompletion index pending
              match write state.commandId context.slotIndex with
              | (.error _, _) =>
                  .done (.error { code := .protocol, message := "invalid RA storage command" },
                    abandoned memory)
              | (.ok (), commandBytes) =>
                  match outcomes.commandCopied with
                  | .error error => .done (.error error, abandoned memory)
                  | .ok () =>
                      let memory := memory.storeCommand index commandBytes
                      let transfer := commandTransfer context.commandBuffer state.commandId
                      .call { queue := queue, wr := transfer } fun
                        | .error error => .done (.error error, abandoned memory)
                        | .ok () => .done (.ok (), memory.setState index state)

def raStorageTransferSends (invalid : String)
    (serialize : StorageTransferCommand → Buffer → Except SerdeError Unit × Buffer)
    (context : RaStorageContext) (queue : UInt32) (memory : DeviceMemory) (args : TransferArgs)
    (outcomes : RaOutcomes) : Sends (Except Error Unit) (Except Error Unit × DeviceMemory) :=
  if args.serverOffset > context.capacity ∨ args.length = 0 ∨
      args.length.toUInt64 > context.capacity - args.serverOffset ∨ args.bufferAddress = 0 ∨
      args.bufferKey = 0 then
    .done (.error { code := .invalidArgument, message := invalid }, memory)
  else
    raExecuteSends context queue memory (args.writer serialize) args.length.toUInt64 outcomes

def raStorageBatchSends
    (serialize : StorageBatchCommand → Buffer → Except SerdeError Unit × Buffer)
    (deserialize : Buffer → Except SerdeError StorageBatchEntry)
    (context : RaStorageContext) (queue : UInt32) (memory : DeviceMemory) (args : BatchArgs)
    (entries : Buffer) (outcomes : RaOutcomes) :
    Sends (Except Error Unit) (Except Error Unit × DeviceMemory) :=
  match raDecodeEntries context args deserialize (outcomes.entriesCopied.map fun _ => entries) with
  | .error error => .done (.error error, memory)
  | .ok total => raExecuteSends context queue memory (args.writer total serialize) total outcomes

def raSubmitSends (context : RaStorageContext) (queue : UInt32) (memory : DeviceMemory)
    (submission : Submission) (outcomes : RaOutcomes) :
    Sends (Except Error Unit) (Except Error Unit × DeviceMemory) :=
  match submission with
  | .read args => raStorageTransferSends "invalid RA storage read arguments" serializeStorageRead
      context queue memory args outcomes
  | .write args => raStorageTransferSends "invalid RA storage write arguments"
      serializeStorageWrite context queue memory args outcomes
  | .batchRead args entries => raStorageBatchSends serializeStorageBatchRead
      deserializeStorageBatchReadEntry context queue memory args entries outcomes
  | .batchWrite args entries => raStorageBatchSends serializeStorageBatchWrite
      deserializeStorageBatchWriteEntry context queue memory args entries outcomes

/-- The context that the entry points make for a slot of the descriptor. -/
def raStorageContext (descriptor : StorageDescriptor) (slotIndex : UInt32) : RaStorageContext where
  commandBuffer := (descriptor.slots slotIndex.toNat).commandBuffer
  completion := (descriptor.slots slotIndex.toNat).completionBuffer
  capacity := descriptor.capacity
  slotIndex := slotIndex

/-- The entry points of the host backend. `connected` says whether the queue
descriptor holds the handles of the host. -/
def raBackendStorage (descriptor : StorageDescriptor) (connected : Bool) (memory : DeviceMemory)
    (submission : Submission) (outcomes : RaOutcomes) :
    Sends (Except Error Unit) (Int32 × DeviceMemory) :=
  if ¬ storageDescriptorValid descriptor ∨ ¬ storageSlotIdValid descriptor submission.slotId then
    .done (-1, memory)
  else
    let slotIndex := storageSlotIdIndex submission.slotId
    let slot := descriptor.slots slotIndex.toNat
    if ¬ connected then
      .done (-1, memory)
    else
      (raSubmitSends (raStorageContext descriptor slotIndex) slot.qpIndex memory submission
        outcomes).bind fun
          | (.ok (), memory) => .done (0, memory)
          | (.error _, memory) => .done (-1, memory)

/-- The entry point for waiting: zero for a success, one for a command that is
still pending, minus one for anything else. -/
def raBackendStorageWait (descriptor : StorageDescriptor) (connected : Bool)
    (memory : DeviceMemory) (slotId : UInt32) (copied : Except Error Unit) : Int32 :=
  if ¬ storageSlotIdValid descriptor slotId then
    -1
  else if ¬ connected then
    -1
  else
    match raStorageWait (raStorageContext descriptor (storageSlotIdIndex slotId)) memory
        copied with
    | .ok completion => if completion.status = .success then 0 else -1
    | .error error => if error.message = "storage completion is pending" then 1 else -1

end Ra

section Replay

variable {descriptor : StorageDescriptor} {memory : DeviceMemory} {slotId expected : UInt32}

/-- With the outcome of the send filled in, these are the operations as they return. -/
theorem aivSubmitSends_replay (submission : Submission) (sent : Int32) :
    (aivSubmitSends descriptor memory submission).replay (fun _ => sent) =
      aivSubmit descriptor memory submission sent := by
  have hExecute : ∀ slotId expected message,
      (aivExecuteSerializedSends descriptor memory slotId expected message).replay (fun _ => sent) =
        aivExecuteSerialized descriptor memory slotId expected message sent := by
    intro slotId expected message
    simp only [aivExecuteSerializedSends, aivExecuteSerialized]
    cases aivClaim descriptor memory slotId expected with
    | none => rfl
    | some memory =>
        dsimp only
        obtain ⟨outcome, pending⟩ := serializePending
          (memory.states (storageSlotIdIndex slotId).toNat).commandId
        cases outcome <;> rfl
  have hSubmit : ∀ slotId expected write,
      (aivStorageSubmitSends descriptor memory slotId expected write).replay (fun _ => sent) =
        aivStorageSubmit descriptor memory slotId expected write sent := by
    intro slotId expected write
    simp only [aivStorageSubmitSends, aivStorageSubmit]
    obtain ⟨outcome, message⟩ := write (aivCommandId descriptor memory slotId)
      (storageSlotIdIndex slotId)
    cases outcome with
    | error failure => rfl
    | ok _ => exact hExecute ..
  have hTransfer : ∀ serialize args,
      (aivStorageTransferSends serialize descriptor memory args).replay (fun _ => sent) =
        aivStorageTransfer serialize descriptor memory args sent := by
    intro serialize args
    by_cases hEmpty : args.length = 0
    · rw [aivStorageTransferSends, aivStorageTransfer, if_pos hEmpty, if_pos hEmpty]
      rfl
    · rw [aivStorageTransferSends, aivStorageTransfer, if_neg hEmpty, if_neg hEmpty]
      exact hSubmit ..
  have hBatch : ∀ serialize deserialize args entries,
      (aivStorageBatchSends serialize deserialize descriptor memory args entries).replay
          (fun _ => sent) =
        aivStorageBatch serialize deserialize descriptor memory args entries sent := by
    intro serialize deserialize args entries
    by_cases hCount : args.entryCount = 0 ∨
        args.entryCount > UInt32.ofNat kStorageMaxBatchEntries
    · rw [aivStorageBatchSends, aivStorageBatch, if_pos hCount, if_pos hCount]
      rfl
    · rw [aivStorageBatchSends, aivStorageBatch, if_neg hCount, if_neg hCount]
      exact hSubmit ..
  cases submission with
  | read args => exact hTransfer ..
  | write args => exact hTransfer ..
  | batchRead args entries => exact hBatch ..
  | batchWrite args entries => exact hBatch ..

/-- As a run of one send, it is the submission with that send's answer. -/
theorem aicpuSubmitSends_replay (submission : Submission) (sent : Int32) :
    (aicpuSubmitSends descriptor memory submission).replay (fun _ => sent) =
      aicpuSubmit descriptor memory submission sent := by
  have hExecute : ∀ slotId expected write,
      (aicpuExecuteSends descriptor memory slotId expected write).replay (fun _ => sent) =
        aicpuExecute descriptor memory slotId expected write sent := by
    intro slotId expected write
    by_cases hInvalid : ¬ storageDescriptorValid descriptor ∨
        ¬ storageSlotIdValid descriptor slotId ∨ expected = 0
    · rw [aicpuExecuteSends, aicpuExecute, if_pos hInvalid, if_pos hInvalid]
      rfl
    rw [aicpuExecuteSends, aicpuExecute, if_neg hInvalid, if_neg hInvalid]
    dsimp only
    by_cases hTaken : (memory.states (storageSlotIdIndex slotId).toNat).commandId = 0 ∨
        (memory.states (storageSlotIdIndex slotId).toNat).inFlight ≠ 0
    · rw [if_pos hTaken, if_pos hTaken]
      rfl
    rw [if_neg hTaken, if_neg hTaken]
    obtain ⟨outcome, pending⟩ := serializePending
      (memory.states (storageSlotIdIndex slotId).toNat).commandId
    obtain ⟨outcome', message⟩ := write (memory.states (storageSlotIdIndex slotId).toNat).commandId
      (storageSlotIdIndex slotId)
    cases outcome <;> cases outcome' <;> rfl
  have hTransfer : ∀ serialize args,
      (aicpuStorageTransferSends serialize descriptor memory args).replay (fun _ => sent) =
        aicpuStorageTransfer serialize descriptor memory args sent := by
    intro serialize args
    by_cases hInvalid : args.length = 0 ∨ args.bufferAddress = 0 ∨ args.bufferKey = 0
    · rw [aicpuStorageTransferSends, aicpuStorageTransfer, if_pos hInvalid, if_pos hInvalid]
      rfl
    · rw [aicpuStorageTransferSends, aicpuStorageTransfer, if_neg hInvalid, if_neg hInvalid]
      exact hExecute ..
  cases submission with
  | read args => exact hTransfer ..
  | write args => exact hTransfer ..
  | batchRead args entries => exact hExecute ..
  | batchWrite args entries => exact hExecute ..

theorem raSubmitSends_replay (context : RaStorageContext) (queue : UInt32)
    (submission : Submission) (outcomes : RaOutcomes) :
    (raSubmitSends context queue memory submission outcomes).replay (fun _ => outcomes.sent) =
      raSubmit context memory submission outcomes := by
  have hExecute : ∀ write expected,
      (raExecuteSends context queue memory write expected outcomes).replay
          (fun _ => outcomes.sent) =
        raExecute context memory write expected outcomes := by
    intro write expected
    simp only [raExecuteSends, raExecute]
    cases raClaim context (memory.states context.slotIndex.toNat) expected with
    | error error => rfl
    | ok state =>
        dsimp only
        obtain ⟨outcome, pending⟩ := serializePending state.commandId
        obtain ⟨outcome', message⟩ := write state.commandId context.slotIndex
        cases outcome <;> cases outcomes.pendingCopied <;> cases outcome' <;>
          cases outcomes.commandCopied <;> try rfl
        dsimp only [Program.replay]
        cases outcomes.sent <;> rfl
  have hTransfer : ∀ invalid serialize args,
      (raStorageTransferSends invalid serialize context queue memory args outcomes).replay
          (fun _ => outcomes.sent) =
        raStorageTransfer invalid serialize context memory args outcomes := by
    intro invalid serialize args
    simp only [raStorageTransferSends, raStorageTransfer]
    split_ifs
    · rfl
    · exact hExecute ..
  have hBatch : ∀ serialize deserialize args entries,
      (raStorageBatchSends serialize deserialize context queue memory args entries outcomes).replay
          (fun _ => outcomes.sent) =
        raStorageBatch serialize deserialize context memory args entries outcomes := by
    intro serialize deserialize args entries
    simp only [raStorageBatchSends, raStorageBatch]
    cases raDecodeEntries context args deserialize
        (outcomes.entriesCopied.map fun _ => entries) with
    | error error => rfl
    | ok total => exact hExecute ..
  cases submission with
  | read args => exact hTransfer ..
  | write args => exact hTransfer ..
  | batchRead args entries => exact hBatch ..
  | batchWrite args entries => exact hBatch ..

end Replay

end NdsStorage.Client
