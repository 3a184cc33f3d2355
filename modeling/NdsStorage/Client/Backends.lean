import NdsStorage.Client.Slots
import NdsStorage.Protocol.Serde

/-! The storage operations of the device backends and of the host backend. An
operation works on the state record and on the command and completion buffers
of one slot. What a send, a copy or a memory read returns is an argument, so
the operations are functions of what they find. -/
namespace NdsStorage.Client

open Bytes

inductive OperationStatus where
  | success | invalidArgument | symbolUnavailable | providerFailed | queueFull | unsupported
deriving DecidableEq, Repr

def OperationStatus.code : OperationStatus → UInt32
  | .success => 0
  | .invalidArgument => 1
  | .symbolUnavailable => 2
  | .providerFailed => 3
  | .queueFull => 4
  | .unsupported => 5

/-- Return values are zero or a negative code. -/
def setReturnValue (status : UInt32) : Int32 := if status = 0 then 0 else -status.toInt32

structure Sge where
  address : UInt64
  length : UInt32
  localKey : UInt32
deriving DecidableEq, Repr

structure SlotDescriptor where
  commandBuffer : Sge
  completionBuffer : Sge
  qpIndex : UInt32
  reserved : UInt32
deriving DecidableEq, Repr

structure TransportDescriptor where
  qpDescriptorsAddress : UInt64
  qpStatesAddress : UInt64
  qpCount : UInt32
  reserved : UInt32
deriving DecidableEq, Repr

/-- The descriptor of a client with the slot descriptors that it points to. -/
structure StorageDescriptor where
  transport : TransportDescriptor
  slotDescriptorsAddress : UInt64
  storageStatesAddress : UInt64
  slotCount : UInt32
  reserved : UInt32
  capacity : UInt64
  slots : Nat → SlotDescriptor

/-- The state records of the slots and the records in their buffers. -/
structure DeviceMemory where
  states : Nat → StorageState
  commandBytes : Nat → Buffer
  completionBytes : Nat → Buffer

namespace DeviceMemory

def setState (memory : DeviceMemory) (index : Nat) (state : StorageState) : DeviceMemory :=
  { memory with states := Function.update memory.states index state }

def storeCommand (memory : DeviceMemory) (index : Nat) (bytes : Buffer) : DeviceMemory :=
  { memory with commandBytes := Function.update memory.commandBytes index bytes }

def storeCompletion (memory : DeviceMemory) (index : Nat) (bytes : Buffer) : DeviceMemory :=
  { memory with completionBytes := Function.update memory.completionBytes index bytes }

@[simp] theorem setState_self (memory : DeviceMemory) (index : Nat) (state : StorageState) :
    (memory.setState index state).states index = state :=
  Function.update_self ..

@[simp] theorem storeCommand_self (memory : DeviceMemory) (index : Nat) (bytes : Buffer) :
    (memory.storeCommand index bytes).commandBytes index = bytes :=
  Function.update_self ..

@[simp] theorem storeCompletion_self (memory : DeviceMemory) (index : Nat) (bytes : Buffer) :
    (memory.storeCompletion index bytes).completionBytes index = bytes :=
  Function.update_self ..

@[simp] theorem storeCompletion_states (memory : DeviceMemory) (index : Nat) (bytes : Buffer) :
    (memory.storeCompletion index bytes).states = memory.states :=
  rfl

end DeviceMemory

def storageDescriptorValid (descriptor : StorageDescriptor) : Bool :=
  descriptor.slotDescriptorsAddress ≠ 0 && descriptor.storageStatesAddress ≠ 0 &&
    descriptor.slotCount ≠ 0 && descriptor.transport.qpCount ≠ 0 && descriptor.capacity ≠ 0 &&
    descriptor.reserved = 0 && descriptor.transport.reserved = 0 &&
    descriptor.transport.qpDescriptorsAddress ≠ 0 && descriptor.transport.qpStatesAddress ≠ 0

/-- A slot with usable buffers on a queue of the client. -/
def storageSlotValid (descriptor : StorageDescriptor) (slotIndex : UInt32) : Bool :=
  let slot := descriptor.slots slotIndex.toNat
  storageDescriptorValid descriptor && slotIndex < descriptor.slotCount && slot.reserved = 0 &&
    slot.qpIndex < descriptor.transport.qpCount && slot.commandBuffer.address ≠ 0 &&
    slot.commandBuffer.localKey ≠ 0 &&
    slot.commandBuffer.length ≥ UInt32.ofNat kStorageCommandBytes &&
    slot.completionBuffer.address ≠ 0 && slot.completionBuffer.localKey ≠ 0 &&
    slot.completionBuffer.length ≥ UInt32.ofNat kStorageCompletionBytes

def storageSlotIdValid (descriptor : StorageDescriptor) (slotId : UInt32) : Bool :=
  storageSlotValid descriptor (storageSlotIdIndex slotId) &&
    (descriptor.slots (storageSlotIdIndex slotId).toNat).qpIndex = storageSlotIdQueue slotId

/-- The state record of a slot, if the descriptor has one. -/
def storageState (descriptor : StorageDescriptor) (memory : DeviceMemory) (slotIndex : UInt32) :
    Option StorageState :=
  if descriptor.storageStatesAddress = 0 ∨ slotIndex ≥ descriptor.slotCount then none
  else some (memory.states slotIndex.toNat)

structure TransferArgs where
  slotId : UInt32
  serverOffset : UInt64
  bufferAddress : UInt64
  bufferKey : UInt32
  length : UInt32
deriving DecidableEq, Repr

structure BatchArgs where
  slotId : UInt32
  entryCount : UInt32
  entriesAddress : UInt64
  entriesKey : UInt32
deriving DecidableEq, Repr

def TransferArgs.command (args : TransferArgs) (commandId : UInt64) (slotIndex : UInt32) :
    StorageTransferCommand where
  commandId := commandId
  offset := args.serverOffset
  length := args.length.toUInt64
  data := {
    address := args.bufferAddress
    length := args.length.toUInt64
    remoteKey := args.bufferKey }
  slotIndex := slotIndex

def BatchArgs.command (args : BatchArgs) (total commandId : UInt64) (slotIndex : UInt32) :
    StorageBatchCommand where
  commandId := commandId
  entryCount := args.entryCount.toUInt64
  totalLength := total
  entries := {
    address := args.entriesAddress
    length := args.entryCount.toUInt64 * UInt64.ofNat kStorageBatchEntryBytes
    remoteKey := args.entriesKey }
  slotIndex := slotIndex

/-- The record that a slot shows until the server has answered. -/
def pendingCompletion (commandId : UInt64) : StorageCompletion where
  commandId := commandId
  state := .pending
  status := .success
  bytesTransferred := 0

def serializePending (commandId : UInt64) : Except SerdeError Unit × Buffer :=
  serializeStorageCompletion (pendingCompletion commandId)
    (List.replicate kStorageCompletionBytes 0)

/-- A command in a fresh buffer, once its identifier and slot are known. -/
abbrev CommandWriter := UInt64 → UInt32 → Except SerdeError Unit × Buffer

def TransferArgs.writer (args : TransferArgs)
    (serialize : StorageTransferCommand → Buffer → Except SerdeError Unit × Buffer) :
    CommandWriter :=
  fun commandId slotIndex =>
    serialize (args.command commandId slotIndex) (List.replicate kStorageCommandBytes 0)

def BatchArgs.writer (args : BatchArgs) (total : UInt64)
    (serialize : StorageBatchCommand → Buffer → Except SerdeError Unit × Buffer) :
    CommandWriter :=
  fun commandId slotIndex =>
    serialize (args.command total commandId slotIndex) (List.replicate kStorageCommandBytes 0)

def kMaxUInt32 : UInt64 := 0xffffffff

/-- Add up the lengths of the entries in the device's memory. The guard is
computed in 64-bit arithmetic and wraps for a length beyond 32 bits. -/
def sumEntries (deserialize : Buffer → Except SerdeError StorageBatchEntry) (entries : Buffer) :
    (remaining index : Nat) → UInt64 → Option UInt64
  | 0, _, total => some total
  | remaining + 1, index, total =>
      match deserialize
          (slice entries (index * kStorageBatchEntryBytes) kStorageBatchEntryBytes) with
      | .error _ => none
      | .ok entry =>
          if entry.length = 0 ∨ total > kMaxUInt32 - entry.length then none
          else sumEntries deserialize entries remaining (index + 1) (total + entry.length)

/-- The total of a batch, or zero when it has none. -/
def batchSum (args : BatchArgs) (deserialize : Buffer → Except SerdeError StorageBatchEntry)
    (entries : Buffer) : UInt64 :=
  if args.entriesAddress = 0 ∨ args.entriesKey = 0 ∨ args.entryCount = 0 ∨
      args.entryCount > UInt32.ofNat kStorageMaxBatchEntries then
    0
  else
    (sumEntries deserialize entries args.entryCount.toNat 0 0).getD 0

/-- What both device backends make of a slot whose command is in flight. -/
def inspectSlot (state : StorageState) (record : Buffer) : Int32 :=
  if state.status ≠ 0 then
    setReturnValue (-state.status).toUInt32
  else
    match deserializeStorageCompletion record with
    | .error _ => setReturnValue OperationStatus.queueFull.code
    | .ok completion =>
        if completion.state ≠ .complete then
          setReturnValue OperationStatus.queueFull.code
        else if completion.commandId ≠ state.commandId ∨
            completion.bytesTransferred ≠ state.expectedBytes.toUInt64 then
          setReturnValue OperationStatus.invalidArgument.code
        else if completion.status = .success then
          setReturnValue OperationStatus.success.code
        else
          setReturnValue OperationStatus.providerFailed.code

section Aiv

/-- Take a slot for a command. The status of the last command is forgotten. -/
def aivClaim (descriptor : StorageDescriptor) (memory : DeviceMemory)
    (slotId expectedBytes : UInt32) : Option DeviceMemory :=
  match storageState descriptor memory (storageSlotIdIndex slotId) with
  | none => none
  | some state =>
      if ¬ storageSlotIdValid descriptor slotId ∨ state.commandId = 0 ∨ expectedBytes = 0 ∨
          state.inFlight ≠ 0 then
        none
      else
        some (memory.setState (storageSlotIdIndex slotId).toNat { state with
          expectedBytes := expectedBytes
          inFlight := 1
          status := 0 })

/-- Post a serialized command. `sent` is the return value of the send. -/
def aivExecuteSerialized (descriptor : StorageDescriptor) (memory : DeviceMemory)
    (slotId expectedBytes : UInt32) (commandBytes : Buffer) (sent : Int32) :
    Int32 × DeviceMemory :=
  match aivClaim descriptor memory slotId expectedBytes with
  | none => (setReturnValue OperationStatus.queueFull.code, memory)
  | some memory =>
      let index := (storageSlotIdIndex slotId).toNat
      let state := memory.states index
      match serializePending state.commandId with
      | (.error _, _) =>
          (setReturnValue OperationStatus.invalidArgument.code,
            memory.setState index { state with inFlight := 0 })
      | (.ok (), pending) =>
          let memory := memory.storeCompletion index pending
          let memory := memory.storeCommand index commandBytes
          (sent, memory.setState index { state with status := sent })

/-- The identifier that the state record of a slot holds, or zero. -/
def aivCommandId (descriptor : StorageDescriptor) (memory : DeviceMemory) (slotId : UInt32) :
    UInt64 :=
  match storageState descriptor memory (storageSlotIdIndex slotId) with
  | none => 0
  | some state => state.commandId

/-- Serialize a command with the identifier of its slot, then post it. -/
def aivStorageSubmit (descriptor : StorageDescriptor) (memory : DeviceMemory)
    (slotId expectedBytes : UInt32) (write : CommandWriter) (sent : Int32) :
    Int32 × DeviceMemory :=
  match write (aivCommandId descriptor memory slotId) (storageSlotIdIndex slotId) with
  | (.error _, _) => (setReturnValue OperationStatus.invalidArgument.code, memory)
  | (.ok (), bytes) => aivExecuteSerialized descriptor memory slotId expectedBytes bytes sent

def aivStorageTransfer
    (serialize : StorageTransferCommand → Buffer → Except SerdeError Unit × Buffer)
    (descriptor : StorageDescriptor) (memory : DeviceMemory) (args : TransferArgs)
    (sent : Int32) : Int32 × DeviceMemory :=
  if args.length = 0 then
    (setReturnValue OperationStatus.invalidArgument.code, memory)
  else
    aivStorageSubmit descriptor memory args.slotId args.length (args.writer serialize) sent

def aivStorageRead := aivStorageTransfer serializeStorageRead

def aivStorageWrite := aivStorageTransfer serializeStorageWrite

/-- The total of a batch, cut to 32 bits. -/
def aivBatchTotal (args : BatchArgs) (deserialize : Buffer → Except SerdeError StorageBatchEntry)
    (entries : Buffer) : UInt32 :=
  (batchSum args deserialize entries).toUInt32

def aivStorageBatch (serialize : StorageBatchCommand → Buffer → Except SerdeError Unit × Buffer)
    (deserialize : Buffer → Except SerdeError StorageBatchEntry)
    (descriptor : StorageDescriptor) (memory : DeviceMemory) (args : BatchArgs)
    (entries : Buffer) (sent : Int32) : Int32 × DeviceMemory :=
  if args.entryCount = 0 ∨ args.entryCount > UInt32.ofNat kStorageMaxBatchEntries then
    (setReturnValue OperationStatus.invalidArgument.code, memory)
  else
    let total := aivBatchTotal args deserialize entries
    aivStorageSubmit descriptor memory args.slotId total (args.writer total.toUInt64 serialize)
      sent

def aivStorageBatchRead :=
  aivStorageBatch serializeStorageBatchRead deserializeStorageBatchReadEntry

def aivStorageBatchWrite :=
  aivStorageBatch serializeStorageBatchWrite deserializeStorageBatchWriteEntry

def aivStorageWait (descriptor : StorageDescriptor) (memory : DeviceMemory) (slotId : UInt32) :
    Int32 :=
  match storageState descriptor memory (storageSlotIdIndex slotId) with
  | none => setReturnValue OperationStatus.invalidArgument.code
  | some state =>
      if ¬ storageSlotIdValid descriptor slotId ∨ state.commandId = 0 ∨
          state.expectedBytes = 0 ∨ state.inFlight = 0 then
        setReturnValue OperationStatus.invalidArgument.code
      else
        inspectSlot state (memory.completionBytes (storageSlotIdIndex slotId).toNat)

end Aiv

section Aicpu

def kNdsAicpuInvalidArgument : UInt32 := 1

/-- Take the slot, then serialize and post. A command that does not serialize
gives the slot back. An error is the result of a call that leaves the return
value alone; `sent` is the post status that the send leaves. -/
def aicpuExecute (descriptor : StorageDescriptor) (memory : DeviceMemory)
    (slotId expectedBytes : UInt32) (write : CommandWriter) (sent : Int32) :
    Except UInt32 Int32 × DeviceMemory :=
  if ¬ storageDescriptorValid descriptor ∨ ¬ storageSlotIdValid descriptor slotId ∨
      expectedBytes = 0 then
    (.error kNdsAicpuInvalidArgument, memory)
  else
    let index := (storageSlotIdIndex slotId).toNat
    let state := memory.states index
    if state.commandId = 0 ∨ state.inFlight ≠ 0 then
      (.error kNdsAicpuInvalidArgument, memory)
    else
      let state := { state with
        expectedBytes := expectedBytes
        inFlight := 1
        status := 0 }
      match serializePending state.commandId,
          write state.commandId (storageSlotIdIndex slotId) with
      | (.ok (), pending), (.ok (), commandBytes) =>
          let memory := memory.storeCompletion index pending
          let memory := memory.storeCommand index commandBytes
          (.ok (setReturnValue (if sent = 0 then 0 else (-sent).toUInt32)),
            memory.setState index { state with status := sent })
      | _, _ =>
          (.ok (setReturnValue OperationStatus.invalidArgument.code),
            memory.setState index { state with inFlight := 0 })

def aicpuStorageTransfer
    (serialize : StorageTransferCommand → Buffer → Except SerdeError Unit × Buffer)
    (descriptor : StorageDescriptor) (memory : DeviceMemory) (args : TransferArgs)
    (sent : Int32) : Except UInt32 Int32 × DeviceMemory :=
  if args.length = 0 ∨ args.bufferAddress = 0 ∨ args.bufferKey = 0 then
    (.error kNdsAicpuInvalidArgument, memory)
  else
    aicpuExecute descriptor memory args.slotId args.length (args.writer serialize) sent

def aicpuStorageRead := aicpuStorageTransfer serializeStorageRead

def aicpuStorageWrite := aicpuStorageTransfer serializeStorageWrite

/-- The total of a batch, or zero when it does not fit 32 bits. -/
def aicpuBatchBytes (args : BatchArgs)
    (deserialize : Buffer → Except SerdeError StorageBatchEntry) (entries : Buffer) : UInt32 :=
  if batchSum args deserialize entries > kMaxUInt32 then 0
  else (batchSum args deserialize entries).toUInt32

def aicpuStorageBatch
    (serialize : StorageBatchCommand → Buffer → Except SerdeError Unit × Buffer)
    (deserialize : Buffer → Except SerdeError StorageBatchEntry)
    (descriptor : StorageDescriptor) (memory : DeviceMemory) (args : BatchArgs)
    (entries : Buffer) (sent : Int32) : Except UInt32 Int32 × DeviceMemory :=
  let total := aicpuBatchBytes args deserialize entries
  aicpuExecute descriptor memory args.slotId total (args.writer total.toUInt64 serialize) sent

def aicpuStorageBatchRead :=
  aicpuStorageBatch serializeStorageBatchRead deserializeStorageBatchReadEntry

def aicpuStorageBatchWrite :=
  aicpuStorageBatch serializeStorageBatchWrite deserializeStorageBatchWriteEntry

def aicpuStorageWait (descriptor : StorageDescriptor) (memory : DeviceMemory) (slotId : UInt32) :
    Except UInt32 Int32 :=
  if ¬ storageSlotIdValid descriptor slotId then
    .error kNdsAicpuInvalidArgument
  else
    let index := (storageSlotIdIndex slotId).toNat
    let state := memory.states index
    if state.inFlight = 0 then
      .error kNdsAicpuInvalidArgument
    else
      .ok (inspectSlot state (memory.completionBytes index))

end Aicpu

section Ra

/-- What the host backend knows of one slot. The device pointers are present. -/
structure RaStorageContext where
  commandBuffer : Sge
  completion : Sge
  capacity : UInt64
  slotIndex : UInt32
deriving DecidableEq, Repr

def raValidateContext (context : RaStorageContext) (state : StorageState) : Except Error Unit :=
  if context.commandBuffer.address = 0 ∨ context.commandBuffer.localKey = 0 ∨
      context.commandBuffer.length < UInt32.ofNat kStorageCommandBytes ∨
      context.completion.address = 0 ∨ context.completion.localKey = 0 ∨
      context.completion.length < UInt32.ofNat kStorageCompletionBytes ∨
      context.capacity = 0 ∨ state.commandId = 0 ∨ state.status ≠ 0 then
    .error { code := .invalidArgument, message := "invalid RA storage context" }
  else
    .ok ()

def raClaim (context : RaStorageContext) (state : StorageState) (expectedBytes : UInt64) :
    Except Error StorageState := do
  raValidateContext context state
  if expectedBytes = 0 ∨ expectedBytes > kMaxUInt32 ∨ state.inFlight ≠ 0 then
    throw {
      code := .transport
      message := "RA storage slot is already in flight or has an invalid length" }
  pure { state with
    expectedBytes := expectedBytes.toUInt32
    inFlight := 1 }

def raAbandon (state : StorageState) : StorageState :=
  { state with
    expectedBytes := 0
    inFlight := 0
    status := 0 }

/-- What the runtime and the transport return while a command is posted. -/
structure RaOutcomes where
  entriesCopied : Except Error Unit
  pendingCopied : Except Error Unit
  commandCopied : Except Error Unit
  sent : Except Error Unit

/-- Take the slot, copy the pending record and the command to the device and
post. Any failure gives the slot back. -/
def raExecute (context : RaStorageContext) (memory : DeviceMemory) (write : CommandWriter)
    (expectedBytes : UInt64) (outcomes : RaOutcomes) : Except Error Unit × DeviceMemory :=
  let index := context.slotIndex.toNat
  match raClaim context (memory.states index) expectedBytes with
  | .error error => (.error error, memory)
  | .ok state =>
      let abandoned := fun memory : DeviceMemory => memory.setState index (raAbandon state)
      match serializePending state.commandId with
      | (.error _, _) =>
          (.error { code := .protocol, message := "invalid RA pending completion record" },
            abandoned memory)
      | (.ok (), pending) =>
          match outcomes.pendingCopied with
          | .error error => (.error error, abandoned memory)
          | .ok () =>
              let memory := memory.storeCompletion index pending
              match write state.commandId context.slotIndex with
              | (.error _, _) =>
                  (.error { code := .protocol, message := "invalid RA storage command" },
                    abandoned memory)
              | (.ok (), commandBytes) =>
                  match outcomes.commandCopied with
                  | .error error => (.error error, abandoned memory)
                  | .ok () =>
                      let memory := memory.storeCommand index commandBytes
                      match outcomes.sent with
                      | .error error => (.error error, abandoned memory)
                      | .ok () => (.ok (), memory.setState index state)

def raStorageTransfer (invalid : String)
    (serialize : StorageTransferCommand → Buffer → Except SerdeError Unit × Buffer)
    (context : RaStorageContext) (memory : DeviceMemory) (args : TransferArgs)
    (outcomes : RaOutcomes) : Except Error Unit × DeviceMemory :=
  if args.serverOffset > context.capacity ∨ args.length = 0 ∨
      args.length.toUInt64 > context.capacity - args.serverOffset ∨ args.bufferAddress = 0 ∨
      args.bufferKey = 0 then
    (.error { code := .invalidArgument, message := invalid }, memory)
  else
    raExecute context memory (args.writer serialize) args.length.toUInt64 outcomes

def raStorageRead := raStorageTransfer "invalid RA storage read arguments" serializeStorageRead

def raStorageWrite := raStorageTransfer "invalid RA storage write arguments" serializeStorageWrite

/-- Check the entries against the capacity and add up their lengths. -/
def raSumEntries (capacity : UInt64)
    (deserialize : Buffer → Except SerdeError StorageBatchEntry) (entries : Buffer) :
    (remaining index : Nat) → UInt64 → Except Error UInt64
  | 0, _, total => .ok total
  | remaining + 1, index, total =>
      match deserialize
          (slice entries (index * kStorageBatchEntryBytes) kStorageBatchEntryBytes) with
      | .error _ => .error { code := .protocol, message := "invalid RA storage batch entry" }
      | .ok entry =>
          if entry.length = 0 ∨ entry.data.address = 0 ∨ entry.data.remoteKey = 0 ∨
              entry.data.length < entry.length ∨ entry.offset > capacity ∨
              entry.length > capacity - entry.offset ∨ entry.length > kMaxUInt32 ∨
              total > kMaxUInt32 - entry.length then
            .error {
              code := .invalidArgument
              message := "RA storage batch entry exceeds its declared range" }
          else
            raSumEntries capacity deserialize entries remaining (index + 1) (total + entry.length)

def raDecodeEntries (context : RaStorageContext) (args : BatchArgs)
    (deserialize : Buffer → Except SerdeError StorageBatchEntry)
    (entries : Except Error Buffer) : Except Error UInt64 := do
  if args.entryCount = 0 ∨ args.entryCount > UInt32.ofNat kStorageMaxBatchEntries ∨
      args.entriesAddress = 0 ∨ args.entriesKey = 0 then
    throw { code := .invalidArgument, message := "invalid RA storage batch entries" }
  let encoded ← entries
  raSumEntries context.capacity deserialize encoded args.entryCount.toNat 0 0

/-- The entries are copied from the device, which may fail. -/
def raStorageBatch (serialize : StorageBatchCommand → Buffer → Except SerdeError Unit × Buffer)
    (deserialize : Buffer → Except SerdeError StorageBatchEntry)
    (context : RaStorageContext) (memory : DeviceMemory) (args : BatchArgs)
    (entries : Buffer) (outcomes : RaOutcomes) : Except Error Unit × DeviceMemory :=
  match raDecodeEntries context args deserialize (outcomes.entriesCopied.map fun _ => entries) with
  | .error error => (.error error, memory)
  | .ok total => raExecute context memory (args.writer total serialize) total outcomes

def raStorageBatchRead :=
  raStorageBatch serializeStorageBatchRead deserializeStorageBatchReadEntry

def raStorageBatchWrite :=
  raStorageBatch serializeStorageBatchWrite deserializeStorageBatchWriteEntry

def raStorageWait (context : RaStorageContext) (memory : DeviceMemory)
    (copied : Except Error Unit) : Except Error StorageCompletion := do
  let state := memory.states context.slotIndex.toNat
  raValidateContext context state
  copied
  match deserializeStorageCompletion (memory.completionBytes context.slotIndex.toNat) with
  | .error _ => throw { code := .protocol, message := "invalid storage completion record" }
  | .ok completion =>
      if completion.state ≠ .complete then
        throw { code := .transport, message := "storage completion is pending" }
      if completion.commandId ≠ state.commandId ∨
          completion.bytesTransferred ≠ state.expectedBytes.toUInt64 then
        throw {
          code := .protocol
          message := "storage completion does not match the slot state" }
      pure completion

end Ra

end NdsStorage.Client
