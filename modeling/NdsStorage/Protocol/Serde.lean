import NdsStorage.Bytes.BigEndian
import NdsStorage.Protocol.Records

/-! Serialization of the storage records. A serializer works on the caller's
buffer and returns its verdict together with the buffer it leaves behind; a
deserializer returns the record or the reason for refusing the bytes. The size
argument of the source is the length of the buffer. -/
namespace NdsStorage

open Bytes

def kBootstrapMagic : UInt32 := 0x4e445342
def kCommandMagic : UInt32 := 0x4e445343
def kCompletionMagic : UInt32 := 0x4e445344
def kNamespaceMagic : UInt32 := 0x4e44534e
def kVersion : UInt16 := 3
def kBootstrapVersion : UInt16 := 5
def kStorageSlotDescriptorBytes : Nat := 56
def kRemoteWrite : UInt32 := 2
def kRemoteRead : UInt32 := 4

/-- Zero the first `size` bytes. -/
def clear (bytes : Buffer) (size : Nat) : Buffer :=
  put bytes 0 (List.replicate size 0)

def writeU16 (bytes : Buffer) (position : Nat) (value : UInt16) : Buffer :=
  put bytes position (encode16 value)

def writeU32 (bytes : Buffer) (position : Nat) (value : UInt32) : Buffer :=
  put bytes position (encode32 value)

def writeU64 (bytes : Buffer) (position : Nat) (value : UInt64) : Buffer :=
  put bytes position (encode64 value)

def readU16 (bytes : Buffer) (position : Nat) : UInt16 := decode16 (slice bytes position 2)

def readU32 (bytes : Buffer) (position : Nat) : UInt32 := decode32 (slice bytes position 4)

def readU64 (bytes : Buffer) (position : Nat) : UInt64 := decode64 (slice bytes position 8)

/-- A usable remote range of at least the required length. -/
def memoryValid (memory : StorageMemory) (requiredLength : UInt64) : Bool :=
  memory.address ≠ 0 && memory.length ≥ requiredLength && memory.remoteKey ≠ 0

/-- Lay out the fields shared by all commands. The two numbers are the offset
and length of a single transfer, or the entry count and total of a batch. -/
def serializeCommand (operation : StorageOperation) (commandId offset length : UInt64)
    (data : StorageMemory) (requiredDataLength : UInt64) (access slotIndex : UInt32)
    (bytes : Buffer) : Except SerdeError Unit × Buffer :=
  if bytes.length < kStorageCommandBytes then
    (.error .invalidArgument, bytes)
  else if commandId = 0 ∨ length = 0 ∨ ¬ memoryValid data requiredDataLength then
    (.error .invalidRecord, bytes)
  else
    let bytes := clear bytes kStorageCommandBytes
    let bytes := writeU32 bytes 0 kCommandMagic
    let bytes := writeU16 bytes 4 kVersion
    let bytes := writeU16 bytes 6 operation.code
    let bytes := writeU64 bytes 8 commandId
    let bytes := writeU64 bytes 16 offset
    let bytes := writeU64 bytes 24 length
    let bytes := writeU64 bytes 32 data.address
    let bytes := writeU64 bytes 40 data.length
    let bytes := writeU32 bytes 48 data.remoteKey
    let bytes := writeU32 bytes 52 access
    let bytes := writeU32 bytes 56 slotIndex
    (.ok (), bytes)

def deserializeCommand (expectedOperation : StorageOperation) (requiredAccess : UInt32)
    (bytes : Buffer) : Except SerdeError StorageTransferCommand :=
  if bytes.length < kStorageCommandBytes then
    .error .invalidArgument
  else if readU32 bytes 0 ≠ kCommandMagic ∨ readU16 bytes 4 ≠ kVersion ∨
      readU16 bytes 6 ≠ expectedOperation.code ∨
      readU32 bytes 52 &&& requiredAccess ≠ requiredAccess then
    .error .invalidRecord
  else
    let command : StorageTransferCommand := {
      commandId := readU64 bytes 8
      offset := readU64 bytes 16
      length := readU64 bytes 24
      data := {
        address := readU64 bytes 32
        length := readU64 bytes 40
        remoteKey := readU32 bytes 48 }
      slotIndex := readU32 bytes 56 }
    if command.commandId = 0 ∨ command.length = 0 ∨ ¬ memoryValid command.data 0 ∨
        readU32 bytes 60 ≠ 0 then
      .error .invalidRecord
    else
      .ok command

def serializeBatchEntry (entry : StorageBatchEntry) (access : UInt32) (bytes : Buffer) :
    Except SerdeError Unit × Buffer :=
  if bytes.length < kStorageBatchEntryBytes then
    (.error .invalidArgument, bytes)
  else if entry.length = 0 ∨ ¬ memoryValid entry.data entry.length then
    (.error .invalidRecord, bytes)
  else
    let bytes := clear bytes kStorageBatchEntryBytes
    let bytes := writeU64 bytes 0 entry.offset
    let bytes := writeU64 bytes 8 entry.length
    let bytes := writeU64 bytes 16 entry.data.address
    let bytes := writeU64 bytes 24 entry.data.length
    let bytes := writeU32 bytes 32 entry.data.remoteKey
    let bytes := writeU32 bytes 36 access
    (.ok (), bytes)

def deserializeBatchEntry (requiredAccess : UInt32) (bytes : Buffer) :
    Except SerdeError StorageBatchEntry :=
  if bytes.length < kStorageBatchEntryBytes then
    .error .invalidArgument
  else if readU32 bytes 36 &&& requiredAccess ≠ requiredAccess then
    .error .invalidRecord
  else
    let entry : StorageBatchEntry := {
      offset := readU64 bytes 0
      length := readU64 bytes 8
      data := {
        address := readU64 bytes 16
        length := readU64 bytes 24
        remoteKey := readU32 bytes 32 } }
    if entry.length = 0 ∨ ¬ memoryValid entry.data entry.length then
      .error .invalidRecord
    else
      .ok entry

/-- Single transfers need client memory for the whole transfer. -/
def serializeTransfer (operation : StorageOperation) (access : UInt32)
    (command : StorageTransferCommand) (bytes : Buffer) : Except SerdeError Unit × Buffer :=
  serializeCommand operation command.commandId command.offset command.length command.data
    command.length access command.slotIndex bytes

def deserializeTransfer (operation : StorageOperation) (access : UInt32) (bytes : Buffer) :
    Except SerdeError StorageTransferCommand := do
  let command ← deserializeCommand operation access bytes
  if command.data.length ≥ command.length then pure command else throw .invalidRecord

def serializeStorageRead : StorageReadCommand → Buffer → Except SerdeError Unit × Buffer :=
  serializeTransfer .read kRemoteWrite

def deserializeStorageRead : Buffer → Except SerdeError StorageReadCommand :=
  deserializeTransfer .read kRemoteWrite

def serializeStorageWrite : StorageWriteCommand → Buffer → Except SerdeError Unit × Buffer :=
  serializeTransfer .write kRemoteRead

def deserializeStorageWrite : Buffer → Except SerdeError StorageWriteCommand :=
  deserializeTransfer .write kRemoteRead

/-- Bytes of a descriptor array, in the 64-bit arithmetic of the source. -/
def entryArrayBytes (entryCount : UInt64) : UInt64 :=
  entryCount * UInt64.ofNat kStorageBatchEntryBytes

def serializeBatch (operation : StorageOperation) (command : StorageBatchCommand)
    (bytes : Buffer) : Except SerdeError Unit × Buffer :=
  if command.entryCount = 0 ∨ command.entryCount > UInt64.ofNat kStorageMaxBatchEntries ∨
      command.entries.length < entryArrayBytes command.entryCount then
    (.error .invalidRecord, bytes)
  else
    serializeCommand operation command.commandId command.entryCount command.totalLength
      command.entries (entryArrayBytes command.entryCount) kRemoteRead command.slotIndex bytes

/-- The entry count is bounded but, unlike on the sending side, may be zero. -/
def deserializeBatch (operation : StorageOperation) (bytes : Buffer) :
    Except SerdeError StorageBatchCommand := do
  let command ← deserializeCommand operation kRemoteRead bytes
  let batch : StorageBatchCommand := {
    commandId := command.commandId
    entryCount := command.offset
    totalLength := command.length
    entries := command.data
    slotIndex := command.slotIndex }
  if batch.entryCount ≤ UInt64.ofNat kStorageMaxBatchEntries ∧
      batch.entries.length ≥ entryArrayBytes batch.entryCount then
    pure batch
  else
    throw .invalidRecord

def serializeStorageBatchRead : StorageBatchReadCommand → Buffer → Except SerdeError Unit × Buffer :=
  serializeBatch .batchRead

def deserializeStorageBatchRead : Buffer → Except SerdeError StorageBatchReadCommand :=
  deserializeBatch .batchRead

def serializeStorageBatchWrite :
    StorageBatchWriteCommand → Buffer → Except SerdeError Unit × Buffer :=
  serializeBatch .batchWrite

def deserializeStorageBatchWrite : Buffer → Except SerdeError StorageBatchWriteCommand :=
  deserializeBatch .batchWrite

def serializeStorageBatchReadEntry (entry : StorageBatchReadEntry) :
    Buffer → Except SerdeError Unit × Buffer :=
  serializeBatchEntry entry kRemoteWrite

def deserializeStorageBatchReadEntry : Buffer → Except SerdeError StorageBatchReadEntry :=
  deserializeBatchEntry kRemoteWrite

def serializeStorageBatchWriteEntry (entry : StorageBatchWriteEntry) :
    Buffer → Except SerdeError Unit × Buffer :=
  serializeBatchEntry entry kRemoteRead

def deserializeStorageBatchWriteEntry : Buffer → Except SerdeError StorageBatchWriteEntry :=
  deserializeBatchEntry kRemoteRead

def deserializeStorageOperation (bytes : Buffer) : Except SerdeError StorageOperation :=
  if bytes.length < kStorageCommandBytes then
    .error .invalidArgument
  else if readU32 bytes 0 ≠ kCommandMagic ∨ readU16 bytes 4 ≠ kVersion then
    .error .invalidRecord
  else
    match StorageOperation.ofCode (readU16 bytes 6) with
    | some operation => .ok operation
    | none => .error .invalidRecord

/-- A pending record must not yet carry an outcome. -/
def completionValid (completion : StorageCompletion) : Bool :=
  completion.commandId ≠ 0 &&
    !(completion.state = .pending &&
      (completion.status ≠ .success || completion.bytesTransferred ≠ 0))

def serializeStorageCompletion (completion : StorageCompletion) (bytes : Buffer) :
    Except SerdeError Unit × Buffer :=
  if bytes.length < kStorageCompletionBytes then
    (.error .invalidArgument, bytes)
  else if ¬ completionValid completion then
    (.error .invalidRecord, bytes)
  else
    let bytes := clear bytes kStorageCompletionBytes
    let bytes := writeU32 bytes 0 kCompletionMagic
    let bytes := writeU16 bytes 4 kVersion
    let bytes := writeU16 bytes 6 completion.state.code
    let bytes := writeU16 bytes 8 completion.status.code
    let bytes := writeU64 bytes 12 completion.commandId
    let bytes := writeU64 bytes 20 completion.bytesTransferred
    (.ok (), bytes)

def deserializeStorageCompletion (bytes : Buffer) : Except SerdeError StorageCompletion :=
  if bytes.length < kStorageCompletionBytes then
    .error .invalidArgument
  else if readU32 bytes 0 ≠ kCompletionMagic ∨ readU16 bytes 4 ≠ kVersion then
    .error .invalidRecord
  else
    match StorageCompletionState.ofCode (readU16 bytes 6),
        StorageStatus.ofCode (readU16 bytes 8) with
    | some state, some status =>
        let completion : StorageCompletion := {
          commandId := readU64 bytes 12
          state := state
          status := status
          bytesTransferred := readU64 bytes 20 }
        if completionValid completion then .ok completion else .error .invalidRecord
    | _, _ => .error .invalidRecord

/-- A completion whose state and status hold any 16-bit value, as the
enumeration types of the source can. -/
structure CompletionWords where
  commandId : UInt64
  state : UInt16
  status : UInt16
  bytesTransferred : UInt64
deriving DecidableEq, Repr

def completionWordsValid (completion : CompletionWords) : Bool :=
  completion.commandId ≠ 0 && completion.status ≤ StorageStatus.internalError.code &&
    (completion.state = StorageCompletionState.pending.code ||
      completion.state = StorageCompletionState.complete.code) &&
    !(completion.state = StorageCompletionState.pending.code &&
      (completion.status ≠ StorageStatus.success.code || completion.bytesTransferred ≠ 0))

def serializeCompletionWords (completion : CompletionWords) (bytes : Buffer) :
    Except SerdeError Unit × Buffer :=
  if bytes.length < kStorageCompletionBytes then
    (.error .invalidArgument, bytes)
  else if ¬ completionWordsValid completion then
    (.error .invalidRecord, bytes)
  else
    let bytes := clear bytes kStorageCompletionBytes
    let bytes := writeU32 bytes 0 kCompletionMagic
    let bytes := writeU16 bytes 4 kVersion
    let bytes := writeU16 bytes 6 completion.state
    let bytes := writeU16 bytes 8 completion.status
    let bytes := writeU64 bytes 12 completion.commandId
    let bytes := writeU64 bytes 20 completion.bytesTransferred
    (.ok (), bytes)

def deserializeCompletionWords (bytes : Buffer) : Except SerdeError CompletionWords :=
  if bytes.length < kStorageCompletionBytes then
    .error .invalidArgument
  else if readU32 bytes 0 ≠ kCompletionMagic ∨ readU16 bytes 4 ≠ kVersion then
    .error .invalidRecord
  else
    let completion : CompletionWords := {
      commandId := readU64 bytes 12
      state := readU16 bytes 6
      status := readU16 bytes 8
      bytesTransferred := readU64 bytes 20 }
    if completionWordsValid completion then .ok completion else .error .invalidRecord

/-- A slot table of so many entries, in the 64-bit arithmetic of the source. -/
def slotTableBytes (slotCount : UInt32) : UInt64 :=
  slotCount.toUInt64 * UInt64.ofNat kStorageSlotDescriptorBytes

def bootstrapValid (bootstrap : StorageBootstrap) : Bool :=
  memoryValid bootstrap.completion (UInt64.ofNat kStorageCompletionBytes) &&
    memoryValid bootstrap.namespaceResponse (UInt64.ofNat kStorageNamespaceBytes) &&
    bootstrap.slotCount ≠ 0 &&
    bootstrap.slotCount ≤ 0xffffffff / UInt32.ofNat kStorageSlotDescriptorBytes &&
    memoryValid bootstrap.slots (slotTableBytes bootstrap.slotCount)

def serializeStorageBootstrap (bootstrap : StorageBootstrap) (bytes : Buffer) :
    Except SerdeError Unit × Buffer :=
  if bytes.length < kStorageBootstrapBytes then
    (.error .invalidArgument, bytes)
  else if ¬ bootstrapValid bootstrap then
    (.error .invalidRecord, bytes)
  else
    let bytes := clear bytes kStorageBootstrapBytes
    let bytes := writeU32 bytes 0 kBootstrapMagic
    let bytes := writeU16 bytes 4 kBootstrapVersion
    let bytes := writeU64 bytes 8 bootstrap.completion.address
    let bytes := writeU64 bytes 16 bootstrap.completion.length
    let bytes := writeU32 bytes 24 bootstrap.completion.remoteKey
    let bytes := writeU32 bytes 28 kRemoteWrite
    let bytes := writeU64 bytes 32 bootstrap.namespaceResponse.address
    let bytes := writeU64 bytes 40 bootstrap.namespaceResponse.length
    let bytes := writeU32 bytes 48 bootstrap.namespaceResponse.remoteKey
    let bytes := writeU32 bytes 52 kRemoteWrite
    let bytes := writeU64 bytes 56 bootstrap.slots.address
    let bytes := writeU64 bytes 64 bootstrap.slots.length
    let bytes := writeU32 bytes 72 bootstrap.slots.remoteKey
    let bytes := writeU32 bytes 76 kRemoteRead
    let bytes := writeU32 bytes 80 bootstrap.slotCount
    (.ok (), bytes)

def deserializeStorageBootstrap (bytes : Buffer) : Except SerdeError StorageBootstrap :=
  if bytes.length < kStorageBootstrapBytes then
    .error .invalidArgument
  else if readU32 bytes 0 ≠ kBootstrapMagic ∨ readU16 bytes 4 ≠ kBootstrapVersion ∨
      readU32 bytes 28 &&& kRemoteWrite = 0 ∨ readU32 bytes 76 &&& kRemoteRead = 0 then
    .error .invalidRecord
  else
    let bootstrap : StorageBootstrap := {
      completion := {
        address := readU64 bytes 8
        length := readU64 bytes 16
        remoteKey := readU32 bytes 24 }
      namespaceResponse := {
        address := readU64 bytes 32
        length := readU64 bytes 40
        remoteKey := readU32 bytes 48 }
      slots := {
        address := readU64 bytes 56
        length := readU64 bytes 64
        remoteKey := readU32 bytes 72 }
      slotCount := readU32 bytes 80 }
    if readU32 bytes 52 &&& kRemoteWrite ≠ 0 ∧ bootstrapValid bootstrap then
      .ok bootstrap
    else
      .error .invalidRecord

def serializeStorageNamespace (storageNamespace : StorageNamespace) (bytes : Buffer) :
    Except SerdeError Unit × Buffer :=
  if bytes.length < kStorageNamespaceBytes then
    (.error .invalidArgument, bytes)
  else if storageNamespace.capacity = 0 then
    (.error .invalidRecord, bytes)
  else
    let bytes := clear bytes kStorageNamespaceBytes
    let bytes := writeU32 bytes 0 kNamespaceMagic
    let bytes := writeU16 bytes 4 kVersion
    let bytes := writeU64 bytes 8 storageNamespace.capacity
    (.ok (), bytes)

def deserializeStorageNamespace (bytes : Buffer) : Except SerdeError StorageNamespace :=
  if bytes.length < kStorageNamespaceBytes then
    .error .invalidArgument
  else if readU32 bytes 0 ≠ kNamespaceMagic ∨ readU16 bytes 4 ≠ kVersion then
    .error .invalidRecord
  else if readU64 bytes 8 ≠ 0 then
    .ok { capacity := readU64 bytes 8 }
  else
    .error .invalidRecord

end NdsStorage
