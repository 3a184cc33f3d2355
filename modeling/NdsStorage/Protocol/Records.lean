import Mathlib.Data.List.Basic

/-! The records of the storage protocol. Field widths are those of the wire
format: identifiers, offsets and lengths are 64-bit, keys and slot indices
32-bit. Read and write commands carry the same fields, and so do the two
batch commands and the two batch entries. -/
namespace NdsStorage

/-- The reasons both sides give for a failed operation. -/
inductive ErrorCode where
  | invalidArgument | unsupported | runtime | ra | verbs | transport | protocol
deriving DecidableEq, Repr

structure Error where
  code : ErrorCode
  message : String
deriving DecidableEq, Repr

def kStorageBootstrapBytes : Nat := 96
def kStorageNamespaceBytes : Nat := 16
def kStorageCommandBytes : Nat := 64
def kStorageBatchEntryBytes : Nat := 40
def kStorageCompletionBytes : Nat := 32
def kStorageMaxBatchEntries : Nat := 1024

inductive StorageOperation where
  | read | write | batchRead | batchWrite
deriving DecidableEq, Repr

namespace StorageOperation

def code : StorageOperation → UInt16
  | .read => 1
  | .write => 2
  | .batchRead => 3
  | .batchWrite => 4

def ofCode (value : UInt16) : Option StorageOperation :=
  if value = 1 then some .read
  else if value = 2 then some .write
  else if value = 3 then some .batchRead
  else if value = 4 then some .batchWrite
  else none

/-- The direction of the payload as seen by the client. -/
def isRead : StorageOperation → Bool
  | .read | .batchRead => true
  | .write | .batchWrite => false

@[simp] theorem ofCode_code (operation : StorageOperation) :
    ofCode operation.code = some operation := by
  cases operation <;> rfl

end StorageOperation

inductive StorageCompletionState where
  | pending | complete
deriving DecidableEq, Repr

namespace StorageCompletionState

def code : StorageCompletionState → UInt16
  | .pending => 0
  | .complete => 1

def ofCode (value : UInt16) : Option StorageCompletionState :=
  if value = 0 then some .pending
  else if value = 1 then some .complete
  else none

@[simp] theorem ofCode_code (state : StorageCompletionState) :
    ofCode state.code = some state := by
  cases state <;> rfl

end StorageCompletionState

inductive StorageStatus where
  | success | invalidCommand | rangeError | transportError | internalError
deriving DecidableEq, Repr

namespace StorageStatus

def code : StorageStatus → UInt16
  | .success => 0
  | .invalidCommand => 1
  | .rangeError => 2
  | .transportError => 3
  | .internalError => 4

def ofCode (value : UInt16) : Option StorageStatus :=
  if value = 0 then some .success
  else if value = 1 then some .invalidCommand
  else if value = 2 then some .rangeError
  else if value = 3 then some .transportError
  else if value = 4 then some .internalError
  else none

@[simp] theorem ofCode_code (status : StorageStatus) : ofCode status.code = some status := by
  cases status <;> rfl

end StorageStatus

inductive SerdeError where
  | invalidArgument | invalidRecord
deriving DecidableEq, Repr

/-- A registered range of one peer that the other may access with the key. -/
structure StorageMemory where
  address : UInt64
  length : UInt64
  remoteKey : UInt32
deriving DecidableEq, Repr

structure StorageTransferCommand where
  commandId : UInt64
  offset : UInt64
  length : UInt64
  data : StorageMemory
  slotIndex : UInt32
deriving DecidableEq, Repr

abbrev StorageReadCommand := StorageTransferCommand
abbrev StorageWriteCommand := StorageTransferCommand

structure StorageBatchCommand where
  commandId : UInt64
  entryCount : UInt64
  totalLength : UInt64
  entries : StorageMemory
  slotIndex : UInt32
deriving DecidableEq, Repr

abbrev StorageBatchReadCommand := StorageBatchCommand
abbrev StorageBatchWriteCommand := StorageBatchCommand

structure StorageBatchEntry where
  offset : UInt64
  length : UInt64
  data : StorageMemory
deriving DecidableEq, Repr

abbrev StorageBatchReadEntry := StorageBatchEntry
abbrev StorageBatchWriteEntry := StorageBatchEntry

structure StorageCompletion where
  commandId : UInt64
  state : StorageCompletionState
  status : StorageStatus
  bytesTransferred : UInt64
deriving DecidableEq, Repr

/-- One entry of the slot table that the client registers and the server fetches. -/
structure StorageSlot where
  command : StorageMemory
  completion : StorageMemory
  qpIndex : UInt32
  reserved : UInt32
deriving DecidableEq, Repr

/-- The first message of a client: where it expects completions and the
namespace answer, and where its slot table is. -/
structure StorageBootstrap where
  completion : StorageMemory
  namespaceResponse : StorageMemory
  slots : StorageMemory
  slotCount : UInt32
deriving DecidableEq, Repr

structure StorageNamespace where
  capacity : UInt64
deriving DecidableEq, Repr

end NdsStorage
