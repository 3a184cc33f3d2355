import NdsStorage.Interaction.Program
import NdsStorage.Protocol.Serde

/-! The server's worker loop. A worker owns one queue pair and the slots of the
table that name it. It only touches the world through transport calls and
through the registered buffers of its slots, so `runWorker` is a program over
these calls. Work request identifiers count the posted requests of the queue
pair. -/
namespace NdsStorage.Server

open Bytes Interaction

inductive TransferOpcode where
  | rdmaRead | rdmaWrite
deriving DecidableEq, Repr

/-- One work request against the namespace region. -/
structure TransferRequest where
  localOffset : UInt64
  remoteAddress : UInt64
  remoteKey : UInt32
  length : UInt32
deriving DecidableEq, Repr

/-- Calls of the worker on the transport of its queue pair and on the buffers
of its slots. Slots are named by their position in the worker. A payload batch
also names the slot it works for; the transport does not look at it. -/
inductive Call where
  | postReceive (slot : Nat)
  | waitReceive
  | loadCommand (slot : Nat)
  | postRead (slot : Nat) (address : UInt64) (key length : UInt32)
  | waitRead (wrId : Nat)
  | loadEntries (slot : Nat)
  | postTransferBatch (slot : Nat) (opcode : TransferOpcode) (requests : List TransferRequest)
  | waitTransferBatch (opcode : TransferOpcode) (wrId : Nat)
  | loadCompletion (slot : Nat)
  | storeCompletion (slot : Nat) (bytes : Buffer)
  | postWrite (slot : Nat) (address : UInt64) (key length : UInt32)
  | waitWrite (wrId : Nat)
deriving DecidableEq

abbrev Call.Answer : Call → Type
  | .postReceive _ | .waitReceive | .waitRead _ | .waitTransferBatch _ _ | .waitWrite _ =>
      Except Error Unit
  | .postRead .. | .postTransferBatch .. | .postWrite .. => Except Error Nat
  | .loadCommand _ | .loadEntries _ | .loadCompletion _ => Buffer
  | .storeCompletion _ _ => Unit

abbrev WorkerProgram := Fallible Call Call.Answer Error

def postReceive (slot : Nat) : WorkerProgram Unit := ExceptT.mk (.ask (Call.postReceive slot))

def waitReceive : WorkerProgram Unit := ExceptT.mk (.ask Call.waitReceive)

def loadCommand (slot : Nat) : WorkerProgram Buffer := ExceptT.lift (.ask (Call.loadCommand slot))

def postRead (slot : Nat) (address : UInt64) (key length : UInt32) : WorkerProgram Nat :=
  ExceptT.mk (.ask (Call.postRead slot address key length))

def waitRead (wrId : Nat) : WorkerProgram Unit := ExceptT.mk (.ask (Call.waitRead wrId))

def loadEntries (slot : Nat) : WorkerProgram Buffer := ExceptT.lift (.ask (Call.loadEntries slot))

def postReadBatch (slot : Nat) (requests : List TransferRequest) : WorkerProgram Nat :=
  ExceptT.mk (.ask (Call.postTransferBatch slot .rdmaRead requests))

def postWriteBatch (slot : Nat) (requests : List TransferRequest) : WorkerProgram Nat :=
  ExceptT.mk (.ask (Call.postTransferBatch slot .rdmaWrite requests))

def waitReadBatch (wrId : Nat) : WorkerProgram Unit :=
  ExceptT.mk (.ask (Call.waitTransferBatch .rdmaRead wrId))

def waitWriteBatch (wrId : Nat) : WorkerProgram Unit :=
  ExceptT.mk (.ask (Call.waitTransferBatch .rdmaWrite wrId))

def loadCompletion (slot : Nat) : WorkerProgram Buffer :=
  ExceptT.lift (.ask (Call.loadCompletion slot))

def storeCompletion (slot : Nat) (bytes : Buffer) : WorkerProgram Unit :=
  ExceptT.lift (.ask (Call.storeCompletion slot bytes))

def postWrite (slot : Nat) (address : UInt64) (key length : UInt32) : WorkerProgram Nat :=
  ExceptT.mk (.ask (Call.postWrite slot address key length))

def waitWrite (wrId : Nat) : WorkerProgram Unit := ExceptT.mk (.ask (Call.waitWrite wrId))

/-- What the worker remembers of a command between the phases of a window. -/
structure PendingCommand where
  slot : Nat
  completion : StorageCompletion := {
    commandId := 0
    state := .complete
    status := .success
    bytesTransferred := 0 }
  storageRead : Bool := false
  batch : Bool := false
  entryCount : UInt32 := 0
  totalLength : UInt64 := 0
  descriptorPending : Bool := false
  descriptorWrId : Nat := 0
  requests : List TransferRequest := []
  payloadWrId : Nat := 0
  payloadPending : Bool := false
  completionWrId : Nat := 0
deriving DecidableEq, Repr

/-- The slots of a worker by their index in the slot table. -/
structure Worker where
  qpIndex : Nat
  commandCount : Nat
  slots : List Nat
deriving DecidableEq, Repr

/-- What all workers of a session share: the namespace size and the slot table. -/
structure Session where
  storageSize : UInt64
  slots : List StorageSlot
deriving DecidableEq, Repr

def protocolError (message : String) : Error := { code := .protocol, message := message }

/-- Turn a refused record into the error that ends the worker. -/
def decodeOr {Record : Type} (message : String) (result : Except SerdeError Record) :
    Except Error Record :=
  result.mapError fun _ => protocolError message

def kMaxU32 : UInt64 := 0xffffffff
def kMaxU64 : UInt64 := 0xffffffffffffffff

/-- The range check of a transfer against the namespace, in 64-bit arithmetic. -/
def outOfRange (size offset length : UInt64) : Bool :=
  offset > size || length > size - offset || length > kMaxU32

def transferRequest (offset length : UInt64) (data : StorageMemory) : TransferRequest where
  localOffset := offset
  remoteAddress := data.address
  remoteKey := data.remoteKey
  length := length.toUInt32

def acceptTransfer (size : UInt64) (storageRead : Bool) (command : StorageTransferCommand)
    (state : PendingCommand) : PendingCommand :=
  let state := { state with
    completion.commandId := command.commandId
    storageRead := storageRead }
  if outOfRange size command.offset command.length then
    { state with completion.status := .rangeError }
  else
    { state with
      requests := [transferRequest command.offset command.length command.data]
      completion.bytesTransferred := command.length }

def acceptBatch (storageRead : Bool) (command : StorageBatchCommand) (state : PendingCommand) :
    PendingCommand :=
  { state with
    completion.commandId := command.commandId
    storageRead := storageRead
    batch := true
    entryCount := command.entryCount.toUInt32
    totalLength := command.totalLength }

/-- A single transfer must carry the table index of the slot it arrived in. -/
def parseTransfer (size : UInt64) (storageRead : Bool) (slot slotIndex : Nat)
    (invalid wrongSlot : String) (decoded : Except SerdeError StorageTransferCommand) :
    Except Error (PendingCommand × Option StorageMemory) := do
  let command ← decodeOr invalid decoded
  if command.slotIndex.toNat ≠ slotIndex then
    throw (protocolError wrongSlot)
  pure (acceptTransfer size storageRead command { slot := slot }, none)

def parseBatch (storageRead : Bool) (slot slotIndex : Nat) (invalid wrongSlot : String)
    (decoded : Except SerdeError StorageBatchCommand) :
    Except Error (PendingCommand × Option StorageMemory) := do
  let command ← decodeOr invalid decoded
  if command.slotIndex.toNat ≠ slotIndex then
    throw (protocolError wrongSlot)
  pure (acceptBatch storageRead command { slot := slot }, some command.entries)

/-- Decode the command found in a slot's buffer. A batch also yields the
remote descriptor array that has to be fetched. -/
def parseCommand (size : UInt64) (slot slotIndex : Nat) (bytes : Buffer) :
    Except Error (PendingCommand × Option StorageMemory) := do
  let operation ← decodeOr "invalid storage operation" (deserializeStorageOperation bytes)
  match operation with
  | .read =>
      parseTransfer size true slot slotIndex "invalid storage read command"
        "storage read arrived in the wrong slot" (deserializeStorageRead bytes)
  | .write =>
      parseTransfer size false slot slotIndex "invalid storage write command"
        "storage write arrived in the wrong slot" (deserializeStorageWrite bytes)
  | .batchRead =>
      parseBatch true slot slotIndex "invalid storage batch-read command"
        "storage batch-read arrived in the wrong slot" (deserializeStorageBatchRead bytes)
  | .batchWrite =>
      parseBatch false slot slotIndex "invalid storage batch-write command"
        "storage batch-write arrived in the wrong slot" (deserializeStorageBatchWrite bytes)

/-- A storage read is served by writing to the client, a storage write by reading from it. -/
def payloadOpcode (storageRead : Bool) : TransferOpcode :=
  if storageRead then .rdmaWrite else .rdmaRead

def postPayloadBatch (state : PendingCommand) : WorkerProgram Nat :=
  if state.storageRead then postWriteBatch state.slot state.requests
  else postReadBatch state.slot state.requests

def postPayload (state : PendingCommand) : WorkerProgram PendingCommand := do
  let wrId ← postPayloadBatch state
  pure { state with payloadWrId := wrId, payloadPending := true }

/-- Bytes of the descriptor array of a batch, in the 32-bit arithmetic of the fetch. -/
def descriptorBytes (entryCount : UInt32) : UInt32 :=
  entryCount * UInt32.ofNat kStorageBatchEntryBytes

/-- First phase: receive into a slot, decode, and post whatever can be posted at once. -/
def receiveCommand (session : Session) (worker : Worker) (slot : Nat) :
    WorkerProgram PendingCommand := do
  waitReceive
  let bytes ← loadCommand slot
  let (state, entries) ←
    Fallible.ofExcept (parseCommand session.storageSize slot (worker.slots.getD slot 0) bytes)
  match entries with
  | some entries =>
      let wrId ← postRead slot entries.address entries.remoteKey (descriptorBytes state.entryCount)
      pure { state with descriptorWrId := wrId, descriptorPending := true }
  | none =>
      if state.completion.status = .success then postPayload state else pure state

def deserializeEntry (storageRead : Bool) (bytes : Buffer) : Except SerdeError StorageBatchEntry :=
  if storageRead then deserializeStorageBatchReadEntry bytes
  else deserializeStorageBatchWriteEntry bytes

/-- Walk over the fetched descriptors. The walk stops at the first entry that
does not decode or does not fit; the requests gathered so far are returned. -/
def decodeEntries (size : UInt64) (storageRead : Bool) (entryBytes : Buffer) :
    (remaining index : Nat) → UInt64 → List TransferRequest →
      StorageStatus × UInt64 × List TransferRequest
  | 0, _, total, requests => (.success, total, requests)
  | remaining + 1, index, total, requests =>
      match deserializeEntry storageRead
          (slice entryBytes (index * kStorageBatchEntryBytes) kStorageBatchEntryBytes) with
      | .error _ => (.invalidCommand, total, requests)
      | .ok entry =>
          if outOfRange size entry.offset entry.length || entry.length > kMaxU64 - total then
            (.rangeError, total, requests)
          else
            decodeEntries size storageRead entryBytes remaining (index + 1) (total + entry.length)
              (requests ++ [transferRequest entry.offset entry.length entry.data])

/-- The verdict on a batch. The lengths also have to add up to the announced total. -/
def batchVerdict (size : UInt64) (state : PendingCommand) (entryBytes : Buffer) :
    StorageStatus × UInt64 × List TransferRequest :=
  let (status, total, requests) :=
    decodeEntries size state.storageRead entryBytes state.entryCount.toNat 0 0 state.requests
  if status = .success ∧ total ≠ state.totalLength then (.invalidCommand, total, requests)
  else (status, total, requests)

/-- Settle a batch from its descriptors. Only a successful batch reports bytes. -/
def decodeBatch (size : UInt64) (state : PendingCommand) (entryBytes : Buffer) :
    PendingCommand :=
  let (status, total, requests) := batchVerdict size state entryBytes
  { state with
    requests := requests
    completion.status := status
    completion.bytesTransferred :=
      if status = .success then total else state.completion.bytesTransferred }

/-- Second phase: wait for the descriptors of a batch and post its payload. -/
def resolveBatch (session : Session) (state : PendingCommand) : WorkerProgram PendingCommand :=
  if state.descriptorPending then do
    waitRead state.descriptorWrId
    let entryBytes ← loadEntries state.slot
    let state := decodeBatch session.storageSize state entryBytes
    if state.completion.status = .success then postPayload state else pure state
  else
    pure state

/-- Third phase: wait for the payload. -/
def waitPayload (state : PendingCommand) : WorkerProgram Unit :=
  if state.payloadPending then
    if state.storageRead then waitWriteBatch state.payloadWrId
    else waitReadBatch state.payloadWrId
  else
    pure ()

/-- The remote completion record of a slot of the table. -/
def Session.completionMemory (session : Session) (slotIndex : Nat) : StorageMemory :=
  (session.slots[slotIndex]?.map StorageSlot.completion).getD
    { address := 0, length := 0, remoteKey := 0 }

/-- Fourth phase: build the completion record and write it to the client. -/
def postCompletion (session : Session) (worker : Worker) (state : PendingCommand) :
    WorkerProgram PendingCommand := do
  let buffer ← loadCompletion state.slot
  match serializeStorageCompletion state.completion buffer with
  | (.error _, _) => throw (protocolError "invalid storage completion")
  | (.ok (), bytes) =>
      storeCompletion state.slot bytes
      let remote := session.completionMemory (worker.slots.getD state.slot 0)
      let wrId ← postWrite state.slot remote.address remote.remoteKey
        (UInt32.ofNat kStorageCompletionBytes)
      pure { state with completionWrId := wrId }

def activeSlots (worker : Worker) : Nat := min worker.commandCount worker.slots.length

/-- All phases of one window, which leaves its commands completed. -/
def runWindow (session : Session) (worker : Worker) (window : Nat) :
    WorkerProgram (List PendingCommand) := do
  let pending ← Fallible.collect (receiveCommand session worker) (List.range window)
  let pending ← Fallible.collect (resolveBatch session) pending
  let _ ← Fallible.collect waitPayload pending
  let pending ← Fallible.collect (postCompletion session worker) pending
  let _ ← Fallible.collect (fun state => waitWrite state.completionWrId) pending
  pure pending

/-- Post the receives of the slots of a window again, if more commands are expected. -/
def repostReceives (worker : Worker) (commandIndex : Nat) (pending : List PendingCommand) :
    WorkerProgram Unit :=
  if commandIndex < worker.commandCount then do
    let _ ← Fallible.collect (fun state => postReceive state.slot) pending
    pure ()
  else
    pure ()

/-- Windows until the command count is reached. Each window serves at least one
command, so as many rounds as there are commands always suffice. -/
def runWindows (session : Session) (worker : Worker) : (rounds commandIndex : Nat) →
    WorkerProgram Unit
  | 0, _ => pure ()
  | rounds + 1, commandIndex =>
      if commandIndex < worker.commandCount then do
        let window := min (activeSlots worker) (worker.commandCount - commandIndex)
        let pending ← runWindow session worker window
        repostReceives worker (commandIndex + window) pending
        runWindows session worker rounds (commandIndex + window)
      else
        pure ()

def runWorker (session : Session) (worker : Worker) : WorkerProgram Unit :=
  if worker.slots.isEmpty then
    throw { code := .invalidArgument, message := "storage worker has no command slots" }
  else do
    let _ ← Fallible.collect postReceive (List.range (activeSlots worker))
    runWindows session worker worker.commandCount 0

end NdsStorage.Server
