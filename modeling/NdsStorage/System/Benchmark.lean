import NdsStorage.Client.SlotLedger
import NdsStorage.Protocol.Wire
import NdsStorage.Server.Worker

/-! The storage benchmark. It lays out one working set over the queues, with the
batch entries of every slot prepared in device memory, and then runs windows: a
window takes all slots, submits the batch of each, and waits for and releases
them in order. -/
namespace NdsStorage.System.Benchmark

open Bytes Client

def kTransferBytes : Nat := 256 * 1024
def kBatchEntries : Nat := 8

/-- The regions of one queue and what was copied into the second one. -/
structure QueueResources where
  region : StorageMemory
  entriesRegion : StorageMemory
  entries : Buffer
deriving DecidableEq, Repr

structure SlotWork where
  slotId : UInt32
  entriesAddress : UInt64
  entriesKey : UInt32
  entryCount : UInt32
deriving DecidableEq, Repr

section Prepare

variable (read : Bool) (slotsPerQp queueIndex : Nat)

def transfersPerQp : Nat := slotsPerQp * kBatchEntries

/-- One block of the namespace and the memory of the queue that it goes with. -/
def transferEntry (region : StorageMemory) (transferIndex : Nat) : StorageBatchEntry where
  offset := (UInt64.ofNat queueIndex * UInt64.ofNat (transfersPerQp slotsPerQp) +
    UInt64.ofNat transferIndex) * UInt64.ofNat kTransferBytes
  length := UInt64.ofNat kTransferBytes
  data := {
    address := region.address + UInt64.ofNat (transferIndex * kTransferBytes)
    length := UInt64.ofNat kTransferBytes
    remoteKey := region.remoteKey }

def serializeEntry (entry : StorageBatchEntry) (bytes : Buffer) :
    Except SerdeError Unit × Buffer :=
  if read then serializeStorageBatchReadEntry entry bytes
  else serializeStorageBatchWriteEntry entry bytes

/-- An entry is serialized in place. -/
def encodeEntry (region : StorageMemory) (encoded : Buffer) (transferIndex : Nat) :
    Except Error Buffer :=
  let position := transferIndex * kStorageBatchEntryBytes
  match serializeEntry read (transferEntry slotsPerQp queueIndex region transferIndex)
      (slice encoded position kStorageBatchEntryBytes) with
  | (.ok (), bytes) => .ok (put encoded position bytes)
  | (.error _, _) =>
      .error { code := .protocol, message := "failed to serialize storage batch entry" }

/-- The transfers in the order of the two loops over slots and entries. -/
def transferOrder : List Nat :=
  (List.range slotsPerQp).flatMap fun slotIndex =>
    (List.range kBatchEntries).map fun entryIndex => slotIndex * kBatchEntries + entryIndex

def encodeEntries (region : StorageMemory) : Except Error Buffer :=
  (transferOrder slotsPerQp).foldlM (encodeEntry read slotsPerQp queueIndex region)
    (List.replicate (transfersPerQp slotsPerQp * kStorageBatchEntryBytes) 0)

/-- What the runtime answers while the resources of a queue are set up: the two
regions, and whether the entries could be copied. -/
structure QueueAnswers where
  regions : Except Error (StorageMemory × StorageMemory)
  copied : Except Error Unit

def prepareQueue (answers : QueueAnswers) : Except Error QueueResources := do
  let regions ← answers.regions
  let entries ← encodeEntries read slotsPerQp queueIndex regions.1
  answers.copied
  pure { region := regions.1, entriesRegion := regions.2, entries := entries }

end Prepare

def kMaxSize : Nat := 2 ^ 64 - 1

def requiredNamespace (qpCount slotsPerQp : Nat) : UInt64 :=
  UInt64.ofNat qpCount * UInt64.ofNat (transfersPerQp slotsPerQp) * UInt64.ofNat kTransferBytes

/-- The checks on the layout, then the queues in order. -/
def prepare (read : Bool) (qpCount slotCount : Nat) (capacity : UInt64)
    (answers : Nat → QueueAnswers) : Except Error (List QueueResources) :=
  if qpCount = 0 ∨ slotCount % qpCount ≠ 0 then
    .error {
      code := .transport
      message := "storage benchmark received an invalid QP slot layout" }
  else
    let slotsPerQp := slotCount / qpCount
    if slotsPerQp = 0 ∨ slotsPerQp > kMaxSize / kBatchEntries ∨
        slotsPerQp * kBatchEntries > kMaxSize / kTransferBytes ∨
        slotsPerQp * kBatchEntries > kMaxSize / kStorageBatchEntryBytes then
      .error { code := .invalidArgument, message := "storage benchmark buffer size overflows" }
    else if requiredNamespace qpCount slotsPerQp > capacity then
      .error {
        code := .protocol
        message := "storage benchmark namespace is smaller than its multi-QP working set" }
    else
      (List.range qpCount).mapM fun queueIndex =>
        prepareQueue read slotsPerQp queueIndex (answers queueIndex)

/-! A window. -/

/-- What the runtime and the launcher answer, by the position in the window. -/
structure WindowAnswers where
  cleared : Nat → Except Error Unit
  copied : Nat → Except Error Unit
  submitted : Nat → Except Error Unit
  waited : Nat → Except Error Unit
  released : Nat → Except Error Unit

def unexpectedMapping : Error where
  code := .protocol
  message := "storage benchmark received an unexpected slot mapping"

section Window

variable (queues : List QueueResources) (slotsPerQp : Nat) (answers : WindowAnswers)

def slotWork (queue : QueueResources) (slotId : UInt32) (bufferSlot : Nat) : SlotWork where
  slotId := slotId
  entriesAddress := queue.entriesRegion.address +
    UInt64.ofNat (bufferSlot * kBatchEntries * kStorageBatchEntryBytes)
  entriesKey := queue.entriesRegion.remoteKey
  entryCount := UInt32.ofNat kBatchEntries

/-- Slots are taken in table order. -/
def collectWork : (remaining position : Nat) → StorageClient →
    Except Error (List SlotWork) × StorageClient
  | 0, _, client => (.ok [], client)
  | remaining + 1, position, client =>
      match client.allocateSlot (answers.cleared position) (answers.copied position) with
      | (.error error, client) => (.error error, client)
      | (.ok slotId, client) =>
          let queueIndex := (storageSlotIdQueue slotId).toNat
          let slotIndex := (storageSlotIdIndex slotId).toNat
          match queues[queueIndex]? with
          | none => (.error unexpectedMapping, client)
          | some queue =>
              if slotIndex % queues.length ≠ queueIndex ∨
                  slotIndex / queues.length ≥ slotsPerQp then
                (.error unexpectedMapping, client)
              else
                match collectWork remaining (position + 1) client with
                | (.error error, client) => (.error error, client)
                | (.ok rest, client) =>
                    (.ok (slotWork queue slotId (slotIndex / queues.length) :: rest), client)

def submitAll (position : Nat) : List SlotWork → Except Error Unit
  | [] => .ok ()
  | _ :: rest => do
      answers.submitted position
      submitAll (position + 1) rest

def waitAll (position : Nat) : List SlotWork → StorageClient → Except Error Unit × StorageClient
  | [], client => (.ok (), client)
  | request :: rest, client =>
      match answers.waited position with
      | .error error => (.error error, client)
      | .ok () =>
          match client.releaseSlot request.slotId (answers.released position) with
          | (.error error, client) => (.error error, client)
          | (.ok (), client) => waitAll (position + 1) rest client

structure WindowResult where
  work : List SlotWork
  result : Except Error Unit
  client : StorageClient

def runWindow (client : StorageClient) : WindowResult :=
  if queues = [] ∨ slotsPerQp = 0 then
    { work := []
      result := .error {
        code := .invalidArgument
        message := "storage benchmark resources are incomplete" }
      client := client }
  else
    match collectWork queues slotsPerQp answers (queues.length * slotsPerQp) 0 client with
    | (.error error, client) => { work := [], result := .error error, client := client }
    | (.ok work, client) =>
        match submitAll answers 0 work with
        | .error error => { work := work, result := .error error, client := client }
        | .ok () =>
            let waited := waitAll answers 0 work client
            { work := work, result := waited.1, client := waited.2 }

end Window

/-- Windows run until one of them fails. -/
def runWindows (queues : List QueueResources) (slotsPerQp : Nat) :
    List WindowAnswers → StorageClient → List WindowResult
  | [], _ => []
  | answers :: rest, client =>
      let window := runWindow queues slotsPerQp answers client
      match window.result with
      | .error _ => [window]
      | .ok () => window :: runWindows queues slotsPerQp rest window.client

end NdsStorage.System.Benchmark
