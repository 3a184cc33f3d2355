import Mathlib.Logic.Function.Basic
import NdsStorage.Protocol.Records

/-! The host side of the storage client: the slot table, the reservation of
slots and the state record that the device backends find for each slot. The
client is open throughout. Copies to the device may fail, so the operations
that make them take their outcomes as arguments. -/
namespace NdsStorage.Client

def kStorageSlotsPerQp : Nat := 16
def kStorageSlotIndexLimit : Nat := 65536

/-- What a backend knows about the command of a slot. The status is zero or a
negative operation code. -/
structure StorageState where
  commandId : UInt64 := 0
  expectedBytes : UInt32 := 0
  inFlight : UInt32 := 0
  status : Int32 := 0
deriving DecidableEq, Repr

structure SlotResources where
  commandOffset : Nat
  completionOffset : Nat
  qpIndex : UInt32
deriving DecidableEq, Repr

structure StorageClient where
  qpCount : Nat
  slots : List SlotResources
  allocatedSlots : Nat → Bool
  nextSlot : Nat
  nextCommandId : UInt64
  states : Nat → StorageState

def storageSlotId (queueIndex slotIndex : UInt32) : UInt32 :=
  (queueIndex <<< 16) ||| (slotIndex &&& 0xffff)

def storageSlotIdQueue (slotId : UInt32) : UInt32 := slotId >>> 16

def storageSlotIdIndex (slotId : UInt32) : UInt32 := slotId &&& 0xffff

namespace StorageClient

/-- Slots are dealt out to the queue pairs in turn. -/
def slotLayout (qpCount : Nat) : List SlotResources :=
  (List.range (qpCount * kStorageSlotsPerQp)).map fun index => {
    commandOffset := index * kStorageCommandBytes
    completionOffset := index * kStorageCompletionBytes
    qpIndex := UInt32.ofNat (index % qpCount) }

/-- The first identifier is made from the first queue pair's number and sequence. -/
def firstCommandId (qpNum psn : UInt32) : UInt64 :=
  let id := (qpNum.toUInt64 <<< 32) ||| psn.toUInt64
  if id = 0 then 1 else id

/-- Opening a client on a transport, as far as the slots are concerned. -/
def openClient (qpCount : Nat) (qpNum psn : UInt32) : Except Error StorageClient :=
  if qpCount = 0 ∨ qpCount > 65535 then
    .error {
      code := .invalidArgument
      message := "storage client requires a supported transport QP count" }
  else if qpCount * kStorageSlotsPerQp ≥ kStorageSlotIndexLimit then
    .error {
      code := .invalidArgument
      message := "storage slot count is outside the packed slot-id range" }
  else
    .ok {
      qpCount := qpCount
      slots := slotLayout qpCount
      allocatedSlots := fun _ => false
      nextSlot := 0
      nextCommandId := firstCommandId qpNum psn
      states := fun _ => {} }

/-- The table entry the server fetches for a slot. -/
def tableEntry (commands completions : StorageMemory) (slot : SlotResources) : StorageSlot where
  command := {
    address := commands.address + UInt64.ofNat slot.commandOffset
    length := UInt64.ofNat kStorageCommandBytes
    remoteKey := commands.remoteKey }
  completion := {
    address := completions.address + UInt64.ofNat slot.completionOffset
    length := UInt64.ofNat kStorageCompletionBytes
    remoteKey := completions.remoteKey }
  qpIndex := slot.qpIndex
  reserved := 0

/-- The slot table over the registered command and completion buffers. -/
def slotTable (client : StorageClient) (commands completions : StorageMemory) :
    List StorageSlot :=
  client.slots.map (tableEntry commands completions)

/-- Identifiers count up and skip zero. -/
def bumpCommandId (id : UInt64) : UInt64 := if id + 1 = 0 then 1 else id + 1

/-- The next identifier, which is never zero, and the counter after it. -/
def allocateCommandId (next : UInt64) : UInt64 × UInt64 :=
  if next = 0 then (bumpCommandId next, bumpCommandId (bumpCommandId next))
  else (next, bumpCommandId next)

/-- Slots are tried in table order from the cursor on, wrapping around once. -/
def searchOrder (client : StorageClient) : List Nat :=
  (List.range client.slots.length).map fun attempt =>
    (client.nextSlot + attempt) % client.slots.length

def slotQueue (client : StorageClient) (index : Nat) : UInt32 :=
  (client.slots[index]?.map SlotResources.qpIndex).getD 0

/-- Mark a slot as taken and move the cursor behind it. -/
def reserve (client : StorageClient) (index : Nat) : StorageClient :=
  { client with
    allocatedSlots := Function.update client.allocatedSlots index true
    nextSlot := (index + 1) % client.slots.length
    nextCommandId := (allocateCommandId client.nextCommandId).2 }

def unreserve (client : StorageClient) (index : Nat) : StorageClient :=
  { client with allocatedSlots := Function.update client.allocatedSlots index false }

def setState (client : StorageClient) (index : Nat) (state : StorageState) : StorageClient :=
  { client with states := Function.update client.states index state }

/-- Store the state record of a fresh reservation. -/
def installState (client : StorageClient) (index : Nat) (commandId : UInt64) (slotId : UInt32)
    (copied : Except Error Unit) : Except Error UInt32 × StorageClient :=
  match copied with
  | .error error => (.error error, client.unreserve index)
  | .ok () => (.ok slotId, client.setState index { commandId := commandId })

/-- Reserve the first free slot. The old state record is cleared before the
new one is written. -/
def allocateSlot (client : StorageClient) (cleared copied : Except Error Unit) :
    Except Error UInt32 × StorageClient :=
  match client.searchOrder.find? fun index => !client.allocatedSlots index with
  | none =>
      (.error { code := .transport, message := "all storage slots have a command in flight" },
        client)
  | some index =>
      let commandId := (allocateCommandId client.nextCommandId).1
      let slotId := storageSlotId (client.slotQueue index) (UInt32.ofNat index)
      match cleared with
      | .error error => (.error error, (client.reserve index).unreserve index)
      | .ok () => ((client.reserve index).setState index {}).installState index commandId slotId
          copied

/-- Reserve the first free slot of one queue. -/
def allocateSlotOn (client : StorageClient) (queueIndex : UInt32) (copied : Except Error Unit) :
    Except Error UInt32 × StorageClient :=
  if queueIndex.toNat ≥ client.qpCount then
    (.error { code := .invalidArgument, message := "storage queue index is out of range" }, client)
  else if client.slots.isEmpty then
    (.error { code := .transport, message := "storage has no slots" }, client)
  else
    match client.searchOrder.find? fun index =>
        !client.allocatedSlots index && client.slotQueue index = queueIndex with
    | none =>
        (.error {
          code := .transport
          message := "all storage slots on the requested queue are in flight" }, client)
    | some index =>
        (client.reserve index).installState index (allocateCommandId client.nextCommandId).1
          (storageSlotId queueIndex (UInt32.ofNat index)) copied

/-- Give a slot back. Its state record is cleared first. -/
def releaseSlot (client : StorageClient) (slotId : UInt32) (cleared : Except Error Unit) :
    Except Error Unit × StorageClient :=
  let index := (storageSlotIdIndex slotId).toNat
  if index ≥ client.slots.length ∨ client.slotQueue index ≠ storageSlotIdQueue slotId then
    (.error { code := .invalidArgument, message := "storage slot handle is invalid" }, client)
  else if !client.allocatedSlots index then
    (.error { code := .invalidArgument, message := "storage slot is not allocated" }, client)
  else
    match cleared with
    | .error error => (.error error, client)
    | .ok () => (.ok (), (client.setState index {}).unreserve index)

end StorageClient

end NdsStorage.Client
