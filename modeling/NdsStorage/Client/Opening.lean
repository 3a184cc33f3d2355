import Mathlib.Algebra.Ring.Nat
import NdsStorage.Client.Backends
import NdsStorage.Interaction.Stages

/-! Opening a storage client. The client allocates, registers and fills its
buffers one after the other and returns at the first call that fails. The calls
on the runtime and on the transport are answered by their surroundings. -/
namespace NdsStorage.Client

open Bytes Interaction

inductive BackendMode where
  | ra | aicpu | aiv
deriving DecidableEq, Repr

inductive MemoryLocation where
  | host | hostPinned | device
deriving DecidableEq, Repr

structure MemoryBuffer where
  data : UInt64 := 0
  rdmaData : UInt64 := 0
  size : Nat := 0
  location : MemoryLocation := .device
deriving DecidableEq, Repr

structure MemoryRegion where
  address : UInt64 := 0
  length : UInt64 := 0
  localKey : UInt32 := 0
  remoteKey : UInt32 := 0
deriving DecidableEq, Repr

/-- The access rights of a registration. -/
structure MemoryAccess where
  localWrite : Bool := false
  remoteWrite : Bool := false
  remoteRead : Bool := false
deriving DecidableEq, Repr

/-- The buffers of a client. -/
inductive BufferMember where
  | bootstrap | command | completion | storageNamespace | slotDescriptors | storageStates
  | slotTable
deriving DecidableEq, Repr

/-- Those of them that are registered with the transport. -/
inductive RegionMember where
  | bootstrap | command | completion | storageNamespace | slotTable
deriving DecidableEq, Repr

def kNdsStorageSlotDescriptorBytes : Nat := 40
def kNdsStorageStateBytes : Nat := 24

namespace BufferMember

def bytes (slotCount : Nat) : BufferMember → Nat
  | bootstrap => kStorageBootstrapBytes
  | command => slotCount * kStorageCommandBytes
  | completion => slotCount * kStorageCompletionBytes
  | storageNamespace => kStorageNamespaceBytes
  | slotDescriptors => slotCount * kNdsStorageSlotDescriptorBytes
  | storageStates => slotCount * kNdsStorageStateBytes
  | slotTable => slotCount * kStorageSlotDescriptorBytes

def location (mode : BackendMode) : BufferMember → MemoryLocation
  | slotDescriptors | storageStates => if mode = .ra then .host else .device
  | slotTable => if mode = .ra then .hostPinned else .device
  | _ => .device

end BufferMember

namespace RegionMember

def buffer : RegionMember → BufferMember
  | bootstrap => .bootstrap
  | command => .command
  | completion => .completion
  | storageNamespace => .storageNamespace
  | slotTable => .slotTable

def access : RegionMember → MemoryAccess
  | bootstrap | slotTable => { localWrite := true, remoteRead := true }
  | command | completion | storageNamespace =>
      { localWrite := true, remoteWrite := true, remoteRead := true }

def name : RegionMember → String
  | bootstrap => "storage bootstrap buffer"
  | command => "storage command buffer"
  | completion => "storage completion buffer"
  | storageNamespace => "storage namespace buffer"
  | slotTable => "storage slot table"

end RegionMember

structure Runtime where
  initialized : Bool
deriving DecidableEq, Repr

/-- What a client reads from an open transport. -/
structure Transport where
  qpCount : Nat
  mode : BackendMode
  deviceTransport : TransportDescriptor
  qpNum : UInt32
  psn : UInt32
deriving DecidableEq, Repr

/-- What the runtime and the transport answer to the calls of one attempt. -/
structure OpenAnswers where
  allocate : BufferMember → Nat → MemoryLocation → Except Error MemoryBuffer
  registerMemory : RegionMember → MemoryBuffer → MemoryAccess → Except Error MemoryRegion
  copyTo : BufferMember → MemoryBuffer → Except Error Unit
  ready : Except Error Unit

structure BootstrapDescriptor where
  transport : TransportDescriptor
  bootstrap : Sge
deriving DecidableEq, Repr

def noSge : Sge := { address := 0, length := 0, localKey := 0 }

def noTransport : TransportDescriptor :=
  { qpDescriptorsAddress := 0, qpStatesAddress := 0, qpCount := 0, reserved := 0 }

def noSlot : SlotDescriptor :=
  { commandBuffer := noSge, completionBuffer := noSge, qpIndex := 0, reserved := 0 }

/-- The members of a client. What it has copied to its buffers stands beside
them: the slot descriptors, the slot table, the namespace and the bootstrap
record. The state records are those of the slots. -/
structure StorageMembers extends StorageClient where
  attached : Bool
  buffers : BufferMember → MemoryBuffer
  regions : RegionMember → MemoryRegion
  slotDescriptors : Nat → SlotDescriptor
  table : List StorageSlot
  namespaceBytes : Buffer
  bootstrapBytes : Buffer
  capacity : UInt64
  storageDescriptor : StorageDescriptor
  bootstrapDescriptor : BootstrapDescriptor
  opened : Bool

/-- A client that was never opened. -/
def StorageMembers.fresh : StorageMembers where
  qpCount := 0
  slots := []
  allocatedSlots := fun _ => false
  nextSlot := 0
  nextCommandId := 0
  states := fun _ => {}
  attached := false
  buffers := fun _ => {}
  regions := fun _ => {}
  slotDescriptors := fun _ => noSlot
  table := []
  namespaceBytes := []
  bootstrapBytes := []
  capacity := 0
  storageDescriptor := {
    transport := noTransport
    slotDescriptorsAddress := 0
    storageStatesAddress := 0
    slotCount := 0
    reserved := 0
    capacity := 0
    slots := fun _ => noSlot }
  bootstrapDescriptor := {
    transport := noTransport
    bootstrap := noSge }
  opened := false

section Stages

abbrev OpenStage := StorageMembers → Except Error StorageMembers

def noResources : SlotResources := { commandOffset := 0, completionOffset := 0, qpIndex := 0 }

/-- A vector keeps its first elements when it is resized. -/
def resizeSlots (slots : List SlotResources) (count : Nat) : List SlotResources :=
  slots.take count ++ List.replicate (count - slots.length) noResources

def attach (transport : Transport) : OpenStage := fun client =>
  .ok { client with
    attached := true
    qpCount := transport.qpCount
    slots := resizeSlots client.slots (transport.qpCount * kStorageSlotsPerQp)
    allocatedSlots := fun _ => false }

def kSizeMax : Nat := 2 ^ 64 - 1

def checkSlots : OpenStage := fun client =>
  if client.slots.length = 0 ∨ client.slots.length ≥ kStorageSlotIndexLimit then
    .error {
      code := .invalidArgument
      message := "storage slot count is outside the packed slot-id range" }
  else if client.slots.length > kSizeMax / kStorageCommandBytes ∨
      client.slots.length > kSizeMax / kStorageCompletionBytes then
    .error { code := .invalidArgument, message := "storage slot allocation size overflows" }
  else .ok client

def allocateBuffer (mode : BackendMode) (answers : OpenAnswers) (member : BufferMember) :
    OpenStage := fun client =>
  match answers.allocate member (member.bytes client.slots.length) (member.location mode) with
  | .error error => .error error
  | .ok buffer => .ok { client with buffers := Function.update client.buffers member buffer }

def registerRegion (answers : OpenAnswers) (member : RegionMember) : OpenStage := fun client =>
  match answers.registerMemory member (client.buffers member.buffer) member.access with
  | .error error =>
      .error {
        code := error.code
        message := member.name ++ " registration failed: " ++ error.message }
  | .ok region => .ok { client with regions := Function.update client.regions member region }

/-- Copy to a buffer, which then holds what `store` says. -/
def copyToBuffer (answers : OpenAnswers) (member : BufferMember) (purpose : String)
    (store : StorageMembers → StorageMembers) : OpenStage := fun client =>
  match answers.copyTo member (client.buffers member) with
  | .error error =>
      .error {
        code := error.code
        message := purpose ++ " failed: " ++ error.message }
  | .ok () => .ok (store client)

/-- Slots are dealt out to the queue pairs in turn. -/
def dealSlots : OpenStage := fun client =>
  .ok { client with
    slots := (List.range client.slots.length).map fun index => {
      commandOffset := index * kStorageCommandBytes
      completionOffset := index * kStorageCompletionBytes
      qpIndex := UInt32.ofNat (index % client.qpCount) } }

def MemoryRegion.memory (region : MemoryRegion) : StorageMemory where
  address := region.address
  length := region.length
  remoteKey := region.remoteKey

def slotDescriptor (command completion : MemoryRegion) (slot : SlotResources) :
    SlotDescriptor where
  commandBuffer := {
    address := command.address + UInt64.ofNat slot.commandOffset
    length := UInt32.ofNat kStorageCommandBytes
    localKey := command.localKey }
  completionBuffer := {
    address := completion.address + UInt64.ofNat slot.completionOffset
    length := UInt32.ofNat kStorageCompletionBytes
    localKey := completion.localKey }
  qpIndex := slot.qpIndex
  reserved := 0

def storeDescriptors (client : StorageMembers) : StorageMembers :=
  { client with
    slotDescriptors := fun index => (client.slots[index]?.map
      (slotDescriptor (client.regions .command) (client.regions .completion))).getD noSlot }

def storeStates (client : StorageMembers) : StorageMembers :=
  { client with states := fun _ => {} }

def storeTable (client : StorageMembers) : StorageMembers :=
  { client with
    table := client.toStorageClient.slotTable (client.regions .command).memory
      (client.regions .completion).memory }

/-- The descriptors that the device code gets, and the first identifier. -/
def describe (transport : Transport) : OpenStage := fun client =>
  .ok { client with
    storageDescriptor := {
      transport := transport.deviceTransport
      slotDescriptorsAddress := (client.buffers .slotDescriptors).data
      storageStatesAddress := (client.buffers .storageStates).data
      slotCount := UInt32.ofNat client.slots.length
      reserved := 0
      capacity := 0
      slots := client.slotDescriptors }
    bootstrapDescriptor := {
      transport := transport.deviceTransport
      bootstrap := {
        address := (client.regions .bootstrap).address
        length := UInt32.ofNat kStorageBootstrapBytes
        localKey := (client.regions .bootstrap).localKey } }
    nextCommandId := StorageClient.firstCommandId transport.qpNum transport.psn }

/-- Everything up to the flag of an open client. -/
def openMembers (transport : Transport) (answers : OpenAnswers) : List OpenStage := [
  attach transport,
  checkSlots,
  allocateBuffer transport.mode answers .bootstrap,
  registerRegion answers .bootstrap,
  allocateBuffer transport.mode answers .command,
  registerRegion answers .command,
  allocateBuffer transport.mode answers .completion,
  registerRegion answers .completion,
  dealSlots,
  allocateBuffer transport.mode answers .storageNamespace,
  registerRegion answers .storageNamespace,
  allocateBuffer transport.mode answers .slotDescriptors,
  copyToBuffer answers .slotDescriptors "storage slot-descriptor copy" storeDescriptors,
  allocateBuffer transport.mode answers .storageStates,
  copyToBuffer answers .storageStates "storage state initialization" storeStates,
  allocateBuffer transport.mode answers .slotTable,
  copyToBuffer answers .slotTable "storage slot-table copy" storeTable,
  registerRegion answers .slotTable,
  describe transport]

def bootstrapRecord (client : StorageMembers) : StorageBootstrap where
  completion := {
    address := (client.regions .completion).address
    length := UInt64.ofNat kStorageCompletionBytes
    remoteKey := (client.regions .completion).remoteKey }
  namespaceResponse := (client.regions .storageNamespace).memory
  slots := (client.regions .slotTable).memory
  slotCount := UInt32.ofNat client.slots.length

def noBytes (count : Nat) : Buffer := List.replicate count 0

def checkBootstrap : OpenStage := fun client =>
  if client.slots = [] then
    .error { code := .invalidArgument, message := "storage bootstrap requires a slot" }
  else
    match (serializeStorageBootstrap (bootstrapRecord client) (noBytes kStorageBootstrapBytes)).1 with
    | .error _ => .error { code := .protocol, message := "invalid storage bootstrap record" }
    | .ok () => .ok client

def storeNamespace (client : StorageMembers) : StorageMembers :=
  { client with namespaceBytes := noBytes kStorageNamespaceBytes }

def storeBootstrap (client : StorageMembers) : StorageMembers :=
  { client with
    bootstrapBytes := (serializeStorageBootstrap (bootstrapRecord client)
      (noBytes kStorageBootstrapBytes)).2 }

def checkReady (answers : OpenAnswers) : OpenStage := fun client =>
  match answers.ready with
  | .error error => .error error
  | .ok () => .ok client

def prepareBootstrap (answers : OpenAnswers) : List OpenStage := [
  checkBootstrap,
  copyToBuffer answers .storageNamespace "storage namespace initialization" storeNamespace,
  copyToBuffer answers .bootstrap "storage bootstrap initialization" storeBootstrap,
  checkReady answers]

def setOpened : OpenStage := fun client => .ok { client with opened := true }

end Stages

def invalidOpen (message : String) : Error := { code := .invalidArgument, message := message }

/-- The flag is set before the bootstrap is prepared. -/
def openStorage (runtime : Option Runtime) (transport : Option Transport) (answers : OpenAnswers)
    (client : StorageMembers) : Except Error Unit × StorageMembers :=
  match runtime, transport with
  | some runtime, some transport =>
      if client.opened ∨ ¬runtime.initialized then
        (.error (invalidOpen "storage client requires one open runtime and transport"), client)
      else if transport.qpCount = 0 ∨ transport.qpCount > 65535 then
        (.error (invalidOpen "storage client requires a supported transport QP count"), client)
      else if transport.qpCount > kSizeMax / kStorageSlotsPerQp then
        (.error (invalidOpen "storage slot count overflows"), client)
      else
        runStages (openMembers transport answers ++ setOpened :: prepareBootstrap answers) client
  | _, _ =>
      (.error (invalidOpen "storage client requires one open runtime and transport"), client)

namespace StorageMembers

def registerMemory (client : StorageMembers) (answer : Except Error MemoryRegion) :
    Except Error MemoryRegion :=
  if !client.opened || !client.attached then
    .error (invalidOpen "storage memory registration requires an open client")
  else answer

def setClient (client : StorageMembers) (slots : StorageClient) : StorageMembers :=
  { client with toStorageClient := slots }

def allocateSlot (client : StorageMembers) (cleared copied : Except Error Unit) :
    Except Error UInt32 × StorageMembers :=
  if !client.opened || !client.attached then
    (.error (invalidOpen "storage client is not open"), client)
  else
    let allocated := client.toStorageClient.allocateSlot cleared copied
    (allocated.1, client.setClient allocated.2)

def allocateSlotOn (client : StorageMembers) (queueIndex : UInt32) (copied : Except Error Unit) :
    Except Error UInt32 × StorageMembers :=
  if !client.opened || !client.attached then
    (.error (invalidOpen "storage queue index is out of range"), client)
  else
    let allocated := client.toStorageClient.allocateSlotOn queueIndex copied
    (allocated.1, client.setClient allocated.2)

def releaseSlot (client : StorageMembers) (slotId : UInt32) (cleared : Except Error Unit) :
    Except Error Unit × StorageMembers :=
  if !client.opened || !client.attached then
    (.error (invalidOpen "storage slot handle is invalid"), client)
  else
    let released := client.toStorageClient.releaseSlot slotId cleared
    (released.1, client.setClient released.2)

/-- The namespace buffer is copied until it holds a record or the deadline has
passed. -/
def observeNamespace : List (Except Error Buffer) → Except Error UInt64
  | [] =>
      .error {
        code := .protocol
        message := "timed out waiting for storage namespace response" }
  | .error error :: _ => .error error
  | .ok bytes :: copies =>
      match deserializeStorageNamespace bytes with
      | .ok storageNamespace => .ok storageNamespace.capacity
      | .error _ => observeNamespace copies

def validTimeout (timeoutMs : UInt32) : Bool := timeoutMs ≠ 0 && timeoutMs ≤ 0x7fffffff

def completeBootstrap (client : StorageMembers) (timeoutMs : UInt32)
    (copies : List (Except Error Buffer)) : Except Error Unit × StorageMembers :=
  if !client.opened || !validTimeout timeoutMs then
    (.error (invalidOpen "storage bootstrap completion requires an open client and timeout"),
      client)
  else
    match observeNamespace copies with
    | .error error => (.error error, client)
    | .ok capacity => (.ok (), { client with
        capacity := capacity
        storageDescriptor := { client.storageDescriptor with capacity := capacity } })

end StorageMembers

end NdsStorage.Client
