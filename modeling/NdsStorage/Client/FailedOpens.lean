import NdsStorage.Client.Opening

/-! Attempts to open a client that fail. The flag of an open client is set when
all its buffers are in place, and the bootstrap is prepared afterwards. An
attempt that fails before that leaves a closed client, which a later attempt
opens as if it were the first. -/
namespace NdsStorage.Client

open Bytes Interaction

variable {client next : StorageMembers} {runtime : Option Runtime} {transport : Transport}
  {answers : OpenAnswers} {error : Error}

/-- A client without the flag, and without anything that only an open client
gets. -/
structure Closed (client : StorageMembers) : Prop where
  opened : client.opened = false
  nextSlot : client.nextSlot = 0
  capacity : client.capacity = 0
  namespaceBytes : client.namespaceBytes = []
  bootstrapBytes : client.bootstrapBytes = []

/-- A stage that may be taken before the flag is set. -/
def KeepsClosed (stage : OpenStage) : Prop :=
  ∀ client next, Closed client → stage client = .ok next → Closed next

section Closing

theorem fresh_closed : Closed .fresh where
  opened := rfl
  nextSlot := rfl
  capacity := rfl
  namespaceBytes := rfl
  bootstrapBytes := rfl

/-- An allocation that succeeds stores its buffer. -/
theorem allocateBuffer_ok {mode : BackendMode} {member : BufferMember}
    (h : allocateBuffer mode answers member client = .ok next) :
    ∃ buffer,
      answers.allocate member (member.bytes client.slots.length) (member.location mode) =
        .ok buffer ∧
      next = { client with buffers := Function.update client.buffers member buffer } := by
  unfold allocateBuffer at h
  split at h
  · cases h
  · next buffer hBuffer =>
      cases h
      exact ⟨buffer, hBuffer, rfl⟩

/-- A registration that succeeds stores its region. -/
theorem registerRegion_ok {member : RegionMember}
    (h : registerRegion answers member client = .ok next) :
    ∃ region,
      answers.registerMemory member (client.buffers member.buffer) member.access = .ok region ∧
      next = { client with regions := Function.update client.regions member region } := by
  unfold registerRegion at h
  split at h
  · cases h
  · next region hRegion =>
      cases h
      exact ⟨region, hRegion, rfl⟩

/-- A copy that succeeds has no other effect than its store. -/
theorem copyToBuffer_ok {member : BufferMember} {purpose : String}
    {store : StorageMembers → StorageMembers}
    (h : copyToBuffer answers member purpose store client = .ok next) :
    answers.copyTo member (client.buffers member) = .ok () ∧ next = store client := by
  unfold copyToBuffer at h
  split at h
  · cases h
  · next hCopied =>
      cases h
      exact ⟨hCopied, rfl⟩

/-- The number of slots is in range if the check passes. -/
theorem checkSlots_ok (h : checkSlots client = .ok next) :
    0 < client.slots.length ∧ client.slots.length < kStorageSlotIndexLimit ∧ next = client := by
  unfold checkSlots at h
  split at h
  · cases h
  · next hCount =>
      split at h
      · cases h
      · cases h
        exact ⟨by omega, by omega, rfl⟩

theorem attach_keepsClosed : KeepsClosed (attach transport) := by
  intro client next hClosed h
  cases h
  exact { hClosed with }

theorem checkSlots_keepsClosed : KeepsClosed checkSlots := by
  intro client next hClosed h
  obtain ⟨_, _, rfl⟩ := checkSlots_ok h
  exact hClosed

theorem allocateBuffer_keepsClosed {mode : BackendMode} {member : BufferMember} :
    KeepsClosed (allocateBuffer mode answers member) := by
  intro client next hClosed h
  obtain ⟨buffer, _, rfl⟩ := allocateBuffer_ok h
  exact { hClosed with }

theorem registerRegion_keepsClosed {member : RegionMember} :
    KeepsClosed (registerRegion answers member) := by
  intro client next hClosed h
  obtain ⟨region, _, rfl⟩ := registerRegion_ok h
  exact { hClosed with }

theorem copyToBuffer_keepsClosed {member : BufferMember} {purpose : String}
    {store : StorageMembers → StorageMembers}
    (hStore : ∀ client, Closed client → Closed (store client)) :
    KeepsClosed (copyToBuffer answers member purpose store) := by
  intro client next hClosed h
  obtain ⟨_, rfl⟩ := copyToBuffer_ok h
  exact hStore client hClosed

theorem dealSlots_keepsClosed : KeepsClosed dealSlots := by
  intro client next hClosed h
  cases h
  exact { hClosed with }

theorem describe_keepsClosed : KeepsClosed (describe transport) := by
  intro client next hClosed h
  cases h
  exact { hClosed with }

/-- Before the flag is set every stage leaves a closed client. -/
theorem openMembers_keepsClosed : ∀ stage ∈ openMembers transport answers, KeepsClosed stage := by
  simp only [openMembers, List.forall_mem_cons, List.not_mem_nil, false_implies, implies_true,
    attach_keepsClosed, checkSlots_keepsClosed, allocateBuffer_keepsClosed,
    registerRegion_keepsClosed, dealSlots_keepsClosed, describe_keepsClosed, true_and, and_true]
  exact ⟨copyToBuffer_keepsClosed fun _ hClosed => { hClosed with },
    copyToBuffer_keepsClosed fun _ hClosed => { hClosed with },
    copyToBuffer_keepsClosed fun _ hClosed => { hClosed with }⟩

/-- Until the flag is set, a failure leaves the client closed. -/
theorem openMembers_closed (hClosed : Closed client) :
    Closed (runStages (openMembers transport answers) client).2 :=
  runStages_invariant openMembers_keepsClosed hClosed

end Closing

/-- The runtime and the transport grant every call before the flag, with these
buffers and regions. -/
structure Granted (transport : Transport) (answers : OpenAnswers) where
  buffers : BufferMember → MemoryBuffer
  regions : RegionMember → MemoryRegion
  allocated : ∀ member : BufferMember,
    answers.allocate member (member.bytes (transport.qpCount * kStorageSlotsPerQp))
      (member.location transport.mode) = .ok (buffers member)
  registered : ∀ member : RegionMember,
    answers.registerMemory member (buffers member.buffer) member.access = .ok (regions member)
  descriptorsCopied : answers.copyTo .slotDescriptors (buffers .slotDescriptors) = .ok ()
  statesCopied : answers.copyTo .storageStates (buffers .storageStates) = .ok ()
  tableCopied : answers.copyTo .slotTable (buffers .slotTable) = .ok ()

namespace Granted

variable (granted : Granted transport answers)

/-- The slot descriptors over the granted regions. -/
def slotDescriptors (index : Nat) : SlotDescriptor :=
  ((StorageClient.slotLayout transport.qpCount)[index]?.map
    (slotDescriptor (granted.regions .command) (granted.regions .completion))).getD noSlot

/-- The client that gets its flag when every call is granted. -/
def members : StorageMembers where
  qpCount := transport.qpCount
  slots := StorageClient.slotLayout transport.qpCount
  allocatedSlots := fun _ => false
  nextSlot := 0
  nextCommandId := StorageClient.firstCommandId transport.qpNum transport.psn
  states := fun _ => {}
  attached := true
  buffers := granted.buffers
  regions := granted.regions
  slotDescriptors := granted.slotDescriptors
  table := (StorageClient.slotLayout transport.qpCount).map
    (StorageClient.tableEntry (granted.regions .command).memory
      (granted.regions .completion).memory)
  namespaceBytes := []
  bootstrapBytes := []
  capacity := 0
  storageDescriptor := {
    transport := transport.deviceTransport
    slotDescriptorsAddress := (granted.buffers .slotDescriptors).data
    storageStatesAddress := (granted.buffers .storageStates).data
    slotCount := UInt32.ofNat (transport.qpCount * kStorageSlotsPerQp)
    reserved := 0
    capacity := 0
    slots := granted.slotDescriptors }
  bootstrapDescriptor := {
    transport := transport.deviceTransport
    bootstrap := {
      address := (granted.regions .bootstrap).address
      length := UInt32.ofNat kStorageBootstrapBytes
      localKey := (granted.regions .bootstrap).localKey } }
  opened := false

theorem buffers_filled (buffers : BufferMember → MemoryBuffer) :
    Function.update (Function.update (Function.update (Function.update (Function.update
      (Function.update (Function.update buffers
        .bootstrap (granted.buffers .bootstrap))
        .command (granted.buffers .command))
        .completion (granted.buffers .completion))
        .storageNamespace (granted.buffers .storageNamespace))
        .slotDescriptors (granted.buffers .slotDescriptors))
        .storageStates (granted.buffers .storageStates))
        .slotTable (granted.buffers .slotTable) = granted.buffers := by
  funext member
  cases member <;> simp

/-- The five registrations fill all the regions. -/
theorem regions_filled (regions : RegionMember → MemoryRegion) :
    Function.update (Function.update (Function.update (Function.update (Function.update regions
      .bootstrap (granted.regions .bootstrap))
      .command (granted.regions .command))
      .completion (granted.regions .completion))
      .storageNamespace (granted.regions .storageNamespace))
      .slotTable (granted.regions .slotTable) = granted.regions := by
  funext member
  cases member <;> simp

end Granted

section Granting

theorem resizeSlots_length (slots : List SlotResources) (count : Nat) :
    (resizeSlots slots count).length = count := by
  simp only [resizeSlots, List.length_append, List.length_take, List.length_replicate]
  omega

theorem allocateBuffer_granted (granted : Granted transport answers) {member : BufferMember}
    (hSlots : client.slots.length = transport.qpCount * kStorageSlotsPerQp) :
    allocateBuffer transport.mode answers member client =
      .ok { client with
        buffers := Function.update client.buffers member (granted.buffers member) } := by
  unfold allocateBuffer
  rw [hSlots, granted.allocated member]

theorem registerRegion_granted (granted : Granted transport answers) {member : RegionMember}
    (hBuffer : client.buffers member.buffer = granted.buffers member.buffer) :
    registerRegion answers member client =
      .ok { client with
        regions := Function.update client.regions member (granted.regions member) } := by
  unfold registerRegion
  rw [hBuffer, granted.registered member]

theorem copyToBuffer_granted {member : BufferMember} {purpose : String}
    {store : StorageMembers → StorageMembers}
    (hCopied : answers.copyTo member (client.buffers member) = .ok ()) :
    copyToBuffer answers member purpose store client = .ok (store client) := by
  unfold copyToBuffer
  rw [hCopied]

/-- The check of a number of slots that is in range. -/
theorem checkSlots_granted (hPositive : 0 < client.slots.length)
    (hFits : client.slots.length < kStorageSlotIndexLimit) : checkSlots client = .ok client := by
  unfold checkSlots
  have hLimit : kStorageSlotIndexLimit ≤ kSizeMax / kStorageCommandBytes := by decide
  have hLimit' : kStorageSlotIndexLimit ≤ kSizeMax / kStorageCompletionBytes := by decide
  rw [if_neg (by omega), if_neg (by omega)]

/-- When every call is granted, a closed client becomes the same client whatever
an earlier attempt has left in its members. -/
theorem openMembers_granted (granted : Granted transport answers) (hClosed : Closed client)
    (hPositive : 0 < transport.qpCount * kStorageSlotsPerQp)
    (hFits : transport.qpCount * kStorageSlotsPerQp < kStorageSlotIndexLimit) :
    runStages (openMembers transport answers) client = (.ok (), granted.members) := by
  have hLength := resizeSlots_length client.slots (transport.qpCount * kStorageSlotsPerQp)
  unfold openMembers
  rw [runStages_ok (show attach transport client = .ok _ from rfl),
    runStages_ok (checkSlots_granted (by rwa [hLength]) (by rwa [hLength]))]
  rw [runStages_ok (allocateBuffer_granted granted hLength),
    runStages_ok (registerRegion_granted granted (by simp [RegionMember.buffer])),
    runStages_ok (allocateBuffer_granted granted hLength),
    runStages_ok (registerRegion_granted granted (by simp [RegionMember.buffer])),
    runStages_ok (allocateBuffer_granted granted hLength),
    runStages_ok (registerRegion_granted granted (by simp [RegionMember.buffer])),
    runStages_ok (show dealSlots _ = .ok _ from rfl)]
  rw [runStages_ok (allocateBuffer_granted granted (by simp [hLength])),
    runStages_ok (registerRegion_granted granted (by simp [RegionMember.buffer])),
    runStages_ok (allocateBuffer_granted granted (by simp [hLength])),
    runStages_ok (copyToBuffer_granted (by simpa using granted.descriptorsCopied)),
    runStages_ok (allocateBuffer_granted granted (by simp [storeDescriptors, hLength])),
    runStages_ok (copyToBuffer_granted (by simpa using granted.statesCopied)),
    runStages_ok (allocateBuffer_granted granted (by simp [storeStates, storeDescriptors, hLength])),
    runStages_ok (copyToBuffer_granted (by simpa using granted.tableCopied)),
    runStages_ok (registerRegion_granted granted (by simp [storeTable, RegionMember.buffer])),
    runStages_ok (show describe transport _ = .ok _ from rfl)]
  rw [runStages]
  -- Every member is filled, so nothing of the earlier ones is left.
  have hBuffers := granted.buffers_filled client.buffers
  have hRegions := granted.regions_filled client.regions
  simp [storeTable, storeStates, storeDescriptors, hLength, hBuffers, hRegions, hClosed.nextSlot,
    hClosed.capacity, hClosed.opened, hClosed.namespaceBytes, hClosed.bootstrapBytes,
    Granted.members, StorageClient.slotLayout, StorageClient.slotTable]
  funext index
  simp [Granted.slotDescriptors, StorageClient.slotLayout]

/-- Past an allocation, the stages go on with the buffer it answered. -/
theorem runStages_allocated {mode : BackendMode} {member : BufferMember} {stages : List OpenStage}
    (h : (runStages (allocateBuffer mode answers member :: stages) client).1 = .ok ()) :
    ∃ buffer,
      answers.allocate member (member.bytes client.slots.length) (member.location mode) =
        .ok buffer ∧
      (runStages stages
        { client with buffers := Function.update client.buffers member buffer }).1 = .ok () := by
  obtain ⟨next, hStage, hRest⟩ := runStages_first h
  obtain ⟨buffer, hBuffer, rfl⟩ := allocateBuffer_ok hStage
  exact ⟨buffer, hBuffer, hRest⟩

/-- Past a registration, the stages go on with the region it answered. -/
theorem runStages_registered {member : RegionMember} {stages : List OpenStage}
    (h : (runStages (registerRegion answers member :: stages) client).1 = .ok ()) :
    ∃ region,
      answers.registerMemory member (client.buffers member.buffer) member.access = .ok region ∧
      (runStages stages
        { client with regions := Function.update client.regions member region }).1 = .ok () := by
  obtain ⟨next, hStage, hRest⟩ := runStages_first h
  obtain ⟨region, hRegion, rfl⟩ := registerRegion_ok hStage
  exact ⟨region, hRegion, hRest⟩

theorem runStages_copied {member : BufferMember} {purpose : String}
    {store : StorageMembers → StorageMembers} {stages : List OpenStage}
    (h : (runStages (copyToBuffer answers member purpose store :: stages) client).1 = .ok ()) :
    answers.copyTo member (client.buffers member) = .ok () ∧
      (runStages stages (store client)).1 = .ok () := by
  obtain ⟨next, hStage, hRest⟩ := runStages_first h
  obtain ⟨hCopied, rfl⟩ := copyToBuffer_ok hStage
  exact ⟨hCopied, hRest⟩

/-- The stages before the flag end well only when every call was granted. -/
theorem granted_of_openMembers (h : (runStages (openMembers transport answers) client).1 = .ok ()) :
    0 < transport.qpCount * kStorageSlotsPerQp ∧
      transport.qpCount * kStorageSlotsPerQp < kStorageSlotIndexLimit ∧
      Nonempty (Granted transport answers) := by
  have hLength := resizeSlots_length client.slots (transport.qpCount * kStorageSlotsPerQp)
  unfold openMembers at h
  rw [runStages_ok (show attach transport client = .ok _ from rfl)] at h
  obtain ⟨_, hChecked, h⟩ := runStages_first h
  obtain ⟨hPositive, hFits, rfl⟩ := checkSlots_ok hChecked
  rw [hLength] at hPositive hFits
  obtain ⟨bootstrap, hBootstrap, h⟩ := runStages_allocated h
  obtain ⟨bootstrapRegion, hBootstrapRegion, h⟩ := runStages_registered h
  obtain ⟨command, hCommand, h⟩ := runStages_allocated h
  obtain ⟨commandRegion, hCommandRegion, h⟩ := runStages_registered h
  obtain ⟨completion, hCompletion, h⟩ := runStages_allocated h
  obtain ⟨completionRegion, hCompletionRegion, h⟩ := runStages_registered h
  rw [runStages_ok (show dealSlots _ = .ok _ from rfl)] at h
  obtain ⟨storageNamespace, hNamespace, h⟩ := runStages_allocated h
  obtain ⟨namespaceRegion, hNamespaceRegion, h⟩ := runStages_registered h
  obtain ⟨slotDescriptors, hDescriptors, h⟩ := runStages_allocated h
  obtain ⟨hDescriptorsCopied, h⟩ := runStages_copied h
  obtain ⟨storageStates, hStates, h⟩ := runStages_allocated h
  obtain ⟨hStatesCopied, h⟩ := runStages_copied h
  obtain ⟨slotTable, hTable, h⟩ := runStages_allocated h
  obtain ⟨hTableCopied, h⟩ := runStages_copied h
  obtain ⟨tableRegion, hTableRegion, h⟩ := runStages_registered h
  refine ⟨hPositive, hFits, ⟨{
    buffers := BufferMember.rec bootstrap command completion storageNamespace slotDescriptors
      storageStates slotTable
    regions := RegionMember.rec bootstrapRegion commandRegion completionRegion namespaceRegion
      tableRegion
    allocated := ?_
    registered := ?_
    descriptorsCopied := by simpa using hDescriptorsCopied
    statesCopied := by simpa using hStatesCopied
    tableCopied := by simpa using hTableCopied }⟩⟩
  · intro member
    cases member with
    | bootstrap => simpa [hLength] using hBootstrap
    | command => simpa [hLength] using hCommand
    | completion => simpa [hLength] using hCompletion
    | storageNamespace => simpa [hLength] using hNamespace
    | slotDescriptors => simpa [hLength] using hDescriptors
    | storageStates => simpa [storeDescriptors, hLength] using hStates
    | slotTable => simpa [storeStates, storeDescriptors, hLength] using hTable
  · intro member
    cases member with
    | bootstrap => simpa [RegionMember.buffer] using hBootstrapRegion
    | command => simpa [RegionMember.buffer] using hCommandRegion
    | completion => simpa [RegionMember.buffer] using hCompletionRegion
    | storageNamespace => simpa [RegionMember.buffer] using hNamespaceRegion
    | slotTable => simpa [RegionMember.buffer, storeTable] using hTableRegion

end Granting

/-- A client with the flag, which has a transport then. -/
structure Open (client : StorageMembers) : Prop where
  opened : client.opened = true
  attached : client.attached = true

/-- The arguments of an attempt that sets the flag. -/
structure Passes (runtime : Runtime) (transport : Transport) (answers : OpenAnswers) : Prop where
  initialized : runtime.initialized = true
  positive : 0 < transport.qpCount
  fits : transport.qpCount * kStorageSlotsPerQp < kStorageSlotIndexLimit
  granted : Nonempty (Granted transport answers)

/-- An attempt on a closed client sets the flag: its arguments are accepted, and
every allocation, registration and copy before the bootstrap is granted. -/
def SetsFlag (runtime : Option Runtime) (transport : Option Transport) (answers : OpenAnswers) :
    Prop :=
  ∃ present link, runtime = some present ∧ transport = some link ∧ Passes present link answers

section Attempts

variable {transport? : Option Transport}

/-- The handshake carries at most 65535 queue pairs. -/
theorem Passes.count_le {present : Runtime} (hPasses : Passes present transport answers) :
    transport.qpCount ≤ 65535 := by
  have hFits : transport.qpCount < kStorageSlotIndexLimit :=
    Nat.lt_of_le_of_lt (Nat.le_mul_of_pos_right _ (by decide)) hPasses.fits
  have hLimit : kStorageSlotIndexLimit = 65536 := rfl
  omega

/-- The stages from the flag on. -/
def finishOpen (answers : OpenAnswers) : List OpenStage := setOpened :: prepareBootstrap answers

/-- A client that is open refuses to be opened again. -/
theorem openStorage_opened (hOpened : client.opened = true) :
    ∃ error, openStorage runtime transport? answers client = (.error error, client) := by
  unfold openStorage
  split
  · rw [if_pos (Or.inl hOpened)]
    exact ⟨_, rfl⟩
  · exact ⟨_, rfl⟩

/-- An attempt on a closed client that is refused for its arguments changes
nothing. -/
theorem openStorage_cases (runtime : Option Runtime) (transport? : Option Transport)
    (answers : OpenAnswers) (hClosed : Closed client) :
    (∃ error, openStorage runtime transport? answers client = (.error error, client)) ∨
    ∃ present transport, runtime = some present ∧ transport? = some transport ∧
      present.initialized = true ∧ 0 < transport.qpCount ∧
      openStorage runtime transport? answers client =
        runStages (openMembers transport answers ++ finishOpen answers) client := by
  unfold openStorage
  split
  · next present transport =>
      split
      · exact Or.inl ⟨_, rfl⟩
      · next hInitialized =>
          split
          · exact Or.inl ⟨_, rfl⟩
          · next hCount =>
              split
              · exact Or.inl ⟨_, rfl⟩
              · refine Or.inr ⟨present, transport, rfl, rfl, ?_, by omega, rfl⟩
                simpa [hClosed.opened] using hInitialized
  · exact Or.inl ⟨_, rfl⟩

/-- An attempt with the flag set goes on from the same client, whichever closed
client it was made on. -/
theorem openStorage_passes {present : Runtime} (hClosed : Closed client)
    (hPasses : Passes present transport answers) (granted : Granted transport answers) :
    openStorage (some present) (some transport) answers client =
      runStages (finishOpen answers) granted.members := by
  have hSlots : 0 < transport.qpCount * kStorageSlotsPerQp :=
    Nat.mul_pos hPasses.positive (by decide)
  have hMembers := openMembers_granted granted hClosed hSlots hPasses.fits
  have hCount := hPasses.count_le
  have hMax : 65535 ≤ kSizeMax / kStorageSlotsPerQp := by decide
  have hPositive := hPasses.positive
  unfold openStorage
  dsimp only
  rw [if_neg (by simp [hClosed.opened, hPasses.initialized]), if_neg (by omega), if_neg (by omega)]
  rw [runStages_append_ok (by rw [hMembers]), hMembers]
  rfl

/-- Without the flag an attempt fails and leaves a closed client. -/
theorem openStorage_closed (hClosed : Closed client)
    (hNot : ¬SetsFlag runtime transport? answers) :
    (∃ error, (openStorage runtime transport? answers client).1 = .error error) ∧
      Closed (openStorage runtime transport? answers client).2 := by
  obtain ⟨error, hRefused⟩ | ⟨present, transport, rfl, rfl, hInitialized, hPositive, hStages⟩ :=
    openStorage_cases runtime transport? answers hClosed
  · rw [hRefused]
    exact ⟨⟨error, rfl⟩, hClosed⟩
  · rw [hStages]
    cases hRun : (runStages (openMembers transport answers) client).1 with
    | error error =>
        rw [runStages_append_error hRun]
        exact ⟨⟨error, hRun⟩, openMembers_closed hClosed⟩
    | ok =>
        obtain ⟨_, hFits, hGranted⟩ := granted_of_openMembers hRun
        exact absurd ⟨present, transport, rfl, rfl, hInitialized, hPositive, hFits, hGranted⟩ hNot

theorem checkBootstrap_ok (h : checkBootstrap client = .ok next) : next = client := by
  unfold checkBootstrap at h
  split at h
  · cases h
  · split at h
    · cases h
    · cases h
      rfl

theorem checkReady_ok (h : checkReady answers client = .ok next) : next = client := by
  unfold checkReady at h
  split at h
  · cases h
  · cases h
    rfl

/-- Once the flag is set, no later stage takes it back. -/
theorem prepareBootstrap_keepsOpen : ∀ stage ∈ prepareBootstrap answers, ∀ client next,
    Open client → stage client = .ok next → Open next := by
  simp only [prepareBootstrap, List.forall_mem_cons, List.not_mem_nil, false_implies, implies_true,
    and_true]
  refine ⟨?_, ?_, ?_, ?_⟩
  · intro client next hOpen h
    cases checkBootstrap_ok h
    exact hOpen
  · intro client next hOpen h
    obtain ⟨_, rfl⟩ := copyToBuffer_ok h
    exact { hOpen with }
  · intro client next hOpen h
    obtain ⟨_, rfl⟩ := copyToBuffer_ok h
    exact { hOpen with }
  · intro client next hOpen h
    cases checkReady_ok h
    exact hOpen

/-- From the flag on the client stays open, however the attempt ends. -/
theorem finishOpen_open (hAttached : client.attached = true) :
    Open (runStages (finishOpen answers) client).2 := by
  unfold finishOpen
  rw [runStages_ok (show setOpened client = .ok _ from rfl)]
  exact runStages_invariant prepareBootstrap_keepsOpen ⟨rfl, hAttached⟩

/-- From the flag on, whatever fails, the client counts as open. -/
theorem openStorage_open (hClosed : Closed client) (hFlag : SetsFlag runtime transport? answers) :
    Open (openStorage runtime transport? answers client).2 := by
  obtain ⟨present, transport, rfl, rfl, hPasses⟩ := hFlag
  obtain ⟨granted⟩ := hPasses.granted
  rw [openStorage_passes hClosed hPasses granted]
  exact finishOpen_open rfl

end Attempts

/-- The clients that the calls of the library and the writes of the device
reach. -/
inductive Reached : StorageMembers → Prop where
  | fresh : Reached .fresh
  | opening {client : StorageMembers} (prior : Reached client) (runtime : Option Runtime)
      (transport : Option Transport) (answers : OpenAnswers) :
      Reached (openStorage runtime transport answers client).2
  | allocating {client : StorageMembers} (prior : Reached client)
      (cleared copied : Except Error Unit) : Reached (client.allocateSlot cleared copied).2
  | allocatingOn {client : StorageMembers} (prior : Reached client) (queueIndex : UInt32)
      (copied : Except Error Unit) : Reached (client.allocateSlotOn queueIndex copied).2
  | releasing {client : StorageMembers} (prior : Reached client) (slotId : UInt32)
      (cleared : Except Error Unit) : Reached (client.releaseSlot slotId cleared).2
  | completing {client : StorageMembers} (prior : Reached client) (timeoutMs : UInt32)
      (copies : List (Except Error Buffer)) :
      Reached (client.completeBootstrap timeoutMs copies).2
  | writing {client : StorageMembers} (prior : Reached client) (states : Nat → StorageState) :
      Reached { client with states := states }

/-- Every call that needs an open client is refused and changes nothing. -/
structure Refuses (client : StorageMembers) : Prop where
  registerMemory : ∀ answer, ∃ error, client.registerMemory answer = .error error
  allocateSlot : ∀ cleared copied, ∃ error,
    client.allocateSlot cleared copied = (.error error, client)
  allocateSlotOn : ∀ queueIndex copied, ∃ error,
    client.allocateSlotOn queueIndex copied = (.error error, client)
  releaseSlot : ∀ slotId cleared, ∃ error,
    client.releaseSlot slotId cleared = (.error error, client)
  completeBootstrap : ∀ timeoutMs copies, ∃ error,
    client.completeBootstrap timeoutMs copies = (.error error, client)

section Refusals

theorem refuses_of_closed (hOpened : client.opened = false) : Refuses client where
  registerMemory := by
    intro answer
    simp [StorageMembers.registerMemory, hOpened]
  allocateSlot := by
    intro cleared copied
    simp [StorageMembers.allocateSlot, hOpened]
  allocateSlotOn := by
    intro queueIndex copied
    simp [StorageMembers.allocateSlotOn, hOpened]
  releaseSlot := by
    intro slotId cleared
    simp [StorageMembers.releaseSlot, hOpened]
  completeBootstrap := by
    intro timeoutMs copies
    simp [StorageMembers.completeBootstrap, hOpened]

/-- An open client passes a registration on to its transport. -/
theorem Open.not_refuses (hOpen : Open client) : ¬Refuses client := by
  intro hRefuses
  obtain ⟨error, hError⟩ := hRefuses.registerMemory (.ok {})
  simp [StorageMembers.registerMemory, hOpen.opened, hOpen.attached] at hError

/-- Replacing the slots keeps the client open. -/
theorem Open.setClient (hOpen : Open client) (slots : StorageClient) :
    Open (client.setClient slots) where
  opened := hOpen.opened
  attached := hOpen.attached

theorem Open.allocateSlot (hOpen : Open client) (cleared copied : Except Error Unit) :
    Open (client.allocateSlot cleared copied).2 := by
  unfold StorageMembers.allocateSlot
  split
  · exact hOpen
  · exact hOpen.setClient _

theorem Open.allocateSlotOn (hOpen : Open client) (queueIndex : UInt32)
    (copied : Except Error Unit) : Open (client.allocateSlotOn queueIndex copied).2 := by
  unfold StorageMembers.allocateSlotOn
  split
  · exact hOpen
  · exact hOpen.setClient _

theorem Open.releaseSlot (hOpen : Open client) (slotId : UInt32) (cleared : Except Error Unit) :
    Open (client.releaseSlot slotId cleared).2 := by
  unfold StorageMembers.releaseSlot
  split
  · exact hOpen
  · exact hOpen.setClient _

theorem Open.completeBootstrap (hOpen : Open client) (timeoutMs : UInt32)
    (copies : List (Except Error Buffer)) :
    Open (client.completeBootstrap timeoutMs copies).2 := by
  unfold StorageMembers.completeBootstrap
  split
  · exact hOpen
  · split
    · exact hOpen
    · exact { hOpen with }

/-- A call that a closed client refuses and that keeps an open client open. -/
theorem closed_or_open_next {Outcome : Type} {outcome : Except Error Outcome × StorageMembers}
    (h : Closed client ∨ Open client)
    (hRefused : Refuses client → ∃ error, outcome = (.error error, client))
    (hKept : Open client → Open outcome.2) : Closed outcome.2 ∨ Open outcome.2 := by
  rcases h with hClosed | hOpen
  · obtain ⟨error, rfl⟩ := hRefused (refuses_of_closed hClosed.opened)
    exact Or.inl hClosed
  · exact Or.inr (hKept hOpen)

theorem openStorage_closed_or_open (h : Closed client ∨ Open client) (runtime : Option Runtime)
    (transport : Option Transport) (answers : OpenAnswers) :
    Closed (openStorage runtime transport answers client).2 ∨
      Open (openStorage runtime transport answers client).2 := by
  rcases h with hClosed | hOpen
  · by_cases hFlag : SetsFlag runtime transport answers
    · exact Or.inr (openStorage_open hClosed hFlag)
    · exact Or.inl (openStorage_closed hClosed hFlag).2
  · obtain ⟨error, hRefused⟩ := openStorage_opened hOpen.opened
    rw [hRefused]
    exact Or.inr hOpen

/-- A reached client has the flag and its transport, or nothing of an open
client. -/
theorem Reached.closed_or_open (hReached : Reached client) : Closed client ∨ Open client := by
  induction hReached with
  | fresh => exact Or.inl fresh_closed
  | opening prior runtime transport answers ih =>
      exact openStorage_closed_or_open ih runtime transport answers
  | allocating prior cleared copied ih =>
      exact closed_or_open_next ih (fun hRefuses => hRefuses.allocateSlot cleared copied)
        (fun hOpen => hOpen.allocateSlot cleared copied)
  | allocatingOn prior queueIndex copied ih =>
      exact closed_or_open_next ih (fun hRefuses => hRefuses.allocateSlotOn queueIndex copied)
        (fun hOpen => hOpen.allocateSlotOn queueIndex copied)
  | releasing prior slotId cleared ih =>
      exact closed_or_open_next ih (fun hRefuses => hRefuses.releaseSlot slotId cleared)
        (fun hOpen => hOpen.releaseSlot slotId cleared)
  | completing prior timeoutMs copies ih =>
      exact closed_or_open_next ih (fun hRefuses => hRefuses.completeBootstrap timeoutMs copies)
        (fun hOpen => hOpen.completeBootstrap timeoutMs copies)
  | writing prior states ih =>
      rcases ih with hClosed | hOpen
      · exact Or.inl { hClosed with }
      · exact Or.inr { hOpen with }

end Refusals

section Reopening

def Sge.withoutAddress (sge : Sge) : Sge := { sge with address := 0, localKey := 0 }

def SlotDescriptor.withoutAddresses (slot : SlotDescriptor) : SlotDescriptor :=
  { slot with
    commandBuffer := slot.commandBuffer.withoutAddress
    completionBuffer := slot.completionBuffer.withoutAddress }

def withoutAddress (memory : StorageMemory) : StorageMemory :=
  { memory with address := 0, remoteKey := 0 }

def tableWithoutAddresses (slot : StorageSlot) : StorageSlot :=
  { slot with
    command := withoutAddress slot.command
    completion := withoutAddress slot.completion }

/-- What a client is up to the addresses and keys that it got. The bootstrap
record only says where its regions are. -/
def StorageMembers.withoutAddresses (client : StorageMembers) : StorageMembers :=
  { client with
    buffers := fun _ => {}
    regions := fun _ => {}
    slotDescriptors := fun index => (client.slotDescriptors index).withoutAddresses
    table := client.table.map tableWithoutAddresses
    bootstrapBytes := []
    storageDescriptor := { client.storageDescriptor with
      slotDescriptorsAddress := 0
      storageStatesAddress := 0
      slots := fun index => (client.storageDescriptor.slots index).withoutAddresses }
    bootstrapDescriptor := { client.bootstrapDescriptor with
      bootstrap := client.bootstrapDescriptor.bootstrap.withoutAddress } }

/-- An attempt whose calls all succeed gives the client that it would have given
as the first one, and up to addresses and keys the client of any first
successful attempt on the transport. -/
structure Reopens (client : StorageMembers) : Prop where
  same : ∀ runtime transport answers,
    (openStorage runtime transport answers .fresh).1 = .ok () →
    openStorage runtime transport answers client = openStorage runtime transport answers .fresh
  layout : ∀ runtime first transport answers earlier,
    (openStorage runtime transport answers .fresh).1 = .ok () →
    (openStorage first transport earlier .fresh).1 = .ok () →
    (openStorage runtime transport answers client).2.withoutAddresses =
      (openStorage first transport earlier .fresh).2.withoutAddresses

theorem setsFlag_of_ok {transport? : Option Transport} (hClosed : Closed client)
    (h : (openStorage runtime transport? answers client).1 = .ok ()) :
    SetsFlag runtime transport? answers := by
  by_contra hNot
  obtain ⟨error, hError⟩ := (openStorage_closed hClosed hNot).1
  rw [h] at hError
  cases hError

/-- What the last stages store if they succeed. -/
theorem finishOpen_ok (h : (runStages (finishOpen answers) client).1 = .ok ()) :
    (runStages (finishOpen answers) client).2 =
      storeBootstrap (storeNamespace { client with opened := true }) := by
  unfold finishOpen prepareBootstrap at h ⊢
  rw [runStages_ok (show setOpened client = .ok _ from rfl)] at h ⊢
  obtain ⟨checked, hChecked, h⟩ := runStages_first h
  rw [runStages_ok hChecked]
  cases checkBootstrap_ok hChecked
  obtain ⟨named, hNamed, h⟩ := runStages_first h
  rw [runStages_ok hNamed]
  obtain ⟨_, rfl⟩ := copyToBuffer_ok hNamed
  obtain ⟨recorded, hRecorded, h⟩ := runStages_first h
  rw [runStages_ok hRecorded]
  obtain ⟨_, rfl⟩ := copyToBuffer_ok hRecorded
  obtain ⟨ready, hReady, h⟩ := runStages_first h
  rw [runStages_ok hReady]
  cases checkReady_ok hReady
  rfl

/-- A client that is opened has the slots of `StorageClient.openClient`, with
which its reservations are described. -/
theorem openStorage_slots {present : Runtime} (hClosed : Closed client)
    (h : (openStorage (some present) (some transport) answers client).1 = .ok ()) :
    StorageClient.openClient transport.qpCount transport.qpNum transport.psn =
      .ok (openStorage (some present) (some transport) answers client).2.toStorageClient := by
  obtain ⟨_, _, hPresent, hLink, hPasses⟩ := setsFlag_of_ok hClosed h
  cases hPresent
  cases hLink
  obtain ⟨granted⟩ := hPasses.granted
  rw [openStorage_passes hClosed hPasses granted] at h ⊢
  rw [finishOpen_ok h]
  have hCount := hPasses.count_le
  have hFits := hPasses.fits
  have hPositive := hPasses.positive
  unfold StorageClient.openClient
  rw [if_neg (by omega), if_neg (by omega)]
  rfl

/-- The members do not depend on what an earlier attempt was granted. -/
theorem Granted.members_withoutAddresses {earlier : OpenAnswers}
    (granted : Granted transport answers) (other : Granted transport earlier) :
    (storeBootstrap (storeNamespace { granted.members with opened := true })).withoutAddresses =
      (storeBootstrap (storeNamespace { other.members with opened := true })).withoutAddresses := by
  have hSlots : ∀ index, (granted.slotDescriptors index).withoutAddresses =
      (other.slotDescriptors index).withoutAddresses := by
    intro index
    unfold Granted.slotDescriptors
    cases (StorageClient.slotLayout transport.qpCount)[index]? <;> rfl
  have hTable : granted.members.table.map tableWithoutAddresses =
      other.members.table.map tableWithoutAddresses := by
    simp only [Granted.members, List.map_map]
    rfl
  simp only [StorageMembers.withoutAddresses, storeBootstrap, storeNamespace, hTable]
  simp only [Granted.members, hSlots, Sge.withoutAddress]

/-- A closed client is opened as if it had never been tried. -/
theorem reopens_of_closed (hClosed : Closed client) : Reopens client := by
  have hSame : ∀ runtime transport answers,
      (openStorage runtime transport answers .fresh).1 = .ok () →
      openStorage runtime transport answers client =
        openStorage runtime transport answers .fresh := by
    intro runtime transport answers hOk
    obtain ⟨present, link, rfl, rfl, hPasses⟩ := setsFlag_of_ok fresh_closed hOk
    obtain ⟨granted⟩ := hPasses.granted
    rw [openStorage_passes hClosed hPasses granted, openStorage_passes fresh_closed hPasses granted]
  refine ⟨hSame, ?_⟩
  intro runtime first transport answers earlier hOk hFirst
  rw [hSame runtime transport answers hOk]
  obtain ⟨present, link, rfl, rfl, hPasses⟩ := setsFlag_of_ok fresh_closed hOk
  obtain ⟨before, _, rfl, hLink, hEarlier⟩ := setsFlag_of_ok fresh_closed hFirst
  cases hLink
  obtain ⟨granted⟩ := hPasses.granted
  obtain ⟨other⟩ := hEarlier.granted
  rw [openStorage_passes fresh_closed hPasses granted] at hOk ⊢
  rw [openStorage_passes fresh_closed hEarlier other] at hFirst ⊢
  rw [finishOpen_ok hOk, finishOpen_ok hFirst]
  exact granted.members_withoutAddresses other

end Reopening

/-- What a failed attempt should leave. -/
structure LeavesClosed (client : StorageMembers) : Prop where
  refuses : Refuses client
  reopens : Reopens client

/-- A failed attempt leaves a closed client exactly when the client was not open
and the attempt ends before the flag is set. -/
theorem failed_open_closed_iff {transport : Option Transport} (hReached : Reached client) :
    (openStorage runtime transport answers client).1 = .error error →
    (LeavesClosed (openStorage runtime transport answers client).2 ↔
      client.opened = false ∧ ¬SetsFlag runtime transport answers) := by
  intro _
  constructor
  · intro hLeaves
    rcases hReached.closed_or_open with hClosed | hOpen
    · refine ⟨hClosed.opened, ?_⟩
      intro hFlag
      exact (openStorage_open hClosed hFlag).not_refuses hLeaves.refuses
    · obtain ⟨refusal, hRefused⟩ := openStorage_opened hOpen.opened
      rw [hRefused] at hLeaves
      exact absurd hLeaves.refuses hOpen.not_refuses
  · rintro ⟨hNotOpen, hNot⟩
    rcases hReached.closed_or_open with hClosed | hOpen
    · have hAfter := (openStorage_closed hClosed hNot).2
      exact ⟨refuses_of_closed hAfter.opened, reopens_of_closed hAfter⟩
    · rw [hOpen.opened] at hNotOpen
      cases hNotOpen

def oneQueuePair : Transport where
  qpCount := 1
  mode := .aicpu
  deviceTransport := {
    qpDescriptorsAddress := 0x1000
    qpStatesAddress := 0x2000
    qpCount := 1
    reserved := 0 }
  qpNum := 7
  psn := 9

def BufferMember.base : BufferMember → UInt64
  | bootstrap => 0x10000
  | command => 0x20000
  | completion => 0x30000
  | storageNamespace => 0x40000
  | slotDescriptors => 0x50000
  | storageStates => 0x60000
  | slotTable => 0x70000

def grantAll : OpenAnswers where
  allocate := fun member size location => .ok {
    data := member.base
    rdmaData := member.base
    size := size
    location := location }
  registerMemory := fun _ buffer _ => .ok {
    address := buffer.rdmaData
    length := UInt64.ofNat buffer.size
    localKey := 11
    remoteKey := 12 }
  copyTo := fun _ _ => .ok ()
  ready := .ok ()

def outOfMemory : Error := { code := .runtime, message := "aclrtMalloc failed: 207001" }

/-- The last allocation fails. -/
def tableRefused : OpenAnswers :=
  { grantAll with
    allocate := fun member size location =>
      if member = .slotTable then .error outOfMemory else grantAll.allocate member size location }

theorem failed_open_closed_allocation :
    (openStorage (some ⟨true⟩) (some oneQueuePair) tableRefused .fresh).1 = .error outOfMemory ∧
      LeavesClosed (openStorage (some ⟨true⟩) (some oneQueuePair) tableRefused .fresh).2 := by
  refine ⟨rfl, (failed_open_closed_iff .fresh rfl).2 ⟨rfl, ?_⟩⟩
  rintro ⟨present, link, _, hLink, hPasses⟩
  cases hLink
  obtain ⟨granted⟩ := hPasses.granted
  exact nomatch granted.allocated .slotTable

def portDown : Error := { code := .ra, message := "client transport is not ready" }

/-- The transport is not ready after everything else is in place. -/
def notReady : OpenAnswers := { grantAll with ready := .error portDown }

theorem failed_open_left_open :
    let after := (openStorage (some ⟨true⟩) (some oneQueuePair) notReady .fresh).2
    (openStorage (some ⟨true⟩) (some oneQueuePair) notReady .fresh).1 = .error portDown ∧
      after.registerMemory (.ok {}) = .ok {} ∧
      (openStorage (some ⟨true⟩) (some oneQueuePair) grantAll .fresh).1 = .ok () ∧
      (openStorage (some ⟨true⟩) (some oneQueuePair) grantAll after).1 =
        .error (invalidOpen "storage client requires one open runtime and transport") ∧
      ¬LeavesClosed after := by
  refine ⟨by decide +kernel, by decide +kernel, by decide +kernel, by decide +kernel, ?_⟩
  intro hLeaves
  obtain ⟨error, hError⟩ := hLeaves.refuses.registerMemory (.ok {})
  cases hError

end NdsStorage.Client
