import NdsStorage.Server.Transfer

/-! The send queue of a worker. It has 128 entries, a batch may have 1024, and
a valid batch is handed to the queue in one piece. The queue itself never holds
more than its depth, because posts beyond it are refused; what is at stake is
whether the worker asks for more. -/
namespace NdsStorage.Server

open Bytes Interaction

variable {traffic : Traffic} {session : Session}

/-- A worker for one command in one slot. -/
def soloWorker (slotIndex : Nat) : Worker where
  qpIndex := 0
  commandCount := 1
  slots := [slotIndex]

section Solo

variable {slotIndex : Nat} {state : PendingCommand} {entries : StorageMemory}

/-- The only slot is posted and its message has arrived. -/
def soloArrived (traffic : Traffic) : Fabric :=
  { Fabric.initial with receives := [0] }.arrive traffic

/-- The message has been loaded and the descriptor fetch is posted. -/
def soloFetching (traffic : Traffic) (entries : StorageMemory) (length : UInt32) : Fabric :=
  let fabric := (soloArrived traffic).receive 0
  let fabric := fabric.record 0 (.loaded 0 (traffic.message 0))
  (fabric.post 0 1 (.fetch length)).record 0
    (.fetchPosted entries.address entries.remoteKey length)

/-- The worker receives its batch and posts the fetch. -/
theorem solo_receives (hParsed : parseCommand session.storageSize 0 slotIndex
      (traffic.message 0) = .ok (state, some entries))
    (hFetch : requestValid (kStorageMaxBatchEntries * kStorageBatchEntryBytes)
      (slotRequest entries.address entries.remoteKey (descriptorBytes state.entryCount))) :
    (fabricWorld traffic session).Reaches
      ((receiveCommand session (soloWorker slotIndex) 0).run,
        { Fabric.initial with receives := [0] })
      (.done (.ok { state with descriptorWrId := 0, descriptorPending := true }),
        soloFetching traffic entries (descriptorBytes state.entryCount)) := by
  have hArrive : (fabricWorld traffic session).Reaches
      ((receiveCommand session (soloWorker slotIndex) 0).run,
        { Fabric.initial with receives := [0] })
      ((receiveCommand session (soloWorker slotIndex) 0).run, soloArrived traffic) :=
    Relation.ReflTransGen.single (.drift ⟨Nat.zero_lt_one, rfl⟩)
  have hWait : (fabricWorld traffic session).Reaches (waitReceive.run, soloArrived traffic)
      (.done (.ok ()), (soloArrived traffic).receive 0) :=
    .ask (Reply.waitReceive Nat.zero_lt_one ⟨Nat.le_refl 0, Nat.le_refl 0⟩)
  have hLoad : (fabricWorld traffic session).Reaches
      ((loadCommand 0).run, (soloArrived traffic).receive 0)
      (.done (.ok (traffic.message 0)),
        ((soloArrived traffic).receive 0).record 0 (.loaded 0 (traffic.message 0))) :=
    (Environment.Reaches.ask Reply.loadCommand).bind _
  have hPost : (fabricWorld traffic session).Reaches
      ((postRead 0 entries.address entries.remoteKey (descriptorBytes state.entryCount)).run,
        ((soloArrived traffic).receive 0).record 0 (.loaded 0 (traffic.message 0)))
      (.done (.ok 0), soloFetching traffic entries (descriptorBytes state.entryCount)) :=
    .ask (Reply.postRead hFetch (show 0 + 1 ≤ kQpDepth by decide))
  refine hArrive.trans ((hWait.bindFallible _).trans ((hLoad.bindFallible _).trans ?_))
  have hSlot : (soloWorker slotIndex).slots.getD 0 0 = slotIndex := rfl
  rw [hSlot, hParsed]
  exact hPost.bindFallible _

/-- The descriptors have landed in the slot's buffer. -/
def soloFetched (traffic : Traffic) (entries : StorageMemory) (length : UInt32) : Fabric :=
  ({ soloFetching traffic entries length with retired := 1 }.land traffic 0 0 length).record 0
    .fetchWaited

/-- A payload starts with one call for all its requests. -/
theorem postPayload_calls {slot : Nat} {requests : List TransferRequest}
    (hSlot : state.slot = slot) (hRequests : state.requests = requests) :
    ∃ opcode next, (postPayload state).run =
      .call (.postTransferBatch slot opcode requests) next := by
  subst hSlot hRequests
  unfold postPayload postPayloadBatch
  cases state.storageRead with
  | false => exact ⟨.rdmaRead, _, rfl⟩
  | true => exact ⟨.rdmaWrite, _, rfl⟩

/-- With the descriptors in, the worker goes on to the call of its payload. -/
theorem solo_resolves (hParsed : parseCommand session.storageSize 0 slotIndex
      (traffic.message 0) = .ok (state, some entries))
    (hSuccess : (decodeBatch session.storageSize state (traffic.descriptors 0)).completion.status =
      .success) :
    ∃ opcode next, (fabricWorld traffic session).Reaches
      ((resolveBatch session { state with descriptorWrId := 0, descriptorPending := true }).run,
        soloFetching traffic entries (descriptorBytes state.entryCount))
      (.call (.postTransferBatch 0 opcode
          (decodeBatch session.storageSize state (traffic.descriptors 0)).requests) next,
        soloFetched traffic entries (descriptorBytes state.entryCount)) := by
  have hSlot := (parseCommand_accepted hParsed).slot_eq
  obtain ⟨-, -, -, hCount⟩ := parseCommand_batch hParsed
  have hWait : (fabricWorld traffic session).Reaches
      ((waitRead 0).run, soloFetching traffic entries (descriptorBytes state.entryCount))
      (.done (.ok ()), soloFetched traffic entries (descriptorBytes state.entryCount)) :=
    .ask (Reply.waitRead (by rfl) ⟨Nat.zero_le 1, Nat.le_refl 1⟩ Nat.zero_lt_one)
  have hLoad : (fabricWorld traffic session).Reaches
      ((loadEntries state.slot).run, soloFetched traffic entries (descriptorBytes state.entryCount))
      (.done (.ok (put (Fabric.initial.entryBytes 0) 0
          (slice (traffic.descriptors 0) 0 (descriptorBytes state.entryCount).toNat))),
        soloFetched traffic entries (descriptorBytes state.entryCount)) := by
    rw [hSlot]
    exact (Environment.Reaches.ask Reply.loadEntries).bind _
  have hBuffer : (Fabric.initial.entryBytes 0).length =
      kStorageMaxBatchEntries * kStorageBatchEntryBytes := List.length_replicate
  have hDecoded := decodeBatch_pending session.storageSize state (put (Fabric.initial.entryBytes 0) 0
    (slice (traffic.descriptors 0) 0 (descriptorBytes state.entryCount).toNat)) 0
  rw [decodeBatch_landed hBuffer hCount] at hDecoded
  have hStatus := congrArg (fun state => state.completion.status) hDecoded
  obtain ⟨opcode, next, hCalls⟩ := postPayload_calls
    ((congrArg PendingCommand.slot hDecoded).trans hSlot)
    (congrArg PendingCommand.requests hDecoded)
  refine ⟨opcode, next, (hWait.bindFallible _).trans ((hLoad.bindFallible _).trans ?_)⟩
  dsimp only
  rw [if_pos (hStatus.trans hSuccess), hCalls]

/-- A valid batch comes to the point where all its entries are handed to an
empty send queue at once. -/
theorem solo_posts_batch (hParsed : parseCommand session.storageSize 0 slotIndex
      (traffic.message 0) = .ok (state, some entries))
    (hFetch : requestValid (kStorageMaxBatchEntries * kStorageBatchEntryBytes)
      (slotRequest entries.address entries.remoteKey (descriptorBytes state.entryCount)))
    (hSuccess : (decodeBatch session.storageSize state (traffic.descriptors 0)).completion.status =
      .success) :
    ∃ opcode next fabric, WorkerReaches traffic session (soloWorker slotIndex)
        (.call (.postTransferBatch 0 opcode
          (decodeBatch session.storageSize state (traffic.descriptors 0)).requests) next) fabric ∧
      fabric.outstanding = 0 := by
  obtain ⟨opcode, next, hResolve⟩ := solo_resolves hParsed hSuccess
  have hPost : (fabricWorld traffic session).Reaches ((postReceive 0).run, Fabric.initial)
      (.done (.ok ()), { Fabric.initial with receives := [0] }) :=
    .ask (Reply.postReceive (show 0 < kQpDepth by decide))
  have hPosted : (fabricWorld traffic session).Reaches
      ((Fallible.collect postReceive (List.range 1)).run, Fabric.initial)
      (.done (.ok [()]), { Fabric.initial with receives := [0] }) := hPost.bindFallible _
  have hReceived := (solo_receives hParsed hFetch).bindFallible fun output => do
    let outputs ← Fallible.collect (receiveCommand session (soloWorker slotIndex)) []
    pure (output :: outputs)
  obtain ⟨next, hResolve⟩ := hResolve.callFallible fun output => do
    let outputs ← Fallible.collect (resolveBatch session) []
    pure (output :: outputs)
  obtain ⟨next, hResolve⟩ := hResolve.callFallible fun pending => do
    let _ ← Fallible.collect waitPayload pending
    let pending ← Fallible.collect (postCompletion session (soloWorker slotIndex)) pending
    let _ ← Fallible.collect (fun state => waitWrite state.completionWrId) pending
    pure pending
  have hWindow : (fabricWorld traffic session).Reaches
      ((runWindow session (soloWorker slotIndex) 1).run, { Fabric.initial with receives := [0] })
      (.call _ next, _) := (hReceived.bindFallible _).trans hResolve
  obtain ⟨next, hWindow⟩ := hWindow.callFallible fun pending => do
    repostReceives (soloWorker slotIndex) 1 pending
    runWindows session (soloWorker slotIndex) 0 1
  exact ⟨opcode, next, _, (hPosted.bindFallible _).trans hWindow, rfl⟩

end Solo

/-- At any point of any run the send queue holds no more than its depth. A
workload within the budget never asks it to: whatever the worker hands over
next still fits, however few completions have been polled. -/
theorem sendQueue_within_depth {workload : Workload} (hBudget : workload.SendBudget)
    {program : Program Call Call.Answer (Except Error Unit)} {fabric : Fabric}
    (hRun : WorkerReaches workload.traffic workload.session workload.worker program fabric) :
    fabric.outstanding ≤ kQpDepth ∧ ∀ call next, program = .call call next →
      fabric.outstanding + call.demand ≤ kQpDepth := by
  constructor
  · exact hRun.invariant.room
  · rintro call next rfl
    exact hRun.callSafe.fits hBudget

section Uniform

/-- A batch entry that reads the first eight bytes of the namespace. -/
def uniformEntry : StorageBatchEntry where
  offset := 0
  length := 8
  data := { address := 65536, length := 8, remoteKey := 5 }

def uniformEntryBytes : Buffer :=
  (serializeStorageBatchReadEntry uniformEntry (List.replicate kStorageBatchEntryBytes 0)).2

def uniformCommand (count : Nat) : StorageBatchCommand where
  commandId := 7
  entryCount := UInt64.ofNat count
  totalLength := UInt64.ofNat (count * 8)
  entries := { address := 4096, length := 40960, remoteKey := 5 }
  slotIndex := 0

/-- A client that reads the same bytes `count` times in one batch. -/
def uniformBatch (count : Nat) : Workload where
  traffic := {
    message := fun _ => commandLayout .batchRead (uniformCommand count).asTransfer kRemoteRead
      (List.replicate kStorageCommandBytes 0)
    descriptors := fun _ => (List.replicate count uniformEntryBytes).flatten
    message_length := fun _ => by simp }
  session := {
    storageSize := 64
    slots := [{
      command := { address := 8192, length := 64, remoteKey := 5 }
      completion := { address := 12288, length := 32, remoteKey := 5 }
      qpIndex := 0
      reserved := 0 }] }
  worker := soloWorker 0

theorem entriesFrom_uniform {count remaining index : Nat} (h : index + remaining ≤ count) :
    entriesFrom true (List.replicate count uniformEntryBytes).flatten remaining index =
      some (List.replicate remaining uniformEntry) := by
  induction remaining generalizing index with
  | zero => rfl
  | succ remaining ih =>
      have hLength : uniformEntryBytes.length = kStorageBatchEntryBytes := by decide +kernel
      have hDecoded : deserializeEntry true uniformEntryBytes = .ok uniformEntry := by
        decide +kernel
      have hSlice := slice_replicate uniformEntryBytes (show index < count by omega)
      rw [hLength] at hSlice
      have hEntry : entryAt true (List.replicate count uniformEntryBytes).flatten index =
          .ok uniformEntry := by
        rw [entryAt, hSlice, hDecoded]
      rw [entriesFrom, hEntry, ih (by omega)]
      rfl

variable {count : Nat}

theorem uniformCommand_parsed (hBounded : batchBounded (uniformCommand count))
    (hTotal : (uniformCommand count).totalLength ≠ 0) :
    parseCommand (uniformBatch count).session.storageSize 0 0
        ((uniformBatch count).traffic.message 0) =
      .ok (acceptBatch true (uniformCommand count) { slot := 0 },
        some (uniformCommand count).entries) := by
  have hLength : kStorageCommandBytes ≤ (List.replicate kStorageCommandBytes (0 : UInt8)).length :=
    Nat.le_of_eq List.length_replicate.symm
  have hId : (uniformCommand count).commandId ≠ 0 := (by decide : (7 : UInt64) ≠ 0)
  have hEntries : memoryValid (uniformCommand count).entries
      (entryArrayBytes (uniformCommand count).entryCount) := by
    simpa [memoryValid, uniformCommand] using hBounded.2
  have hOperation : deserializeStorageOperation ((uniformBatch count).traffic.message 0) =
      .ok .batchRead := deserializeStorageOperation_layout _ _ _ hLength
  have hDecoded : deserializeStorageBatchRead ((uniformBatch count).traffic.message 0) =
      .ok (uniformCommand count) :=
    deserializeBatch_layout hLength .batchRead _ hId hTotal hEntries hBounded
  simp only [parseCommand, hOperation, decodeOr, Except.mapError, bind, Except.bind]
  rw [parseBatch_ok]
  exact ⟨uniformCommand count, hDecoded, rfl, rfl, rfl⟩

/-- A bounded uniform batch whose total is right is valid. -/
theorem uniformBatch_valid (hBounded : batchBounded (uniformCommand count))
    (hCount : (uniformCommand count).entryCount.toNat = count)
    (hTotal : totalBytes (List.replicate count uniformEntry) =
      (uniformCommand count).totalLength.toNat) :
    (decodeBatch 64 (acceptBatch true (uniformCommand count) { slot := 0 })
        ((uniformBatch count).traffic.descriptors 0)).completion.status = .success ∧
      (decodeBatch 64 (acceptBatch true (uniformCommand count) { slot := 0 })
        ((uniformBatch count).traffic.descriptors 0)).requests.length = count := by
  have hEntries : entriesFrom true ((uniformBatch count).traffic.descriptors 0)
      (uniformCommand count).entryCount.toNat 0 = some (List.replicate count uniformEntry) := by
    rw [hCount]
    exact entriesFrom_uniform (Nat.le_of_eq (Nat.zero_add count))
  have hFit : ∀ entry ∈ List.replicate count uniformEntry,
      inNamespace 64 entry.offset entry.length := by
    intro entry hEntry
    rw [List.eq_of_mem_replicate hEntry]
    decide
  have hDescribed : describedBatch 64 true ((uniformBatch count).traffic.descriptors 0)
      (.ok (uniformCommand count)) = some (List.replicate count uniformEntry) := by
    simp only [describedBatch, hEntries]
    exact if_pos ⟨hFit, hTotal⟩
  have hVerdict : Verdict _ (decodeBatch 64 (acceptBatch true (uniformCommand count)
      { slot := 0 }) ((uniformBatch count).traffic.descriptors 0)) := decodeBatch_verdict hBounded
  rw [hDescribed] at hVerdict
  refine ⟨hVerdict.success_iff.mpr rfl, ?_⟩
  rw [hVerdict.requests_eq _ rfl, List.length_map, List.length_replicate]

/-- Such a batch is handed to the empty send queue in one piece. -/
theorem uniformBatch_posts (hBounded : batchBounded (uniformCommand count))
    (hCount : (uniformCommand count).entryCount.toNat = count)
    (hPositive : (uniformCommand count).totalLength ≠ 0)
    (hTotal : totalBytes (List.replicate count uniformEntry) =
      (uniformCommand count).totalLength.toNat)
    (hFetch : requestValid (kStorageMaxBatchEntries * kStorageBatchEntryBytes)
      (slotRequest 4096 5 (descriptorBytes (uniformCommand count).entryCount.toUInt32))) :
    ∃ call next fabric, WorkerReaches (uniformBatch count).traffic (uniformBatch count).session
        (uniformBatch count).worker (.call call next) fabric ∧
      fabric.outstanding = 0 ∧ call.demand = count := by
  obtain ⟨hSuccess, hLength⟩ := uniformBatch_valid hBounded hCount hTotal
  obtain ⟨opcode, next, fabric, hRun, hEmpty⟩ :=
    solo_posts_batch (uniformCommand_parsed hBounded hPositive) hFetch hSuccess
  exact ⟨_, next, fabric, hRun, hEmpty, hLength⟩

/-- A valid batch of 129 entries is handed to an empty send queue of depth 128. -/
theorem sendQueue_overrun_uniformBatch : ∃ call next fabric,
    WorkerReaches (uniformBatch 129).traffic (uniformBatch 129).session (uniformBatch 129).worker
      (.call call next) fabric ∧ kQpDepth < fabric.outstanding + call.demand := by
  have hBounded : batchBounded (uniformCommand 129) := by
    unfold batchBounded
    decide
  obtain ⟨call, next, fabric, hRun, hEmpty, hDemand⟩ := uniformBatch_posts hBounded rfl
    (by decide) (by decide +kernel) (by decide)
  refine ⟨call, next, fabric, hRun, ?_⟩
  rw [hEmpty, hDemand]
  decide

theorem uniformBatch_budget : (uniformBatch 2).SendBudget := by
  rintro base index entries state - hBase hIndex - -
  have hBase : base = 0 := Nat.lt_one_iff.mp hBase
  subst hBase
  have hIndex : index = 0 := Nat.lt_one_iff.mp (Nat.lt_of_lt_of_le hIndex (Nat.min_le_right ..))
  subst hIndex
  decide +kernel

/-- Two entries are within the budget, up to the moment when they are handed over. -/
theorem sendQueue_fits_uniformBatch : (uniformBatch 2).SendBudget ∧
    ∃ call next fabric, WorkerReaches (uniformBatch 2).traffic (uniformBatch 2).session
      (uniformBatch 2).worker (.call call next) fabric ∧ call.demand = 2 ∧
      fabric.outstanding + call.demand ≤ kQpDepth := by
  have hBounded : batchBounded (uniformCommand 2) := by
    unfold batchBounded
    decide
  obtain ⟨call, next, fabric, hRun, -, hDemand⟩ := uniformBatch_posts hBounded rfl
    (by decide) (by decide +kernel) (by decide)
  exact ⟨uniformBatch_budget, call, next, fabric, hRun, hDemand,
    (sendQueue_within_depth uniformBatch_budget hRun).2 call next rfl⟩

end Uniform

end NdsStorage.Server
