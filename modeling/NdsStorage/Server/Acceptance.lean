import NdsStorage.Protocol.Wire
import NdsStorage.Server.Transfer

/-! What the deserializers accept, compared with what the serializers emit. The
two agree on every record but one: a batch command with no entries is accepted
although no serializer writes it, and the worker then asks for an empty fetch. -/
namespace NdsStorage.Server

open Bytes Interaction

section Accepted

variable {bytes : Buffer}

theorem deserializeTransfer_valid {operation : StorageOperation} {access : UInt32}
    {command : StorageTransferCommand}
    (h : deserializeTransfer operation access bytes = .ok command) : TransferValid command := by
  obtain ⟨hDecoded, hCovered⟩ := deserializeTransfer_ok h
  obtain ⟨hId, hLength, hMemory⟩ := deserializeCommand_ok hDecoded
  obtain ⟨hAddress, hKey, -⟩ := memoryValid_iff.mp hMemory
  exact ⟨hId, hLength, hAddress, hKey, UInt64.le_iff_toNat_le.mp hCovered⟩

/-- The second number of a command starts at its sixteenth byte. -/
theorem deserializeCommand_offset {operation : StorageOperation} {access : UInt32}
    {command : StorageTransferCommand}
    (h : deserializeCommand operation access bytes = .ok command) :
    command.offset = readU64 bytes 16 := by
  unfold deserializeCommand at h
  split at h
  · cases h
  · split at h
    · cases h
    · dsimp only at h
      split at h
      · cases h
      · cases h
        rfl

/-- The entry count is the one in the message. -/
theorem deserializeBatch_count {operation : StorageOperation} {command : StorageBatchCommand}
    (h : deserializeBatch operation bytes = .ok command) :
    command.entryCount = readU64 bytes 16 :=
  deserializeCommand_offset (deserializeBatch_ok h).1

/-- An accepted batch is valid up to its number of entries. -/
theorem deserializeBatch_valid_iff {operation : StorageOperation} {command : StorageBatchCommand}
    (h : deserializeBatch operation bytes = .ok command) :
    BatchValid command ↔ readU64 bytes 16 ≠ 0 := by
  obtain ⟨hDecoded, hBounded⟩ := deserializeBatch_ok h
  obtain ⟨hId, hTotal, hMemory⟩ := deserializeCommand_ok hDecoded
  obtain ⟨hAddress, hKey, -⟩ := memoryValid_iff.mp hMemory
  have hEntries : memoryValid command.entries (entryArrayBytes command.entryCount) = true :=
    memoryValid_iff.mpr ⟨hAddress, hKey, UInt64.le_iff_toNat_le.mp hBounded.2⟩
  rw [batchValid_iff, ← deserializeBatch_count h]
  exact ⟨fun hValid => hValid.1, fun hSome => ⟨hSome, hBounded, hId, hTotal, hEntries⟩⟩

theorem deserializeBatchEntry_valid {access : UInt32} {entry : StorageBatchEntry}
    (h : deserializeBatchEntry access bytes = .ok entry) : EntryValid entry := by
  unfold deserializeBatchEntry at h
  split at h
  · cases h
  · split at h
    · cases h
    · dsimp only at h
      split at h
      · cases h
      · rename_i hValid
        cases h
        simp only [not_or, Decidable.not_not] at hValid
        exact ⟨hValid.1, memoryValid_iff.mp hValid.2⟩

theorem deserializeCompletionWords_valid {completion : CompletionWords}
    (h : deserializeCompletionWords bytes = .ok completion) : CompletionValid completion := by
  unfold deserializeCompletionWords at h
  split at h
  · cases h
  · split at h
    · cases h
    · dsimp only at h
      split at h
      · rename_i hValid
        cases h
        exact completionWordsValid_iff.mp hValid
      · cases h

/-- A bootstrap record that is read back is valid. -/
theorem deserializeStorageBootstrap_valid {bootstrap : StorageBootstrap}
    (h : deserializeStorageBootstrap bytes = .ok bootstrap) : BootstrapValid bootstrap := by
  unfold deserializeStorageBootstrap at h
  split at h
  · cases h
  · split at h
    · cases h
    · dsimp only at h
      split at h
      · rename_i hValid
        cases h
        exact bootstrapValid_iff.mp hValid.2
      · cases h

/-- A namespace record that is read back is valid. -/
theorem deserializeStorageNamespace_valid {storageNamespace : StorageNamespace}
    (h : deserializeStorageNamespace bytes = .ok storageNamespace) :
    NamespaceValid storageNamespace := by
  unfold deserializeStorageNamespace at h
  split at h
  · cases h
  · split at h
    · cases h
    · split at h
      · rename_i hCapacity
        cases h
        exact hCapacity
      · cases h

end Accepted

/-- An empty fetch never succeeds. -/
theorem emptyFetch_refused {traffic : Traffic} {session : Session} {fabric fabric' : Fabric}
    {slot : Nat} {address : UInt64} {key : UInt32} {answer : Except Error Nat}
    (h : Reply traffic session fabric (.postRead slot address key 0) answer fabric') :
    ∃ error, answer = .error error := by
  cases h with
  | postRead hValid hRoom => exact absurd rfl hValid.1
  | failed hFailure hRoom => exact ⟨_, (Option.some.inj hFailure).symm⟩

/-- In a run, a fetch is empty when the command in its slot announces no entries. -/
theorem fetch_empty_iff {workload : Workload} {slot : Nat} {address : UInt64}
    {key length : UInt32} {next : Except Error Nat → Program Call Call.Answer (Except Error Unit)}
    {fabric : Fabric}
    (hRun : WorkerReaches workload.traffic workload.session workload.worker
      (.call (.postRead slot address key length) next) fabric) :
    length ≠ 0 ↔ readU64 (workload.traffic.message (fabric.current slot)) 16 ≠ 0 := by
  have hNext := hRun.callSafe.planned slot _ rfl
  obtain ⟨operation, batch, -, hBatch, -, -, hLength, -⟩ :=
    planned_fetch (hNext.subset (List.mem_append_right _ (List.mem_singleton_self _)))
  rw [← deserializeBatch_count hBatch, not_iff_not, ← UInt32.toNat_inj, ← UInt64.toNat_inj, hLength]
  change _ * 40 = 0 ↔ _ = 0
  omega

/-- Whatever a deserializer accepts, the matching serializer can send on, unless
it is a batch command that announces no entries. In a run the fetches of a
worker are empty for these commands only, and an empty fetch is refused. -/
theorem accepted_resends_iff (bytes : Buffer) :
    (∀ command, deserializeStorageRead bytes = .ok command → readFormat.Resends command) ∧
    (∀ command, deserializeStorageWrite bytes = .ok command → writeFormat.Resends command) ∧
    (∀ command, deserializeStorageBatchRead bytes = .ok command →
      (batchReadFormat.Resends command ↔ readU64 bytes 16 ≠ 0)) ∧
    (∀ command, deserializeStorageBatchWrite bytes = .ok command →
      (batchWriteFormat.Resends command ↔ readU64 bytes 16 ≠ 0)) ∧
    (∀ entry, deserializeStorageBatchReadEntry bytes = .ok entry →
      batchReadEntryFormat.Resends entry) ∧
    (∀ entry, deserializeStorageBatchWriteEntry bytes = .ok entry →
      batchWriteEntryFormat.Resends entry) ∧
    (∀ completion, deserializeCompletionWords bytes = .ok completion →
      completionFormat.Resends completion) ∧
    (∀ bootstrap, deserializeStorageBootstrap bytes = .ok bootstrap →
      bootstrapFormat.Resends bootstrap) ∧
    (∀ storageNamespace, deserializeStorageNamespace bytes = .ok storageNamespace →
      namespaceFormat.Resends storageNamespace) ∧
    (∀ (workload : Workload) slot address key length next fabric,
      WorkerReaches workload.traffic workload.session workload.worker
        (.call (.postRead slot address key length) next) fabric →
      (length ≠ 0 ↔ readU64 (workload.traffic.message (fabric.current slot)) 16 ≠ 0) ∧
      (length = 0 → ∀ answer fabric', Reply workload.traffic workload.session fabric
        (.postRead slot address key length) answer fabric' → ∃ error, answer = .error error)) := by
  refine ⟨?_, ?_, ?_, ?_, ?_, ?_, ?_, ?_, ?_, ?_⟩
  · intro command h
    exact ((transfer_laidOut .read kRemoteWrite).resends_iff command).mpr
      (deserializeTransfer_valid h)
  · intro command h
    exact ((transfer_laidOut .write kRemoteRead).resends_iff command).mpr
      (deserializeTransfer_valid h)
  · intro command h
    exact ((batch_laidOut .batchRead).resends_iff command).trans (deserializeBatch_valid_iff h)
  · intro command h
    exact ((batch_laidOut .batchWrite).resends_iff command).trans (deserializeBatch_valid_iff h)
  · intro entry h
    exact ((entry_laidOut kRemoteWrite).resends_iff entry).mpr (deserializeBatchEntry_valid h)
  · intro entry h
    exact ((entry_laidOut kRemoteRead).resends_iff entry).mpr (deserializeBatchEntry_valid h)
  · intro completion h
    exact (completion_laidOut.resends_iff completion).mpr (deserializeCompletionWords_valid h)
  · intro bootstrap h
    exact (bootstrap_laidOut.resends_iff bootstrap).mpr (deserializeStorageBootstrap_valid h)
  · intro storageNamespace h
    exact (namespace_laidOut.resends_iff storageNamespace).mpr
      (deserializeStorageNamespace_valid h)
  · intro workload slot address key length next fabric hRun
    refine ⟨fetch_empty_iff hRun, ?_⟩
    rintro rfl answer fabric' hReply
    exact emptyFetch_refused hReply

/-- A batch read of no entries that announces eight bytes. -/
def emptyBatch : StorageBatchCommand where
  commandId := 7
  entryCount := 0
  totalLength := 8
  entries := { address := 4096, length := 40, remoteKey := 5 }
  slotIndex := 0

/-- One worker with one slot, and a peer that sends the empty batch. -/
def emptyBatchRead : Workload where
  traffic := {
    message := fun _ => commandLayout .batchRead emptyBatch.asTransfer kRemoteRead
      (List.replicate kStorageCommandBytes 0)
    descriptors := fun _ => []
    message_length := fun _ => by simp }
  session := singleRead.session
  worker := singleRead.worker

/-- The next call of a worker fails. -/
def failNext (error : Error) : Config → Config
  | (.done result, fabric) => (.done result, fabric)
  | (.call call next, fabric) =>
      match call.failure error with
      | some answer => (next answer, fabric.fail error 0 call)
      | none => (.call call next, fabric)

/-- Failing the next call is a step. -/
theorem failNext_reaches {traffic : Traffic} {session : Session} (error : Error) {config : Config}
    (hRoom : config.2.outstanding ≤ kQpDepth) :
    (fabricWorld traffic session).Reaches config (failNext error config) := by
  obtain ⟨program, fabric⟩ := config
  cases program with
  | done result => exact Relation.ReflTransGen.refl
  | call call next =>
      simp only [failNext]
      split
      · rename_i answer hFailure
        exact Relation.ReflTransGen.single (.reply (.failed hFailure hRoom))
      · exact Relation.ReflTransGen.refl

/-- The empty batch is accepted, no serializer writes it, and the worker ends
with the error of its empty fetch. -/
theorem emptyBatch_aborts :
    deserializeStorageBatchRead (emptyBatchRead.traffic.message 0) = .ok emptyBatch ∧
    (serializeStorageBatchRead emptyBatch (emptyBatchRead.traffic.message 0)).1 =
      .error .invalidRecord ∧
    ¬ batchReadFormat.Resends emptyBatch ∧
    ∃ fabric, WorkerReaches emptyBatchRead.traffic emptyBatchRead.session emptyBatchRead.worker
      (.done (.error { code := .invalidArgument, message := "invalid RDMA transfer range" }))
      fabric := by
  have hSize : kStorageCommandBytes ≤ (List.replicate kStorageCommandBytes (0 : UInt8)).length :=
    Nat.le_of_eq List.length_replicate.symm
  have hAccepted : deserializeBatch .batchRead (commandLayout .batchRead emptyBatch.asTransfer
      kRemoteRead (List.replicate kStorageCommandBytes 0)) = .ok emptyBatch :=
    deserializeBatch_layout hSize .batchRead emptyBatch (by decide) (by decide) (by decide)
      ⟨by decide, by decide⟩
  refine ⟨hAccepted, rfl, ?_, ?_⟩
  · intro hResends
    have hValid := ((batch_laidOut .batchRead).resends_iff emptyBatch).mp hResends
    exact absurd hValid.2.2.1 (by decide)
  · let error : Error := { code := .invalidArgument, message := "invalid RDMA transfer range" }
    let config := runFor emptyBatchRead.traffic emptyBatchRead.session emptyBatchRead.worker 1 4
    have hRun : (fabricWorld emptyBatchRead.traffic emptyBatchRead.session).Reaches
        ((runWorker emptyBatchRead.session emptyBatchRead.worker).run, Fabric.initial) config :=
      execute_reaches 1 4 _
    have hRoom : config.2.outstanding ≤ kQpDepth := by decide +kernel
    have hEnded : (failNext error config).1 = .done (.error error) :=
      Config.outcome?_eq (by decide +kernel)
    refine ⟨(failNext error config).2, ?_⟩
    rw [← hEnded]
    exact hRun.trans (failNext_reaches error hRoom)

end NdsStorage.Server
