import NdsStorage.Protocol.Wire
import NdsStorage.System.Verdict

/-! What the host client accepts, the server serves. The checks of the client
and those of the worker are separate code: the client adds up 32-bit totals
against its capacity, the worker decodes the message and the entries again and
compares them with the size of the namespace. -/
namespace NdsStorage.System

open Bytes Interaction Server Client

section Host

variable {context : RaStorageContext} {memory memory' : DeviceMemory} {write : CommandWriter}
  {expected : UInt64} {outcomes : RaOutcomes}

/-- The command that a successful submission of the host leaves in its buffer. -/
theorem raExecute_message
    (h : raExecute context memory write expected outcomes = (.ok (), memory')) :
    write (memory.states context.slotIndex.toNat).commandId context.slotIndex =
      (.ok (), memory'.commandBytes context.slotIndex.toNat) := by
  unfold raExecute at h
  dsimp only at h
  split at h
  · cases h
  · rename_i claimed hClaim
    obtain ⟨-, hId, -, -, -, -, rfl⟩ := raClaim_eq_ok hClaim
    rw [serializePending_eq hId] at h
    dsimp only at h
    split at h
    · cases h
    · split at h
      · cases h
      · rename_i message hMessage
        split at h
        · cases h
        · split at h
          · cases h
          · cases h
            rw [hMessage]
            simp [DeviceMemory.setState]

/-- The entries that pass the checks of the host, one by one. -/
theorem raSumEntries_described {capacity : UInt64} {storageRead : Bool} {bytes : Buffer}
    {remaining index : Nat} {total sum : UInt64}
    (h : raSumEntries capacity (deserializeEntry storageRead) bytes remaining index total =
      .ok sum) (hTotal : total ≤ kMaxUInt32) :
    ∃ entries, entriesFrom storageRead bytes remaining index = some entries ∧
      (∀ entry ∈ entries, inNamespace capacity entry.offset entry.length ∧ EntryValid entry) ∧
      total.toNat + totalBytes entries = sum.toNat := by
  induction remaining generalizing index total with
  | zero =>
      cases h
      exact ⟨[], rfl, by simp, rfl⟩
  | succ remaining ih =>
      rw [raSumEntries] at h
      cases hEntry : deserializeEntry storageRead
          (slice bytes (index * kStorageBatchEntryBytes) kStorageBatchEntryBytes) with
      | error failure => simp [hEntry] at h
      | ok entry =>
          simp only [hEntry] at h
          split at h
          · cases h
          · rename_i hChecked
            simp only [not_or, gt_iff_lt, UInt64.not_lt] at hChecked
            obtain ⟨hSome, hAddress, hKey, hCovered, hStart, hEnd, hSmall, hRoom⟩ := hChecked
            have hFit : outOfRange capacity entry.offset entry.length = false := by
              simp only [outOfRange, Bool.or_eq_false_iff, decide_eq_false_iff_not, gt_iff_lt,
                UInt64.not_lt]
              exact ⟨⟨hStart, hEnd⟩, hSmall⟩
            have hSum : (total + entry.length).toNat = total.toNat + entry.length.toNat := by
              rw [UInt64.le_iff_toNat_le] at hSmall hRoom
              have hWidth : kMaxUInt32.toNat = 4294967295 := rfl
              rw [UInt64.toNat_sub_of_le _ _ (UInt64.le_iff_toNat_le.mpr hSmall)] at hRoom
              rw [UInt64.toNat_add]
              omega
            have hNext : total + entry.length ≤ kMaxUInt32 := by
              rw [UInt64.le_iff_toNat_le, hSum]
              rw [UInt64.le_iff_toNat_le,
                UInt64.toNat_sub_of_le _ _ hSmall] at hRoom
              rw [UInt64.le_iff_toNat_le] at hSmall
              omega
            obtain ⟨rest, hRest, hValid, hBytes⟩ := ih h hNext
            refine ⟨entry :: rest, ?_, ?_, ?_⟩
            · simp only [entriesFrom, Server.entryAt, hEntry, hRest]
            · intro other hOther
              rcases List.mem_cons.mp hOther with rfl | hOther
              · exact ⟨outOfRange_iff.mp hFit, hSome, hAddress, hKey,
                  UInt64.le_iff_toNat_le.mp hCovered⟩
              · exact hValid other hOther
            · simp only [totalBytes, List.map_cons, List.sum_cons] at hBytes ⊢
              omega

/-- The entries that the host accepts are those that the server reads. -/
theorem raDecodeEntries_described {args : BatchArgs} {storageRead : Bool} {bytes : Buffer}
    {copied : Except Error Unit} {total : UInt64}
    (h : raDecodeEntries context args (deserializeEntry storageRead) (copied.map fun _ => bytes) =
      .ok total) :
    ∃ entries, entriesFrom storageRead bytes args.entryCount.toNat 0 = some entries ∧
      (∀ entry ∈ entries, inNamespace context.capacity entry.offset entry.length ∧
        EntryValid entry) ∧
      totalBytes entries = total.toNat := by
  unfold raDecodeEntries at h
  split at h
  · cases h
  · cases copied with
    | error error => cases h
    | ok _ =>
        obtain ⟨entries, hEntries, hValid, hBytes⟩ := raSumEntries_described h (by decide)
        exact ⟨entries, hEntries, hValid, by simpa using hBytes⟩

/-- Entries only depend on the bytes of the array. -/
theorem entriesFrom_congr {storageRead : Bool} {first second : Buffer} {total : Nat}
    (h : slice first 0 total = slice second 0 total) {count index : Nat}
    (hInside : (index + count) * kStorageBatchEntryBytes ≤ total) :
    entriesFrom storageRead first count index = entriesFrom storageRead second count index := by
  induction count generalizing index with
  | zero => rfl
  | succ count ih =>
      have hSlice : slice first (index * kStorageBatchEntryBytes) kStorageBatchEntryBytes =
          slice second (index * kStorageBatchEntryBytes) kStorageBatchEntryBytes := by
        apply List.map_congr_left
        intro position hPosition
        rw [List.mem_range] at hPosition
        have hByte := List.map_inj_left.mp h (index * kStorageBatchEntryBytes + position)
        simp only [Nat.zero_add, List.mem_range] at hByte
        apply hByte
        simp only [kStorageBatchEntryBytes] at hPosition hInside ⊢
        omega
      simp only [entriesFrom, Server.entryAt, hSlice]
      rw [ih (by simp only [kStorageBatchEntryBytes] at hInside ⊢; omega)]

end Host

/-- The client does not touch the entries of a batch until the server has fetched them. -/
def Unchanged (submission : Submission) (descriptors : Buffer) : Prop :=
  match submission with
  | .read _ | .write _ => True
  | .batchRead args entries | .batchWrite args entries =>
      slice descriptors 0 (args.entryCount.toNat * kStorageBatchEntryBytes) =
        slice entries 0 (args.entryCount.toNat * kStorageBatchEntryBytes)

/-- A message that a worker with this namespace accepts in this slot, and whose
transfers are all usable. -/
structure Servable (size : UInt64) (slotIndex : Nat) (message descriptors : Buffer) : Prop where
  parsed : ∀ slot, ∃ parsed, parseCommand size slot slotIndex message = .ok parsed
  described : ∃ entries, described size message descriptors = some entries ∧ entries ≠ [] ∧
    ∀ entry ∈ entries, EntryValid entry
  fetched : ∀ operation batch, operation = .batchRead ∨ operation = .batchWrite →
    deserializeBatch operation message = .ok batch → BatchValid batch

section Commands

variable {size : UInt64} {slotIndex : Nat} {message descriptors : Buffer}
  {operation : StorageOperation}

/-- A transfer within the namespace is served. -/
theorem transfer_servable {command : StorageTransferCommand}
    (hKind : operation = .read ∨ operation = .write) (hValid : TransferValid command)
    (h : deserializeTransfer operation (transferAccess operation) message = .ok command)
    (hSlot : command.slotIndex.toNat = slotIndex)
    (hFit : inNamespace size command.offset command.length) :
    Servable size slotIndex message descriptors := by
  have hOperation := deserializeCommand_operation (deserializeTransfer_ok h).1
  have hDescribed : describedTransfer size (.ok command) =
      some [{ offset := command.offset, length := command.length, data := command.data }] :=
    if_pos hFit
  refine ⟨fun slot => ?_, ⟨[{
    offset := command.offset
    length := command.length
    data := command.data }], ?_, List.cons_ne_nil _ _, ?_⟩, ?_⟩
  · simp only [parseCommand, hOperation, decodeOr, Except.mapError, bind, Except.bind]
    rcases hKind with rfl | rfl
    · exact ⟨_, parseTransfer_ok.mpr ⟨command, h, hSlot, rfl, rfl⟩⟩
    · exact ⟨_, parseTransfer_ok.mpr ⟨command, h, hSlot, rfl, rfl⟩⟩
  · rw [Server.described, hOperation, ← hDescribed]
    rcases hKind with rfl | rfl
    · exact congrArg (describedTransfer size) h
    · exact congrArg (describedTransfer size) h
  · intro entry hEntry
    cases List.mem_singleton.mp hEntry
    exact hValid.2
  · intro other batch hOther hBatch
    have hSame := deserializeCommand_operation (deserializeBatch_ok hBatch).1
    rw [hOperation] at hSame
    cases hSame
    rcases hKind with rfl | rfl
    · simp at hOther
    · simp at hOther

theorem batch_servable {command : StorageBatchCommand} {entries : List StorageBatchEntry}
    (hKind : operation = .batchRead ∨ operation = .batchWrite) (hValid : BatchValid command)
    (h : deserializeBatch operation message = .ok command)
    (hSlot : command.slotIndex.toNat = slotIndex)
    (hEntries : entriesFrom operation.isRead descriptors command.entryCount.toNat 0 = some entries)
    (hFit : ∀ entry ∈ entries, inNamespace size entry.offset entry.length ∧ EntryValid entry)
    (hTotal : totalBytes entries = command.totalLength.toNat) :
    Servable size slotIndex message descriptors := by
  have hOperation := deserializeCommand_operation (deserializeBatch_ok h).1
  have hDescribed : describedBatch size operation.isRead descriptors (.ok command) =
      some entries := by
    simp only [describedBatch, hEntries]
    exact if_pos ⟨fun entry hEntry => (hFit entry hEntry).1, hTotal⟩
  refine ⟨fun slot => ?_, ⟨entries, ?_, ?_, fun entry hEntry => (hFit entry hEntry).2⟩, ?_⟩
  · simp only [parseCommand, hOperation, decodeOr, Except.mapError, bind, Except.bind]
    rcases hKind with rfl | rfl
    · exact ⟨_, parseBatch_ok.mpr ⟨command, h, hSlot, rfl, rfl⟩⟩
    · exact ⟨_, parseBatch_ok.mpr ⟨command, h, hSlot, rfl, rfl⟩⟩
  · rw [Server.described, hOperation, ← hDescribed]
    rcases hKind with rfl | rfl
    · exact congrArg (describedBatch size true descriptors) h
    · exact congrArg (describedBatch size false descriptors) h
  · rintro rfl
    have hLength := entriesFrom_length hEntries
    have hSome := hValid.2.2.1
    simp only [List.length_nil] at hLength
    omega
  · intro other batch hOther hBatch
    have hSame := deserializeCommand_operation (deserializeBatch_ok hBatch).1
    rw [hOperation] at hSame
    cases hSame
    rw [h] at hBatch
    cases hBatch
    exact hValid

end Commands

section Submissions

variable {context : RaStorageContext} {memory memory' : DeviceMemory} {outcomes : RaOutcomes}
  {operation : StorageOperation} {descriptors : Buffer}

/-- A transfer that the host submits is served. -/
theorem raStorageTransfer_servable {invalid : String} {args : TransferArgs}
    (hKind : operation = .read ∨ operation = .write)
    (h : raStorageTransfer invalid (serializeTransfer operation (transferAccess operation)) context
      memory args outcomes = (.ok (), memory')) :
    Servable context.capacity context.slotIndex.toNat
      (memory'.commandBytes context.slotIndex.toNat) descriptors := by
  unfold raStorageTransfer at h
  split at h
  · cases h
  · rename_i hChecked
    simp only [not_or, gt_iff_lt, UInt64.not_lt] at hChecked
    obtain ⟨hStart, hSome, hEnd, hAddress, hKey⟩ := hChecked
    obtain ⟨hValid, hDecoded⟩ := (transfer_laidOut operation _).of_written
      (Nat.le_of_eq List.length_replicate.symm) (raExecute_message h)
    refine transfer_servable hKind hValid hDecoded rfl ?_
    apply outOfRange_iff.mp
    simp only [outOfRange, Bool.or_eq_false_iff, decide_eq_false_iff_not, gt_iff_lt, UInt64.not_lt]
    refine ⟨⟨hStart, hEnd⟩, ?_⟩
    rw [UInt64.le_iff_toNat_le]
    change args.length.toUInt64.toNat ≤ 4294967295
    have hWidth := args.length.toNat_lt
    rw [UInt32.toNat_toUInt64]
    omega

theorem raStorageBatch_servable {args : BatchArgs} {entries : Buffer}
    (hKind : operation = .batchRead ∨ operation = .batchWrite)
    (h : raStorageBatch (serializeBatch operation) (deserializeEntry operation.isRead) context
      memory args entries outcomes = (.ok (), memory'))
    (hUnchanged : slice descriptors 0 (args.entryCount.toNat * kStorageBatchEntryBytes) =
      slice entries 0 (args.entryCount.toNat * kStorageBatchEntryBytes)) :
    Servable context.capacity context.slotIndex.toNat
      (memory'.commandBytes context.slotIndex.toNat) descriptors := by
  unfold raStorageBatch at h
  split at h
  · cases h
  · rename_i total hTotal
    obtain ⟨hValid, hDecoded⟩ := (batch_laidOut operation).of_written
      (Nat.le_of_eq List.length_replicate.symm) (raExecute_message h)
    obtain ⟨list, hList, hFit, hSum⟩ := raDecodeEntries_described hTotal
    refine batch_servable hKind hValid hDecoded rfl ?_ hFit hSum
    change entriesFrom _ _ args.entryCount.toUInt64.toNat 0 = _
    rw [UInt32.toNat_toUInt64, entriesFrom_congr hUnchanged (Nat.le_of_eq (by rw [Nat.zero_add]))]
    exact hList

theorem raSubmit_servable {submission : Submission}
    (h : raSubmit context memory submission outcomes = (.ok (), memory'))
    (hUnchanged : Unchanged submission descriptors) :
    Servable context.capacity context.slotIndex.toNat
      (memory'.commandBytes context.slotIndex.toNat) descriptors := by
  cases submission with
  | read args => exact raStorageTransfer_servable (.inl rfl) h
  | write args => exact raStorageTransfer_servable (.inr rfl) h
  | batchRead args entries => exact raStorageBatch_servable (.inl rfl) h hUnchanged
  | batchWrite args entries => exact raStorageBatch_servable (.inr rfl) h hUnchanged

end Submissions

section Requests

/-- The check of a remote range does not overflow. -/
theorem remoteEnd_le {address : UInt64} {length : UInt32}
    (h : address.toNat + length.toNat < 2 ^ 64) : address ≤ kMaxU64 - length.toUInt64 := by
  have hLast : kMaxU64.toNat = 2 ^ 64 - 1 := rfl
  have hWidth := length.toNat_lt
  have hLength : length.toUInt64 ≤ kMaxU64 := by
    rw [UInt64.le_iff_toNat_le, UInt32.toNat_toUInt64, hLast]
    omega
  rw [UInt64.le_iff_toNat_le, UInt64.toNat_sub_of_le _ _ hLength, UInt32.toNat_toUInt64, hLast]
  omega

/-- Below the end of the address space, a usable entry passes the checks of the transport. -/
theorem entryRequest_valid {size : UInt64} {entry : StorageBatchEntry}
    (hFit : inNamespace size entry.offset entry.length) (hValid : EntryValid entry)
    (hEnd : (entryRequest entry).remoteAddress.toNat + (entryRequest entry).length.toNat < 2 ^ 64) :
    requestValid size.toNat (entryRequest entry) := by
  have hOffset : (entryRequest entry).localOffset = entry.offset := rfl
  have hInside := hFit.1
  have hWidth := hFit.2
  have hLength : (entryRequest entry).length.toNat = entry.length.toNat := by
    rw [entryRequest, transferRequest, UInt64.toNat_toUInt32]
    exact Nat.mod_eq_of_lt (by omega)
  refine ⟨?_, ?_, ?_, hValid.2.1, hValid.2.2.1, remoteEnd_le hEnd⟩
  · intro hZero
    rw [hZero] at hLength
    exact hValid.1 (UInt64.toNat_inj.mp hLength.symm)
  · rw [hOffset]
    omega
  · rw [hOffset, hLength]
    omega

/-- The fetch of the descriptors is a valid request. -/
theorem fetchRequest_valid {batch : StorageBatchCommand} {length : UInt32}
    (hValid : BatchValid batch)
    (hLength : length.toNat = batch.entryCount.toNat * kStorageBatchEntryBytes)
    (hInside : length.toNat ≤ kStorageMaxBatchEntries * kStorageBatchEntryBytes)
    (hEnd : batch.entries.address.toNat + length.toNat < 2 ^ 64) :
    requestValid (kStorageMaxBatchEntries * kStorageBatchEntryBytes)
      (slotRequest batch.entries.address batch.entries.remoteKey length) := by
  obtain ⟨-, -, hSome, -, hAddress, hKey, -⟩ := hValid
  refine ⟨?_, Nat.zero_le _, hInside, hAddress, hKey, remoteEnd_le hEnd⟩
  intro hZero
  have hEmpty : length = 0 := hZero
  rw [hEmpty] at hLength
  change 0 = _ * 40 at hLength
  omega

end Requests

section Runs

variable {workload : Workload} {program : Program Call Call.Answer (Except Error Unit)}
  {fabric : Fabric} {command : Nat} {context : RaStorageContext} {memory memory' : DeviceMemory}
  {submission : Submission} {outcomes : RaOutcomes}

/-- A command that the host has submitted, received in the slot of the worker
that it names by a server whose namespace has the capacity the host checked
against. The worker does not refuse it, the transport has no reason to refuse
what is posted for it, and it is answered with success and with the bytes the
host expects. A worker that ends without a transport failure either has
answered it or refused another message. -/
theorem submission_served
    (hRun : WorkerReaches workload.traffic workload.session workload.worker program fabric)
    (hSubmit : raSubmit context memory submission outcomes = (.ok (), memory'))
    (hCapacity : context.capacity = workload.session.storageSize)
    (hSlot : workload.worker.slots[workload.slotOf command]? = some context.slotIndex.toNat)
    (hMessage : workload.traffic.message command = memory'.commandBytes context.slotIndex.toNat)
    (hUnchanged : Unchanged submission (workload.traffic.descriptors command)) :
    (∃ parsed, workload.parsed command = .ok parsed) ∧
    (∀ slot address key length next, program = .call (.postRead slot address key length) next →
      fabric.current slot = command → address.toNat + length.toNat < 2 ^ 64 →
      requestValid (kStorageMaxBatchEntries * kStorageBatchEntryBytes)
        (slotRequest address key length)) ∧
    (∀ slot opcode requests next,
      program = .call (.postTransferBatch slot opcode requests) next →
      fabric.current slot = command → requests ≠ [] ∧ ∀ request ∈ requests,
        request.remoteAddress.toNat + request.length.toNat < 2 ^ 64 →
        requestValid workload.session.storageSize.toNat request) ∧
    (∀ address key length record,
      .completionPosted address key length record ∈ fabric.history command →
      ∃ completion, deserializeStorageCompletion record = .ok completion ∧
        completion.state = .complete ∧ completion.status = .success ∧
        completion.commandId = (memory'.states context.slotIndex.toNat).commandId ∧
        completion.bytesTransferred =
          (memory'.states context.slotIndex.toNat).expectedBytes.toUInt64) ∧
    (∀ error, program = .done (.error error) → fabric.failure = none →
      ∃ other, other ≠ command ∧ other < fabric.received ∧
        workload.parsed other = .error error) ∧
    (program = .done (.ok ()) → command < workload.worker.commandCount →
      workload.completionEvent command ∈ fabric.history command) := by
  have hIndex : workload.slotIndexOf command = context.slotIndex.toNat := by
    rw [Workload.slotIndexOf, List.getD_eq_getElem?_getD, hSlot, Option.getD_some]
  have hServable := raSubmit_servable hSubmit hUnchanged
  rw [hCapacity, ← hMessage, ← hIndex] at hServable
  obtain ⟨parsed, hParsed⟩ := hServable.parsed (workload.slotOf command)
  obtain ⟨entries, hEntries, hSome, hValid⟩ := hServable.described
  refine ⟨⟨parsed, hParsed⟩, ?_, ?_, ?_, ?_, fun hReturned hCommand => ?_⟩
  · rintro slot address key length next rfl rfl hEnd
    have hNext := hRun.callSafe.planned slot _ rfl
    obtain ⟨operation, batch, hKind, hBatch, rfl, rfl, hLength, hInside⟩ :=
      planned_fetch (hNext.subset (List.mem_append_right _ (List.mem_singleton_self _)))
    exact fetchRequest_valid (hServable.fetched operation batch hKind hBatch) hLength hInside hEnd
  · rintro slot opcode requests next rfl rfl
    have hNext := hRun.callSafe.planned slot _ rfl
    obtain ⟨operation, other, -, hOther, -, rfl, -⟩ :=
      planned_described (hNext.subset (List.mem_append_right _ (List.mem_singleton_self _)))
    rw [hEntries] at hOther
    cases hOther
    refine ⟨by simpa using hSome, ?_⟩
    intro request hRequest hEnd
    obtain ⟨entry, hEntry, rfl⟩ := List.mem_map.mp hRequest
    exact entryRequest_valid (described_fit hEntries entry hEntry) (hValid entry hEntry) hEnd
  · intro address key length record hAnswered
    obtain ⟨completion, hRecord, hComplete, hId, hStatus, hBytes⟩ :=
      record_cases hRun.invariant hAnswered
    obtain ⟨-, -, hCarried, hAnnounced⟩ := accepted_awaits (raSubmit_effect hSubmit) trivial
    have hSuccess : completion.status = .success :=
      hStatus.mpr (Option.isSome_iff_exists.mpr ⟨entries, hEntries⟩)
    rw [if_pos hSuccess, hMessage, hAnnounced] at hBytes
    rw [hMessage, hCarried] at hId
    exact ⟨completion, hRecord, hComplete, hSuccess, hId, hBytes⟩
  · rintro error rfl hHealthy
    cases hRun.safe.cause with
    | transport hFailure =>
        rw [hHealthy] at hFailure
        cases hFailure
    | refused _ hReceived hRefused =>
        refine ⟨_, ?_, hReceived, hRefused⟩
        rintro rfl
        rw [Workload.parsed, hParsed] at hRefused
        cases hRefused
    | noSlots _ hSlots _ => simp [hSlots] at hSlot
  · subst hReturned
    exact answered_of_returned hRun hCommand

end Runs

/-- What the host knows of the slots of a worker with two slots. -/
def mixedContext (slot : Nat) : RaStorageContext where
  commandBuffer := { address := 8192, length := 64, localKey := 5 }
  completion := { address := 12288, length := 32, localKey := 5 }
  capacity := 64
  slotIndex := UInt32.ofNat slot

/-- The slots reserved for the commands of the first window. -/
def mixedReserved : DeviceMemory :=
  { reservedMemory with states := fun slot => { commandId := 7 + UInt64.ofNat slot } }

/-- The read and the batch of the first window, as the client asks for them. -/
def mixedSubmission : Nat → Submission
  | 0 => .read singleArgs
  | _ => .batchWrite {
      slotId := 1
      entryCount := 2
      entriesAddress := 8192
      entriesKey := 6 } mixedEntries

/-- Both are submitted by the host, and served with success by the worker. -/
theorem submission_served_mixed : ∃ fabric,
    WorkerReaches mixedWindows.traffic mixedWindows.session mixedWindows.worker (.done (.ok ()))
        fabric ∧
      ∀ command, command < 2 → ∃ memory completion,
        raSubmit (mixedContext command) mixedReserved (mixedSubmission command) copiesSucceed =
          (.ok (), memory) ∧
        mixedWindows.completionEvent command ∈ fabric.history command ∧
        deserializeStorageCompletion
          (completionRecord (mixedWindows.resolved command).completion) = .ok completion ∧
        completion.status = .success ∧
        completion.bytesTransferred = (memory.states command).expectedBytes.toUInt64 := by
  have hRun := runFor_reaches mixedWindows.traffic mixedWindows.session mixedWindows.worker 4 60
  rw [mixedWindows_returned] at hRun
  have hSubmits : ∀ command, command < 2 → (raSubmit (mixedContext command) mixedReserved
      (mixedSubmission command) copiesSucceed).1.toOption = some () := by
    decide +kernel
  have hMessages : ∀ command, command < 2 → mixedWindows.traffic.message command =
      (raSubmit (mixedContext command) mixedReserved (mixedSubmission command)
        copiesSucceed).2.commandBytes command := by
    decide +kernel
  have hUnchanged : ∀ command, Unchanged (mixedSubmission command) mixedEntries := by
    rintro (_ | _)
    · trivial
    · rfl
  have hSlots : ∀ command, command < 2 →
      mixedWindows.worker.slots[mixedWindows.slotOf command]? = some command ∧
      (mixedContext command).slotIndex.toNat = command := by
    decide +kernel
  refine ⟨_, hRun, fun command hCommand => ?_⟩
  obtain ⟨hSlot, hIndex⟩ := hSlots command hCommand
  have hMessage := hMessages command hCommand
  obtain ⟨memory, hSubmit⟩ : ∃ memory, raSubmit (mixedContext command) mixedReserved
      (mixedSubmission command) copiesSucceed = (.ok (), memory) := by
    have hSome := hSubmits command hCommand
    revert hSome
    cases raSubmit (mixedContext command) mixedReserved (mixedSubmission command)
      copiesSucceed with
    | mk result memory =>
        cases result with
        | error error => exact fun hSome => nomatch hSome
        | ok _ => exact fun _ => ⟨memory, rfl⟩
  rw [hSubmit] at hMessage
  have hServed : mixedWindows.worker.slots[mixedWindows.slotOf command]? =
      some (mixedContext command).slotIndex.toNat := by rw [hSlot, hIndex]
  have hCarried : mixedWindows.traffic.message command =
      memory.commandBytes (mixedContext command).slotIndex.toNat := by rw [hMessage, hIndex]
  obtain ⟨-, -, -, hRecord, -, hAnswered⟩ :=
    submission_served hRun hSubmit rfl hServed hCarried (hUnchanged command)
  have hPosted := hAnswered rfl (show command < 4 by omega)
  obtain ⟨completion, hDecoded, -, hSuccess, -, hBytes⟩ := hRecord _ _ _ _ hPosted
  rw [hIndex] at hBytes
  exact ⟨memory, completion, hSubmit, hPosted, hDecoded, hSuccess, hBytes⟩

end NdsStorage.System
