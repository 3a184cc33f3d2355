import NdsStorage.Client.Submission
import NdsStorage.Server.Transfer

/-! How the server's verdict on a command arrives at the client. A failed
command reports no bytes, and the clients compare the bytes of a record with
the length they asked for before they look at its status. So they recognize
the record of a command exactly when the command was valid. -/
namespace NdsStorage.System

open Bytes Interaction Server Client

section Records

/-- The length of a single transfer or the total of a batch, as a message states it. -/
def announcedBytes (message : Buffer) : UInt64 := readU64 message 24

/-- The length of a command is the one it announces. -/
theorem deserializeCommand_announced {operation : StorageOperation} {access : UInt32}
    {message : Buffer} {command : StorageTransferCommand}
    (h : deserializeCommand operation access message = .ok command) :
    command.length = announcedBytes message := by
  unfold deserializeCommand at h
  split at h
  · cases h
  · split at h
    · cases h
    · dsimp only at h
      split at h
      · cases h
      · cases h
        rfl

variable {size : UInt64} {message descriptors : Buffer} {entries : List StorageBatchEntry}

/-- A valid command moves as many bytes as it announces. -/
theorem described_announced (h : described size message descriptors = some entries) :
    totalBytes entries = (announcedBytes message).toNat := by
  have hTransfer : ∀ operation access,
      describedTransfer size (deserializeTransfer operation access message) = some entries →
      totalBytes entries = (announcedBytes message).toNat := by
    intro operation access h
    unfold describedTransfer at h
    split at h
    · cases h
    · rename_i command hDecoded
      obtain ⟨-, hSame⟩ := Option.ite_none_right_eq_some.mp h
      cases hSame
      rw [← deserializeCommand_announced (deserializeTransfer_ok hDecoded).1]
      simp [totalBytes]
  have hBatch : ∀ storageRead operation,
      describedBatch size storageRead descriptors (deserializeBatch operation message) =
        some entries →
      totalBytes entries = (announcedBytes message).toNat := by
    intro storageRead operation h
    unfold describedBatch at h
    split at h
    · cases h
    · rename_i command hDecoded
      split at h
      · cases h
      · obtain ⟨hFit, hSame⟩ := Option.ite_none_right_eq_some.mp h
        cases hSame
        rw [hFit.2, ← deserializeCommand_announced (deserializeBatch_ok hDecoded).1]
        rfl
  unfold described at h
  split at h
  · cases h
  · exact hTransfer _ _ h
  · exact hTransfer _ _ h
  · exact hBatch _ _ h
  · exact hBatch _ _ h

variable {workload : Workload} {fabric : Fabric} {turn : Nat} {address : UInt64}
  {key length : UInt32} {record : Buffer}

/-- The record that answers a command: its own identifier, success exactly if
the command was valid, and the announced bytes or none at all. -/
theorem record_cases (hInvariant : RunInvariant workload fabric)
    (hAnswered : .completionPosted address key length record ∈ fabric.history turn) :
    ∃ completion, deserializeStorageCompletion record = .ok completion ∧
      completion.state = .complete ∧
      completion.commandId = carriedCommandId (workload.traffic.message turn) ∧
      (completion.status = .success ↔ (described workload.session.storageSize
        (workload.traffic.message turn) (workload.traffic.descriptors turn)).isSome) ∧
      completion.bytesTransferred = if completion.status = .success
        then announcedBytes (workload.traffic.message turn) else 0 := by
  obtain ⟨parsed, hParsed⟩ := workload.accepted_of_answered turn
    ((hInvariant.planned turn).subset hAnswered)
  obtain ⟨-, hComplete, hId, -⟩ := workload.resolved_accepted turn hParsed
  obtain ⟨hVerdict, -⟩ := resolved_verdict hParsed
  refine ⟨(workload.resolved turn).completion, ?_, hComplete,
    hId.trans (parseCommand_carried hParsed).1, hVerdict.success_iff, ?_⟩
  · rw [completion_eq hInvariant hAnswered]
    exact deserializeStorageCompletion_layout _ (by simp)
      (workload.resolved_completionValid turn hParsed)
  · apply UInt64.toNat_inj.mp
    rw [hVerdict.bytes_eq]
    split
    · rename_i hSuccess
      obtain ⟨entries, hEntries⟩ := Option.isSome_iff_exists.mp (hVerdict.success_iff.mp hSuccess)
      rw [hEntries]
      exact described_announced hEntries
    · rename_i hFailed
      rw [hVerdict.success_iff, Option.not_isSome_iff_eq_none] at hFailed
      rw [hFailed]
      rfl

end Records

section Reports

/-- How a device backend has to report the status of a command. -/
def deviceReport (status : StorageStatus) : Int32 :=
  setReturnValue (if status = .success then OperationStatus.success.code
    else OperationStatus.providerFailed.code)

variable {memory memory' : DeviceMemory} {slotIndex : UInt32} {sent : Int32}
  {checked accepted : Prop} {completion : StorageCompletion}

/-- An accepted submission waits for an answer with the bytes it announced. -/
theorem accepted_awaits (hEffect : SubmitEffect memory slotIndex sent checked accepted memory')
    (hAccepted : accepted) :
    checked ∧ Awaiting (memory'.states slotIndex.toNat) ∧
      carriedCommandId (memory'.commandBytes slotIndex.toNat) =
        (memory'.states slotIndex.toNat).commandId ∧
      announcedBytes (memory'.commandBytes slotIndex.toNat) =
        (memory'.states slotIndex.toNat).expectedBytes.toUInt64 := by
  cases hEffect with
  | refused hRefused => exact absurd hAccepted hRefused
  | withdrawn hRefused _ => exact absurd hAccepted hRefused
  | posted hChecked hSent hId hFree hExpected hMessage =>
      simp only [DeviceMemory.posted, DeviceMemory.setState, DeviceMemory.storeCommand,
        DeviceMemory.storeCompletion, Function.update_self]
      exact ⟨hChecked, ⟨hId, hExpected, by simp, hSent.mp hAccepted⟩, hMessage.commandId_eq,
        hMessage.announced_eq⟩

theorem expectedBytes_ne_zero {expected : UInt32} (h : expected ≠ 0) :
    (0 : UInt64) ≠ expected.toUInt64 := by
  intro hZero
  have hBack := congrArg UInt64.toUInt32 hZero
  exact h (by simpa using hBack.symm)

/-- With the announced bytes in a successful record and none in another, the
device backends report the verdict if and only if it is a success. -/
theorem waitReturn_eq_report {expected : UInt32} (hExpected : expected ≠ 0)
    (hBytes : completion.bytesTransferred =
      if completion.status = .success then expected.toUInt64 else 0) :
    waitReturn expected completion = deviceReport completion.status ↔
      completion.status = .success := by
  by_cases hSuccess : completion.status = .success
  · simp [waitReturn, deviceReport, hBytes, hSuccess]
  · simp only [waitReturn, deviceReport, hBytes, hSuccess, if_false,
      if_pos (expectedBytes_ne_zero hExpected), iff_false]
    decide

variable {workload : Workload} {program : Program Call Call.Answer (Except Error Unit)}
  {fabric : Fabric} {turn : Nat} {address : UInt64} {key length : UInt32} {record : Buffer}

/-- Once the record of an accepted submission has landed, the slot is answered. -/
theorem landed_answers (hEffect : SubmitEffect memory slotIndex sent checked accepted memory')
    (hAccepted : accepted)
    (hMessage : memory'.commandBytes slotIndex.toNat = workload.traffic.message turn)
    (hRecord : deserializeStorageCompletion record = .ok completion)
    (hComplete : completion.state = .complete)
    (hId : completion.commandId = carriedCommandId (workload.traffic.message turn))
    (hBytes : completion.bytesTransferred = if completion.status = .success
      then announcedBytes (workload.traffic.message turn) else 0) :
    checked ∧ Awaiting (memory'.states slotIndex.toNat) ∧
      Answered (memory'.storeCompletion slotIndex.toNat record) slotIndex.toNat completion ∧
      completion.bytesTransferred = if completion.status = .success
        then (memory'.states slotIndex.toNat).expectedBytes.toUInt64 else 0 := by
  obtain ⟨hChecked, hAwaiting, hCarried, hAnnounced⟩ := accepted_awaits hEffect hAccepted
  rw [hMessage] at hCarried hAnnounced
  refine ⟨hChecked, hAwaiting, ⟨?_, hComplete, hId.trans hCarried⟩, ?_⟩
  · rw [DeviceMemory.storeCompletion_self]
    exact hRecord
  · rw [hBytes, hAnnounced]

/-- A command that a backend has posted and the record with which a worker
answers it. Once the record has landed, the wait reports the server's verdict
if and only if the command was valid against the namespace: a single transfer
inside it, a batch whose entries decode, lie inside it and add up. -/
theorem verdict_reported_iff_valid
    (hRun : WorkerReaches workload.traffic workload.session workload.worker program fabric)
    (hAnswered : .completionPosted address key length record ∈ fabric.history turn) :
    ∃ completion, deserializeStorageCompletion record = .ok completion ∧
      (∀ descriptor memory memory' submission sent,
        aivSubmit descriptor memory submission sent = (0, memory') →
        memory'.commandBytes (storageSlotIdIndex submission.slotId).toNat =
          workload.traffic.message turn →
        (aivStorageWait descriptor (memory'.storeCompletion
            (storageSlotIdIndex submission.slotId).toNat record) submission.slotId =
          deviceReport completion.status ↔
        (described workload.session.storageSize (workload.traffic.message turn)
          (workload.traffic.descriptors turn)).isSome)) ∧
      (∀ descriptor memory memory' submission sent,
        aicpuSubmit descriptor memory submission sent = (.ok 0, memory') →
        memory'.commandBytes (storageSlotIdIndex submission.slotId).toNat =
          workload.traffic.message turn →
        (aicpuStorageWait descriptor (memory'.storeCompletion
            (storageSlotIdIndex submission.slotId).toNat record) submission.slotId =
          .ok (deviceReport completion.status) ↔
        (described workload.session.storageSize (workload.traffic.message turn)
          (workload.traffic.descriptors turn)).isSome)) ∧
      ∀ context memory memory' submission outcomes,
        raSubmit context memory submission outcomes = (.ok (), memory') →
        memory'.commandBytes context.slotIndex.toNat = workload.traffic.message turn →
        (raStorageWait context (memory'.storeCompletion context.slotIndex.toNat record) (.ok ()) =
          .ok completion ↔
        (described workload.session.storageSize (workload.traffic.message turn)
          (workload.traffic.descriptors turn)).isSome) := by
  obtain ⟨completion, hRecord, hComplete, hId, hStatus, hBytes⟩ :=
    record_cases hRun.invariant hAnswered
  refine ⟨completion, hRecord, ?_, ?_, ?_⟩
  · intro descriptor memory memory' submission sent hSubmit hMessage
    obtain ⟨hValid, hAwaiting, hLanded, hExpected⟩ := landed_answers (aivSubmit_effect hSubmit) rfl
      hMessage hRecord hComplete hId hBytes
    rw [aivStorageWait_answered hValid hLanded hAwaiting, ← hStatus]
    exact waitReturn_eq_report hAwaiting.expectedBytes_ne hExpected
  · intro descriptor memory memory' submission sent hSubmit hMessage
    obtain ⟨hValid, hAwaiting, hLanded, hExpected⟩ := landed_answers (aicpuSubmit_effect hSubmit)
      rfl hMessage hRecord hComplete hId hBytes
    rw [aicpuStorageWait_answered hValid hLanded hAwaiting, ← hStatus, Except.ok.injEq]
    exact waitReturn_eq_report hAwaiting.expectedBytes_ne hExpected
  · intro context memory memory' submission outcomes hSubmit hMessage
    obtain ⟨hUsable, hAwaiting, hLanded, hExpected⟩ := landed_answers (raSubmit_effect hSubmit)
      trivial hMessage hRecord hComplete hId hBytes
    rw [raStorageWait_answered hUsable hLanded hAwaiting, ← hStatus,
      DeviceMemory.storeCompletion_states]
    by_cases hSuccess : completion.status = .success
    · rw [if_pos hSuccess] at hExpected
      rw [if_neg (not_not_intro hExpected)]
      exact iff_of_true rfl hSuccess
    · rw [if_neg hSuccess] at hExpected
      rw [hExpected, if_pos (expectedBytes_ne_zero hAwaiting.expectedBytes_ne)]
      exact iff_of_false (fun hSame => by cases hSame) hSuccess

end Reports

section Samples

/-- The arguments of the read that the single worker serves. -/
def singleArgs : TransferArgs where
  slotId := 0
  serverOffset := 16
  bufferAddress := 4096
  bufferKey := 5
  length := 32

/-- A valid read through the device backend is posted, served and reported. -/
theorem verdict_reported_singleRead : ∃ fabric record completion memory,
    WorkerReaches singleRead.traffic singleRead.session singleRead.worker (.done (.ok ()))
        fabric ∧
      deserializeStorageCompletion record = .ok completion ∧
      aivSubmit soleDescriptor reservedMemory (.read singleArgs) 0 = (0, memory) ∧
      aivStorageWait soleDescriptor (memory.storeCompletion 0 record) 0 =
        deviceReport completion.status := by
  have hReturned : (runFor singleRead.traffic singleRead.session singleRead.worker 1 14).1 =
      .done (.ok ()) := Config.outcome?_eq (by decide +kernel)
  have hRun := runFor_reaches singleRead.traffic singleRead.session singleRead.worker 1 14
  rw [hReturned] at hRun
  obtain ⟨completion, hRecord, hAiv, -, -⟩ :=
    verdict_reported_iff_valid hRun (answered_of_returned hRun (show 0 < 1 by decide))
  have hSubmit : (aivSubmit soleDescriptor reservedMemory (.read singleArgs) 0).1 = 0 := by
    decide +kernel
  have hReport := hAiv soleDescriptor reservedMemory
    (aivSubmit soleDescriptor reservedMemory (.read singleArgs) 0).2 (.read singleArgs) 0
    (Prod.ext hSubmit rfl) (by decide +kernel)
  exact ⟨_, _, completion, _, hRun, hRecord, Prod.ext hSubmit rfl, hReport.mpr (by decide +kernel)⟩

/-- A read of eight bytes past the end of a namespace of 64 bytes. -/
def pastEndArgs : TransferArgs where
  slotId := 0
  serverOffset := 64
  bufferAddress := 4096
  bufferKey := 5
  length := 8

/-- The worker that serves this read from its only slot. -/
def pastEndRead : Workload where
  traffic := {
    message := fun _ => commandLayout .read (pastEndArgs.command 7 0) kRemoteWrite
      (List.replicate kStorageCommandBytes 0)
    descriptors := fun _ => []
    message_length := fun _ => by simp }
  session := singleRead.session
  worker := singleRead.worker

/-- The server answers with a range error. The client, which has posted this
very command, calls its own arguments invalid. -/
theorem verdict_lost_pastEndRead : ∃ fabric completion memory,
    WorkerReaches pastEndRead.traffic pastEndRead.session pastEndRead.worker (.done (.ok ()))
        fabric ∧
      pastEndRead.completionEvent 0 ∈ fabric.history 0 ∧
      deserializeStorageCompletion (completionRecord (pastEndRead.resolved 0).completion) =
        .ok completion ∧
      completion.status = .rangeError ∧
      aivSubmit soleDescriptor reservedMemory (.read pastEndArgs) 0 = (0, memory) ∧
      memory.commandBytes 0 = pastEndRead.traffic.message 0 ∧
      aivStorageWait soleDescriptor
          (memory.storeCompletion 0 (completionRecord (pastEndRead.resolved 0).completion)) 0 =
        setReturnValue OperationStatus.invalidArgument.code ∧
      deviceReport completion.status = setReturnValue OperationStatus.providerFailed.code ∧
      setReturnValue OperationStatus.invalidArgument.code ≠
        setReturnValue OperationStatus.providerFailed.code := by
  have hReturned : (runFor pastEndRead.traffic pastEndRead.session pastEndRead.worker 1 14).1 =
      .done (.ok ()) := Config.outcome?_eq (by decide +kernel)
  have hRun := runFor_reaches pastEndRead.traffic pastEndRead.session pastEndRead.worker 1 14
  rw [hReturned] at hRun
  have hSubmit : (aivSubmit soleDescriptor reservedMemory (.read pastEndArgs) 0).1 = 0 := by
    decide +kernel
  refine ⟨_, { commandId := 7, state := .complete, status := .rangeError, bytesTransferred := 0 },
    (aivSubmit soleDescriptor reservedMemory (.read pastEndArgs) 0).2, hRun,
    answered_of_returned hRun (show 0 < 1 by decide), by decide +kernel, rfl,
    Prod.ext hSubmit rfl, by decide +kernel, by decide +kernel, rfl, by decide⟩

end Samples

end NdsStorage.System
