import NdsStorage.Client.Emission
import NdsStorage.Protocol.Wire

/-! The three backends send the same command. Each of them is brought into one
normal form: an operation that gets as far as the send has found its slot free,
has written the pending record and the command, and leaves the same state. -/
namespace NdsStorage.Client

open Bytes Interaction

/-- The send of the command in a slot. -/
def slotPosting (descriptor : StorageDescriptor) (memory : DeviceMemory) (slotId : UInt32) :
    Posting :=
  let index := (storageSlotIdIndex slotId).toNat
  { queue := (descriptor.slots index).qpIndex
    wr := commandTransfer (descriptor.slots index).commandBuffer (memory.states index).commandId }

/-- A reserved slot of the client that has no command in flight. -/
structure SlotFree (descriptor : StorageDescriptor) (memory : DeviceMemory) (slotId : UInt32) :
    Prop where
  valid : storageSlotIdValid descriptor slotId
  commandId_ne : (memory.states (storageSlotIdIndex slotId).toNat).commandId ≠ 0
  free : (memory.states (storageSlotIdIndex slotId).toNat).inFlight = 0

section Devices

variable {descriptor : StorageDescriptor} {memory : DeviceMemory} {slotId expected : UInt32}
  {write : CommandWriter} {message : Buffer}

/-- The vector core posts the command of a free slot. -/
theorem aivSubmitSends_posted (hFree : SlotFree descriptor memory slotId) (hExpected : expected ≠ 0)
    (hWrite : write (memory.states (storageSlotIdIndex slotId).toNat).commandId
      (storageSlotIdIndex slotId) = (.ok (), message)) :
    aivStorageSubmitSends descriptor memory slotId expected write =
      .call (slotPosting descriptor memory slotId) fun sent =>
        .done (sent, memory.posted (storageSlotIdIndex slotId).toNat expected message sent) := by
  have hState : storageState descriptor memory (storageSlotIdIndex slotId) =
      some (memory.states (storageSlotIdIndex slotId).toNat) := storageState_valid hFree.valid
  have hClaim : aivClaim descriptor memory slotId expected = some (memory.setState
      (storageSlotIdIndex slotId).toNat { memory.states (storageSlotIdIndex slotId).toNat with
        expectedBytes := expected
        inFlight := 1
        status := 0 }) := by
    simp only [aivClaim, hState]
    rw [if_neg]
    simp [hFree.valid, hFree.commandId_ne, hExpected, hFree.free]
  rw [aivStorageSubmitSends, aivCommandId, hState]
  dsimp only
  rw [hWrite]
  simp only [aivExecuteSerializedSends, hClaim, DeviceMemory.setState_self,
    serializePending_eq hFree.commandId_ne, slotPosting]
  congr 1
  funext sent
  simp only [DeviceMemory.posted, DeviceMemory.setState, DeviceMemory.storeCommand,
    DeviceMemory.storeCompletion, Function.update_idem]

/-- The control processor posts the same command. -/
theorem aicpuSubmitSends_posted (hFree : SlotFree descriptor memory slotId)
    (hExpected : expected ≠ 0)
    (hWrite : write (memory.states (storageSlotIdIndex slotId).toNat).commandId
      (storageSlotIdIndex slotId) = (.ok (), message)) :
    aicpuExecuteSends descriptor memory slotId expected write =
      .call (slotPosting descriptor memory slotId) fun sent =>
        .done (.ok sent, memory.posted (storageSlotIdIndex slotId).toNat expected message sent) := by
  have hDescriptor : storageDescriptorValid descriptor = true := by
    have hValid := hFree.valid
    simp only [storageSlotIdValid, storageSlotValid, Bool.and_eq_true] at hValid
    tauto
  rw [aicpuExecuteSends, if_neg (by simp [hDescriptor, hFree.valid, hExpected])]
  dsimp only
  rw [if_neg (by simp [hFree.commandId_ne, hFree.free]), serializePending_eq hFree.commandId_ne,
    hWrite]
  dsimp only
  congr 1
  funext sent
  rw [setReturnValue_neg]
  rfl

/-- A slot that is not free, or a command that does not serialize, stops the device. -/
theorem aivSubmitSends_refused (h : ¬ (SlotFree descriptor memory slotId ∧ expected ≠ 0 ∧
      ∃ message, write (memory.states (storageSlotIdIndex slotId).toNat).commandId
        (storageSlotIdIndex slotId) = (.ok (), message))) :
    ∃ result, aivStorageSubmitSends descriptor memory slotId expected write = .done result := by
  rw [aivStorageSubmitSends]
  split
  · exact ⟨_, rfl⟩
  · rename_i message hWrite
    rw [aivExecuteSerializedSends]
    split
    · exact ⟨_, rfl⟩
    · rename_i claimed hClaim
      obtain ⟨hState, hValid, hId, hExpected, hInFlight, -⟩ := aivClaim_eq_some hClaim
      rw [aivCommandId, hState] at hWrite
      exact absurd ⟨⟨hValid, hId, hInFlight⟩, hExpected, message, hWrite⟩ h

/-- Without a free slot and a command the control processor sends nothing. -/
theorem aicpuSubmitSends_refused (h : ¬ (SlotFree descriptor memory slotId ∧ expected ≠ 0 ∧
      ∃ message, write (memory.states (storageSlotIdIndex slotId).toNat).commandId
        (storageSlotIdIndex slotId) = (.ok (), message))) :
    ∃ result, aicpuExecuteSends descriptor memory slotId expected write = .done result := by
  rw [aicpuExecuteSends]
  split
  · exact ⟨_, rfl⟩
  · rename_i hValid
    simp only [not_or, Decidable.not_not] at hValid
    dsimp only
    split
    · exact ⟨_, rfl⟩
    · rename_i hTaken
      simp only [not_or, Decidable.not_not] at hTaken
      split
      · rename_i pending message hPending hWrite
        exact absurd ⟨⟨hValid.2.1, hTaken.1, hTaken.2⟩, hValid.2.2, message, hWrite⟩ h
      · exact ⟨_, rfl⟩

end Devices

section Writers

variable {commandId : UInt64} {slotIndex : UInt32}

/-- A transfer serializes when it has a length and a usable buffer. -/
theorem TransferArgs.writer_ok_iff (args : TransferArgs) (operation : StorageOperation)
    (access : UInt32) (hId : commandId ≠ 0) (hLength : args.length ≠ 0) :
    (∃ message, args.writer (serializeTransfer operation access) commandId slotIndex =
      (.ok (), message)) ↔ args.bufferAddress ≠ 0 ∧ args.bufferKey ≠ 0 := by
  have hSize : kStorageCommandBytes ≤ (List.replicate kStorageCommandBytes (0 : UInt8)).length :=
    Nat.le_of_eq List.length_replicate.symm
  have hWide : args.length.toUInt64 ≠ 0 := by
    intro hZero
    apply hLength
    apply UInt32.toNat_inj.mp
    have hSame := congrArg UInt64.toNat hZero
    rwa [UInt32.toNat_toUInt64] at hSame
  have hMemory : memoryValid (args.command commandId slotIndex).data
      (args.command commandId slotIndex).length = true ↔
        args.bufferAddress ≠ 0 ∧ args.bufferKey ≠ 0 := by
    rw [memoryValid_iff]
    simp [Usable, TransferArgs.command]
  rw [TransferArgs.writer, serializeTransfer_eq hSize, ← hMemory]
  have hFields : (args.command commandId slotIndex).commandId ≠ 0 ∧
      (args.command commandId slotIndex).length ≠ 0 := ⟨hId, hWide⟩
  by_cases hValid : memoryValid (args.command commandId slotIndex).data
      (args.command commandId slotIndex).length = true
  · rw [if_neg (by simp [hFields, hValid])]
    exact ⟨fun _ => hValid, fun _ => ⟨_, rfl⟩⟩
  · rw [if_pos (by simp [hValid])]
    simp [hValid]

/-- The commands that writers produce fill the command buffer. -/
def CommandWriter.Fills (write : CommandWriter) : Prop :=
  ∀ commandId slotIndex message, write commandId slotIndex = (.ok (), message) →
    message.length = kStorageCommandBytes

/-- A serializer keeps the length of the buffer. -/
theorem serializeCommand_length {operation : StorageOperation}
    {commandId offset length required : UInt64} {data : StorageMemory} {access slotIndex : UInt32}
    {bytes : Buffer} :
    (serializeCommand operation commandId offset length data required access slotIndex bytes).2.length
      = bytes.length := by
  unfold serializeCommand
  split
  · rfl
  · split
    · rfl
    · simp

/-- A transfer fills the command buffer or fails. -/
theorem TransferArgs.writer_fills (args : TransferArgs) (operation : StorageOperation)
    (access : UInt32) : CommandWriter.Fills (args.writer (serializeTransfer operation access)) := by
  intro commandId slotIndex message hWrite
  have hMessage := congrArg (fun written => written.2.length) hWrite
  simp only [TransferArgs.writer, serializeTransfer, serializeCommand_length,
    List.length_replicate] at hMessage
  exact hMessage.symm

theorem BatchArgs.writer_fills (args : BatchArgs) (total : UInt64) (operation : StorageOperation) :
    CommandWriter.Fills (args.writer total (serializeBatch operation)) := by
  intro commandId slotIndex message hWrite
  have hMessage := congrArg (fun written => written.2.length) hWrite
  simp only [BatchArgs.writer, serializeBatch] at hMessage
  split at hMessage
  · simpa using hMessage.symm
  · simpa [serializeCommand_length] using hMessage.symm

end Writers

section Totals

variable {capacity : UInt64} {deserialize : Buffer → Except SerdeError StorageBatchEntry}
  {entries : Buffer}

/-- A batch that passes the checks of the host has the same total on the devices,
and the total fits 32 bits. -/
theorem raSumEntries_eq {remaining index : Nat} {total sum : UInt64}
    (hTotal : total ≤ kMaxUInt32)
    (h : raSumEntries capacity deserialize entries remaining index total = .ok sum) :
    sumEntries deserialize entries remaining index total = some sum ∧ sum ≤ kMaxUInt32 := by
  induction remaining generalizing index total with
  | zero =>
      cases h
      exact ⟨rfl, hTotal⟩
  | succ remaining ih =>
      rw [raSumEntries] at h
      rw [sumEntries]
      cases hEntry : deserialize
          (slice entries (index * kStorageBatchEntryBytes) kStorageBatchEntryBytes) with
      | error failure => simp [hEntry] at h
      | ok entry =>
          simp only [hEntry] at h ⊢
          split at h
          · cases h
          · rename_i hChecked
            simp only [not_or, gt_iff_lt, UInt64.not_lt] at hChecked
            obtain ⟨hSome, -, -, -, -, -, hSmall, hRoom⟩ := hChecked
            have hNext : total + entry.length ≤ kMaxUInt32 := by
              rw [UInt64.le_iff_toNat_le] at hSmall hRoom ⊢
              have hWidth : kMaxUInt32.toNat = 4294967295 := rfl
              rw [UInt64.toNat_sub_of_le _ _ (UInt64.le_iff_toNat_le.mpr hSmall)] at hRoom
              rw [UInt64.toNat_add]
              omega
            rw [if_neg (by simp [hSome, hRoom])]
            exact ih hNext h

/-- A total that the host accepts is the total of both devices. -/
theorem raDecodeEntries_eq {context : RaStorageContext} {args : BatchArgs} {total : UInt64}
    {copied : Except Error Unit}
    (h : raDecodeEntries context args deserialize (copied.map fun _ => entries) = .ok total) :
    ¬ (args.entryCount = 0 ∨ args.entryCount > UInt32.ofNat kStorageMaxBatchEntries) ∧
      (aivBatchTotal args deserialize entries).toUInt64 = total ∧
      (aicpuBatchBytes args deserialize entries).toUInt64 = total := by
  unfold raDecodeEntries at h
  split at h
  · cases h
  · rename_i hArgs
    simp only [not_or] at hArgs
    obtain ⟨hSome, hMany, hAddress, hKey⟩ := hArgs
    cases copied with
    | error error => cases h
    | ok _ =>
        obtain ⟨hSum, hSmall⟩ := raSumEntries_eq (by decide) h
        have hBatch : batchSum args deserialize entries = total := by
          rw [batchSum, if_neg (by simp [hSome, hMany, hAddress, hKey]), hSum, Option.getD_some]
        have hNarrow : total.toUInt32.toUInt64 = total := by
          have hBound : total.toNat ≤ 4294967295 := UInt64.le_iff_toNat_le.mp hSmall
          apply UInt64.toNat_inj.mp
          simp only [UInt32.toNat_toUInt64, UInt64.toNat_toUInt32]
          omega
        refine ⟨by simp [hSome, hMany], ?_, ?_⟩
        · rw [aivBatchTotal, hBatch, hNarrow]
        · rw [aicpuBatchBytes, hBatch, if_neg (UInt64.not_lt.mpr hSmall), hNarrow]

end Totals

section Host

variable {context : RaStorageContext} {queue : UInt32} {memory memory' : DeviceMemory}
  {write : CommandWriter} {expected : UInt64} {outcomes : RaOutcomes}

/-- What the host has done when it reports success. -/
theorem raExecuteSends_posted
    (h : (raExecuteSends context queue memory write expected outcomes).replay (fun _ => .ok ()) =
      (.ok (), memory')) :
    ∃ message, (memory.states context.slotIndex.toNat).commandId ≠ 0 ∧
      (memory.states context.slotIndex.toNat).inFlight = 0 ∧ expected.toUInt32 ≠ 0 ∧
      expected.toUInt32.toUInt64 = expected ∧
      write (memory.states context.slotIndex.toNat).commandId context.slotIndex =
        (.ok (), message) ∧
      (raExecuteSends context queue memory write expected outcomes).requests (fun _ => .ok ()) =
        [{ queue := queue
           wr := commandTransfer context.commandBuffer
            (memory.states context.slotIndex.toNat).commandId }] ∧
      memory' = memory.posted context.slotIndex.toNat expected.toUInt32 message 0 := by
  cases hClaim : raClaim context (memory.states context.slotIndex.toNat) expected with
  | error error =>
      rw [raExecuteSends, hClaim] at h
      cases h
  | ok claimed =>
      obtain ⟨-, hId, hStatus, hFree, hExpected, hExact, rfl⟩ := raClaim_eq_ok hClaim
      have hNarrow : expected.toUInt32 ≠ 0 := by
        intro hZero
        rw [hZero] at hExact
        exact hExpected hExact.symm
      rw [raExecuteSends, hClaim] at h ⊢
      dsimp only at h ⊢
      rw [serializePending_eq hId] at h ⊢
      dsimp only at h ⊢
      cases hPending : outcomes.pendingCopied with
      | error error =>
          rw [hPending] at h
          cases h
      | ok _ =>
          rw [hPending] at h
          dsimp only at h ⊢
          rcases hWrite : write (memory.states context.slotIndex.toNat).commandId
            context.slotIndex with ⟨outcome, message⟩
          rw [hWrite] at h
          cases outcome with
          | error failure => cases h
          | ok _ =>
              dsimp only at h ⊢
              cases hCommand : outcomes.commandCopied with
              | error error =>
                  rw [hCommand] at h
                  cases h
              | ok _ =>
                  rw [hCommand] at h
                  refine ⟨message, hId, hFree, hNarrow, hExact, rfl, rfl, ?_⟩
                  cases h
                  rw [hStatus]
                  rfl

end Host

/-- The outcome of a submission that all backends make in the same way: one
send on the queue of the slot, a pending record and a command in its buffers,
and a slot in flight under the identifier it had. -/
structure Emitted (descriptor : StorageDescriptor) (memory : DeviceMemory) (slotId : UInt32)
    (posting : Posting) (memory' : DeviceMemory) : Prop where
  posting_eq : posting = slotPosting descriptor memory slotId
  memory_eq : ∃ expected message, message.length = kStorageCommandBytes ∧
    memory' = memory.posted (storageSlotIdIndex slotId).toNat expected message 0

/-- The host has sent once, and either device sends the same and ends in the same memory. -/
def SameEmission {Result : Type} (descriptor : StorageDescriptor) (memory : DeviceMemory)
    (slotId : UInt32) (host : Sends (Except Error Unit) Result)
    (aiv : Sends Int32 (Int32 × DeviceMemory))
    (aicpu : Sends Int32 (Except UInt32 Int32 × DeviceMemory)) (memory' : DeviceMemory) : Prop :=
  ∃ posting, host.requests (fun _ => .ok ()) = [posting] ∧
    aiv.requests (fun _ => 0) = [posting] ∧ aicpu.requests (fun _ => 0) = [posting] ∧
    aiv.replay (fun _ => 0) = (0, memory') ∧ aicpu.replay (fun _ => 0) = (.ok 0, memory') ∧
    Emitted descriptor memory slotId posting memory'

section Agreement

variable {descriptor : StorageDescriptor} {memory memory' : DeviceMemory}

/-- What the devices do where the host has reported success. -/
theorem devices_follow {slotId : UInt32} {write : CommandWriter} {expected : UInt64}
    {outcomes : RaOutcomes} (hValid : storageSlotIdValid descriptor slotId) (hFills : write.Fills)
    (h : (raExecuteSends (raStorageContext descriptor (storageSlotIdIndex slotId))
      (descriptor.slots (storageSlotIdIndex slotId).toNat).qpIndex memory write expected
      outcomes).replay (fun _ => .ok ()) = (.ok (), memory')) :
    SameEmission descriptor memory slotId
      (raExecuteSends (raStorageContext descriptor (storageSlotIdIndex slotId))
        (descriptor.slots (storageSlotIdIndex slotId).toNat).qpIndex memory write expected outcomes)
      (aivStorageSubmitSends descriptor memory slotId expected.toUInt32 write)
      (aicpuExecuteSends descriptor memory slotId expected.toUInt32 write) memory' := by
  obtain ⟨message, hId, hInFlight, hExpected, -, hWrite, hSent, rfl⟩ := raExecuteSends_posted h
  have hFree : SlotFree descriptor memory slotId := ⟨hValid, hId, hInFlight⟩
  rw [aivSubmitSends_posted hFree hExpected hWrite, aicpuSubmitSends_posted hFree hExpected hWrite]
  exact ⟨slotPosting descriptor memory slotId, hSent, rfl, rfl, rfl, rfl, rfl, _, message,
    hFills _ _ _ hWrite, rfl⟩

/-- Where the host has sent a transfer, the devices would have sent it too. -/
theorem transfer_follows {invalid : String} {operation : StorageOperation} {access : UInt32}
    {args : TransferArgs} {outcomes : RaOutcomes}
    (hValid : storageSlotIdValid descriptor args.slotId)
    (h : (raStorageTransferSends invalid (serializeTransfer operation access)
      (raStorageContext descriptor (storageSlotIdIndex args.slotId))
      (descriptor.slots (storageSlotIdIndex args.slotId).toNat).qpIndex memory args
      outcomes).replay (fun _ => .ok ()) = (.ok (), memory')) :
    SameEmission descriptor memory args.slotId
      (raStorageTransferSends invalid (serializeTransfer operation access)
        (raStorageContext descriptor (storageSlotIdIndex args.slotId))
        (descriptor.slots (storageSlotIdIndex args.slotId).toNat).qpIndex memory args outcomes)
      (aivStorageTransferSends (serializeTransfer operation access) descriptor memory args)
      (aicpuStorageTransferSends (serializeTransfer operation access) descriptor memory args)
      memory' := by
  rw [raStorageTransferSends] at h ⊢
  split at h
  · cases h
  · rename_i hChecked
    rw [if_neg hChecked]
    simp only [not_or] at hChecked
    obtain ⟨-, hLength, -, hAddress, hKey⟩ := hChecked
    have hFollow := devices_follow hValid (args.writer_fills operation access) h
    rw [UInt32.toUInt32_toUInt64] at hFollow
    rw [aivStorageTransferSends, aicpuStorageTransferSends, if_neg hLength,
      if_neg (by simp [hLength, hAddress, hKey])]
    exact hFollow

/-- Where the host has sent a batch, the devices would have sent it too. -/
theorem batch_follows {operation : StorageOperation}
    {deserialize : Buffer → Except SerdeError StorageBatchEntry} {args : BatchArgs}
    {entries : Buffer} {outcomes : RaOutcomes}
    (hValid : storageSlotIdValid descriptor args.slotId)
    (h : (raStorageBatchSends (serializeBatch operation) deserialize
      (raStorageContext descriptor (storageSlotIdIndex args.slotId))
      (descriptor.slots (storageSlotIdIndex args.slotId).toNat).qpIndex memory args entries
      outcomes).replay (fun _ => .ok ()) = (.ok (), memory')) :
    SameEmission descriptor memory args.slotId
      (raStorageBatchSends (serializeBatch operation) deserialize
        (raStorageContext descriptor (storageSlotIdIndex args.slotId))
        (descriptor.slots (storageSlotIdIndex args.slotId).toNat).qpIndex memory args entries
        outcomes)
      (aivStorageBatchSends (serializeBatch operation) deserialize descriptor memory args entries)
      (aicpuStorageBatchSends (serializeBatch operation) deserialize descriptor memory args entries)
      memory' := by
  rw [raStorageBatchSends] at h ⊢
  cases hTotal : raDecodeEntries (raStorageContext descriptor (storageSlotIdIndex args.slotId)) args
      deserialize (outcomes.entriesCopied.map fun _ => entries) with
  | error error =>
      rw [hTotal] at h
      cases h
  | ok total =>
      rw [hTotal] at h
      obtain ⟨hCount, hAiv, hAicpu⟩ := raDecodeEntries_eq hTotal
      have hFollow := devices_follow hValid (args.writer_fills total operation) h
      have hAivTotal : aivBatchTotal args deserialize entries = total.toUInt32 := by
        rw [← hAiv, UInt32.toUInt32_toUInt64]
      have hAicpuTotal : aicpuBatchBytes args deserialize entries = total.toUInt32 := by
        rw [← hAicpu, UInt32.toUInt32_toUInt64]
      have hWide : total.toUInt32.toUInt64 = total := by rw [← hAivTotal, hAiv]
      rw [aivStorageBatchSends, aicpuStorageBatchSends, if_neg hCount, hAivTotal, hAicpuTotal]
      dsimp only
      rw [hWide]
      exact hFollow

/-- The devices refuse the same single transfers and send the others alike. -/
theorem devices_agree (args : TransferArgs) (operation : StorageOperation) (access : UInt32)
    (sent : Int32) :
    (aivStorageTransferSends (serializeTransfer operation access) descriptor memory args).requests
        (fun _ => sent) =
      (aicpuStorageTransferSends (serializeTransfer operation access) descriptor memory
        args).requests (fun _ => sent) ∧
    ((aivStorageTransferSends (serializeTransfer operation access) descriptor memory
        args).requests (fun _ => sent) ≠ [] →
      ∃ memory', (aivStorageTransferSends (serializeTransfer operation access) descriptor memory
          args).replay (fun _ => sent) = (sent, memory') ∧
        (aicpuStorageTransferSends (serializeTransfer operation access) descriptor memory
          args).replay (fun _ => sent) = (.ok sent, memory')) := by
  by_cases hReady : SlotFree descriptor memory args.slotId ∧ args.length ≠ 0 ∧
      args.bufferAddress ≠ 0 ∧ args.bufferKey ≠ 0
  · obtain ⟨hFree, hLength, hAddress, hKey⟩ := hReady
    obtain ⟨message, hWrite⟩ := (args.writer_ok_iff operation access hFree.commandId_ne hLength).mpr
      ⟨hAddress, hKey⟩
    rw [aivStorageTransferSends, aicpuStorageTransferSends, if_neg hLength,
      if_neg (by simp [hLength, hAddress, hKey]), aivSubmitSends_posted hFree hLength hWrite,
      aicpuSubmitSends_posted hFree hLength hWrite]
    exact ⟨rfl, fun _ => ⟨_, rfl, rfl⟩⟩
  · -- either device returns before the send
    have hNotReady : ¬ (SlotFree descriptor memory args.slotId ∧ args.length ≠ 0 ∧
        ∃ message, args.writer (serializeTransfer operation access)
          (memory.states (storageSlotIdIndex args.slotId).toNat).commandId
          (storageSlotIdIndex args.slotId) = (.ok (), message)) := by
      rintro ⟨hFree, hLength, hWrite⟩
      exact hReady ⟨hFree, hLength,
        (args.writer_ok_iff operation access hFree.commandId_ne hLength).mp hWrite⟩
    have hAiv : ∃ result, aivStorageTransferSends (serializeTransfer operation access) descriptor
        memory args = .done result := by
      rw [aivStorageTransferSends]
      split
      · exact ⟨_, rfl⟩
      · exact aivSubmitSends_refused hNotReady
    have hAicpu : ∃ result, aicpuStorageTransferSends (serializeTransfer operation access)
        descriptor memory args = .done result := by
      rw [aicpuStorageTransferSends]
      split
      · exact ⟨_, rfl⟩
      · exact aicpuSubmitSends_refused hNotReady
    obtain ⟨result, hAiv⟩ := hAiv
    obtain ⟨result', hAicpu⟩ := hAicpu
    rw [hAiv, hAicpu]
    exact ⟨rfl, fun hSome => absurd rfl hSome⟩

/-- The entry point of the host succeeds only through the operation behind it. -/
theorem raBackendStorage_eq {connected : Bool} {submission : Submission} {outcomes : RaOutcomes}
    (h : (raBackendStorage descriptor connected memory submission outcomes).replay
      (fun _ => .ok ()) = (0, memory')) :
    storageSlotIdValid descriptor submission.slotId ∧
      (raSubmitSends (raStorageContext descriptor (storageSlotIdIndex submission.slotId))
        (descriptor.slots (storageSlotIdIndex submission.slotId).toNat).qpIndex memory submission
        outcomes).replay (fun _ => .ok ()) = (.ok (), memory') ∧
      (raBackendStorage descriptor connected memory submission outcomes).requests
          (fun _ => .ok ()) =
        (raSubmitSends (raStorageContext descriptor (storageSlotIdIndex submission.slotId))
          (descriptor.slots (storageSlotIdIndex submission.slotId).toNat).qpIndex memory submission
          outcomes).requests (fun _ => .ok ()) := by
  rw [raBackendStorage] at h ⊢
  split at h
  · cases h
  · rename_i hInvalid
    rw [if_neg hInvalid]
    simp only [not_or, Decidable.not_not] at hInvalid
    dsimp only at h ⊢
    split at h
    · cases h
    · rename_i hConnected
      rw [if_neg hConnected]
      rw [Program.replay_bind] at h
      rw [Program.requests_bind]
      refine ⟨hInvalid.2, ?_⟩
      generalize (raSubmitSends (raStorageContext descriptor
        (storageSlotIdIndex submission.slotId)) (descriptor.slots
          (storageSlotIdIndex submission.slotId).toNat).qpIndex memory submission
          outcomes).replay (fun _ => .ok ()) = result at h ⊢
      obtain ⟨outcome, left⟩ := result
      cases outcome with
      | error error => cases h
      | ok _ =>
          cases h
          exact ⟨rfl, List.append_nil _⟩

/-- Whatever the host backend submits, the two devices would have submitted from
the same state: the same records, the same request on the same queue, the same
slot state. Single transfers are submitted by one device exactly when they are
submitted by the other. -/
theorem backends_emit_same (descriptor : StorageDescriptor) (memory : DeviceMemory) :
    (∀ submission connected outcomes memory',
      (raBackendStorage descriptor connected memory submission outcomes).replay (fun _ => .ok ()) =
        (0, memory') →
      SameEmission descriptor memory submission.slotId
        (raBackendStorage descriptor connected memory submission outcomes)
        (aivSubmitSends descriptor memory submission)
        (aicpuSubmitSends descriptor memory submission) memory') ∧
    ∀ submission, (∃ args, submission = .read args ∨ submission = .write args) → ∀ sent,
      (aivSubmitSends descriptor memory submission).requests (fun _ => sent) =
        (aicpuSubmitSends descriptor memory submission).requests (fun _ => sent) ∧
      ((aivSubmitSends descriptor memory submission).requests (fun _ => sent) ≠ [] →
        ∃ memory', (aivSubmitSends descriptor memory submission).replay (fun _ => sent) =
            (sent, memory') ∧
          (aicpuSubmitSends descriptor memory submission).replay (fun _ => sent) =
            (.ok sent, memory')) := by
  constructor
  · intro submission connected outcomes memory' h
    obtain ⟨hValid, hHost, hRequests⟩ := raBackendStorage_eq h
    rw [SameEmission, hRequests]
    cases submission with
    | read args => exact transfer_follows hValid hHost
    | write args => exact transfer_follows hValid hHost
    | batchRead args entries => exact batch_follows hValid hHost
    | batchWrite args entries => exact batch_follows hValid hHost
  · rintro submission ⟨args, rfl | rfl⟩ sent
    · exact devices_agree args .read kRemoteWrite sent
    · exact devices_agree args .write kRemoteRead sent

/-- A read of eight bytes, and a batch of two writes. -/
def readAndBatch : List Submission := [
  .read {
    slotId := 0
    serverOffset := 16
    bufferAddress := 4096
    bufferKey := 9
    length := 8 },
  .batchWrite {
    slotId := 0
    entryCount := 2
    entriesAddress := 20480
    entriesKey := 9 } ([(0, 16), (48, 8)].flatMap fun (offset, length) =>
      (serializeStorageBatchWriteEntry {
        offset := offset
        length := length
        data := { address := 4096 + offset, length := length, remoteKey := 9 } }
        (List.replicate kStorageBatchEntryBytes 0)).2)]

/-- All backends send them alike. -/
theorem backends_emit_readAndBatch : ∀ submission ∈ readAndBatch, ∃ memory',
    SameEmission soleDescriptor reservedMemory submission.slotId
      (raBackendStorage soleDescriptor true reservedMemory submission copiesSucceed)
      (aivSubmitSends soleDescriptor reservedMemory submission)
      (aicpuSubmitSends soleDescriptor reservedMemory submission) memory' := by
  have hSent : ∀ submission ∈ readAndBatch,
      ((raBackendStorage soleDescriptor true reservedMemory submission copiesSucceed).replay
        fun _ => .ok ()).1 = 0 := by
    decide +kernel
  intro submission hSubmission
  exact ⟨_, (backends_emit_same soleDescriptor reservedMemory).1 submission true copiesSucceed _
    (Prod.ext (hSent submission hSubmission) rfl)⟩

end Agreement

end NdsStorage.Client
