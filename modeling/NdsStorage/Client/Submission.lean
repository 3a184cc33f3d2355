import NdsStorage.Client.Backends
import NdsStorage.Protocol.RoundTrip

/-! What a submission can do to the memory of the device, whichever backend
makes it. A submission is refused, or it is withdrawn after the slot was taken,
or it is posted: the slot then shows a pending record with the identifier of
its reservation, and the command buffer holds a command with that identifier. -/
namespace NdsStorage.Client

open Bytes

/-- One call of a storage operation, with the entries that a batch finds in memory. -/
inductive Submission where
  | read (args : TransferArgs)
  | write (args : TransferArgs)
  | batchRead (args : BatchArgs) (entries : Buffer)
  | batchWrite (args : BatchArgs) (entries : Buffer)
deriving DecidableEq, Repr

def Submission.slotId : Submission → UInt32
  | .read args | .write args => args.slotId
  | .batchRead args _ | .batchWrite args _ => args.slotId

def aivSubmit (descriptor : StorageDescriptor) (memory : DeviceMemory) (submission : Submission)
    (sent : Int32) : Int32 × DeviceMemory :=
  match submission with
  | .read args => aivStorageRead descriptor memory args sent
  | .write args => aivStorageWrite descriptor memory args sent
  | .batchRead args entries => aivStorageBatchRead descriptor memory args entries sent
  | .batchWrite args entries => aivStorageBatchWrite descriptor memory args entries sent

def aicpuSubmit (descriptor : StorageDescriptor) (memory : DeviceMemory)
    (submission : Submission) (sent : Int32) : Except UInt32 Int32 × DeviceMemory :=
  match submission with
  | .read args => aicpuStorageRead descriptor memory args sent
  | .write args => aicpuStorageWrite descriptor memory args sent
  | .batchRead args entries => aicpuStorageBatchRead descriptor memory args entries sent
  | .batchWrite args entries => aicpuStorageBatchWrite descriptor memory args entries sent

def raSubmit (context : RaStorageContext) (memory : DeviceMemory) (submission : Submission)
    (outcomes : RaOutcomes) : Except Error Unit × DeviceMemory :=
  match submission with
  | .read args => raStorageRead context memory args outcomes
  | .write args => raStorageWrite context memory args outcomes
  | .batchRead args entries => raStorageBatchRead context memory args entries outcomes
  | .batchWrite args entries => raStorageBatchWrite context memory args entries outcomes

/-- The fields of a command message by which its answer is recognized. -/
structure Carries (message : Buffer) (commandId : UInt64) (slotIndex : UInt32)
    (announced : UInt64) : Prop where
  commandId_eq : readU64 message 8 = commandId
  announced_eq : readU64 message 24 = announced
  slotIndex_eq : readU32 message 56 = slotIndex

section Writers

/-- A serialized command carries its identifier, its slot and its length. -/
theorem commandLayout_carries (operation : StorageOperation) (command : StorageTransferCommand)
    (access : UInt32) :
    Carries (commandLayout operation command access (List.replicate kStorageCommandBytes 0))
      command.commandId command.slotIndex command.length := by
  obtain ⟨-, -, -, hId, -, hLength, -, -, -, -, hSlot, -⟩ := commandLayout_fields operation command
    access (Nat.le_of_eq List.length_replicate.symm)
  exact ⟨hId, hLength, hSlot⟩

/-- A writer whose messages announce the given number of bytes. -/
def CommandWriter.Announces (write : CommandWriter) (announced : UInt64) : Prop :=
  ∀ commandId slotIndex message, write commandId slotIndex = (.ok (), message) →
    Carries message commandId slotIndex announced

/-- A transfer announces the bytes of its length. -/
theorem TransferArgs.writer_announces (args : TransferArgs) (operation : StorageOperation)
    (access : UInt32) :
    (args.writer (serializeTransfer operation access)).Announces args.length.toUInt64 := by
  intro commandId slotIndex message h
  rw [TransferArgs.writer, serializeTransfer_eq (Nat.le_of_eq List.length_replicate.symm)] at h
  split at h
  · cases h
  · cases h
    exact commandLayout_carries operation (args.command commandId slotIndex) access

/-- A batch announces the bytes of all its entries. -/
theorem BatchArgs.writer_announces (args : BatchArgs) (total : UInt64)
    (operation : StorageOperation) :
    (args.writer total (serializeBatch operation)).Announces total := by
  intro commandId slotIndex message h
  rw [BatchArgs.writer, serializeBatch] at h
  split at h
  · cases h
  · rw [serializeCommand, if_neg (Nat.not_lt.mpr (Nat.le_of_eq List.length_replicate.symm))] at h
    split at h
    · cases h
    · cases h
      exact commandLayout_carries operation
        (args.command total commandId slotIndex).asTransfer kRemoteRead

end Writers

section Pending

/-- The pending record of a command. -/
def pendingRecord (commandId : UInt64) : Buffer :=
  completionLayout (pendingCompletion commandId) (List.replicate kStorageCompletionBytes 0)

theorem serializePending_eq {commandId : UInt64} (h : commandId ≠ 0) :
    serializePending commandId = (.ok (), pendingRecord commandId) := by
  rw [serializePending, serializeStorageCompletion_eq _ (Nat.le_of_eq List.length_replicate.symm)]
  exact if_pos (by simp [completionValid, pendingCompletion, h])

/-- The pending record is read back as pending. -/
theorem deserialize_pendingRecord {commandId : UInt64} (h : commandId ≠ 0) :
    deserializeStorageCompletion (pendingRecord commandId) = .ok (pendingCompletion commandId) :=
  deserializeStorageCompletion_layout _ (Nat.le_of_eq List.length_replicate.symm)
    (by simp [completionValid, pendingCompletion, h])

end Pending

/-- The memory after a command has been posted for a slot. -/
def DeviceMemory.posted (memory : DeviceMemory) (index : Nat) (expected : UInt32)
    (message : Buffer) (sent : Int32) : DeviceMemory :=
  ((memory.storeCompletion index (pendingRecord (memory.states index).commandId)).storeCommand
    index message).setState index { memory.states index with
      expectedBytes := expected
      inFlight := 1
      status := sent }

/-- What a submission can do. It is accepted if it is posted and the send
reports no error; `checked` is what the backend has then checked of the slot. -/
inductive SubmitEffect (memory : DeviceMemory) (slotIndex : UInt32) (sent : Int32)
    (checked accepted : Prop) : DeviceMemory → Prop
  | refused (hRefused : ¬ accepted) : SubmitEffect memory slotIndex sent checked accepted memory
  | withdrawn (hRefused : ¬ accepted) {expected : UInt32}
      (hFree : (memory.states slotIndex.toNat).inFlight = 0) :
      SubmitEffect memory slotIndex sent checked accepted
        (memory.setState slotIndex.toNat { memory.states slotIndex.toNat with
          expectedBytes := expected
          inFlight := 0
          status := 0 })
  | posted (hChecked : checked) (hAccepted : accepted ↔ sent = 0) {expected : UInt32}
      {message : Buffer}
      (hId : (memory.states slotIndex.toNat).commandId ≠ 0)
      (hFree : (memory.states slotIndex.toNat).inFlight = 0) (hExpected : expected ≠ 0)
      (hMessage : Carries message (memory.states slotIndex.toNat).commandId slotIndex
        expected.toUInt64) :
      SubmitEffect memory slotIndex sent checked accepted
        (memory.posted slotIndex.toNat expected message sent)

section Aiv

variable {descriptor : StorageDescriptor} {memory memory' : DeviceMemory}
  {slotId expected : UInt32} {sent result : Int32}

/-- When a device can claim a slot, and what claiming it stores. -/
theorem aivClaim_eq_some (h : aivClaim descriptor memory slotId expected = some memory') :
    storageState descriptor memory (storageSlotIdIndex slotId) =
        some (memory.states (storageSlotIdIndex slotId).toNat) ∧
      storageSlotIdValid descriptor slotId ∧
      (memory.states (storageSlotIdIndex slotId).toNat).commandId ≠ 0 ∧ expected ≠ 0 ∧
      (memory.states (storageSlotIdIndex slotId).toNat).inFlight = 0 ∧
      memory' = memory.setState (storageSlotIdIndex slotId).toNat
        { memory.states (storageSlotIdIndex slotId).toNat with
          expectedBytes := expected
          inFlight := 1
          status := 0 } := by
  have hState : ∀ state, storageState descriptor memory (storageSlotIdIndex slotId) = some state →
      state = memory.states (storageSlotIdIndex slotId).toNat := by
    intro state hSome
    exact (Option.some.inj (Option.ite_none_left_eq_some.mp hSome).2).symm
  unfold aivClaim at h
  split at h
  · cases h
  · rename_i state hSome
    cases hState state hSome
    obtain ⟨hOpen, hSame⟩ := Option.ite_none_left_eq_some.mp h
    simp only [not_or, Decidable.not_not] at hOpen
    exact ⟨hSome, hOpen.1, hOpen.2.1, hOpen.2.2.1, hOpen.2.2.2, (Option.some.inj hSame).symm⟩

/-- What a submission of the vector core does to the memory. -/
theorem aivStorageSubmit_effect {write : CommandWriter}
    (hWrite : write.Announces expected.toUInt64)
    (h : aivStorageSubmit descriptor memory slotId expected write sent = (result, memory')) :
    SubmitEffect memory (storageSlotIdIndex slotId) sent (storageSlotIdValid descriptor slotId)
      (result = 0) memory' := by
  unfold aivStorageSubmit at h
  split at h
  · cases h
    exact .refused (by decide)
  · rename_i message hMessage
    unfold aivExecuteSerialized at h
    split at h
    · cases h
      exact .refused (by decide)
    · rename_i claimed hClaim
      obtain ⟨hSome, hValid, hId, hExpected, hFree, rfl⟩ := aivClaim_eq_some hClaim
      rw [aivCommandId, hSome] at hMessage
      simp only [DeviceMemory.setState, Function.update_self, serializePending_eq hId] at h
      cases h
      have hPosted : SubmitEffect memory (storageSlotIdIndex slotId) sent
          (storageSlotIdValid descriptor slotId) (sent = 0) (memory.posted
            (storageSlotIdIndex slotId).toNat expected message sent) :=
        .posted hValid Iff.rfl hId hFree hExpected (hWrite _ _ _ hMessage)
      simpa only [DeviceMemory.posted, DeviceMemory.setState, DeviceMemory.storeCommand,
        DeviceMemory.storeCompletion, Function.update_idem] using hPosted

theorem aivSubmit_effect {submission : Submission}
    (h : aivSubmit descriptor memory submission sent = (result, memory')) :
    SubmitEffect memory (storageSlotIdIndex submission.slotId) sent
      (storageSlotIdValid descriptor submission.slotId) (result = 0) memory' := by
  have hTransfer : ∀ operation access args, aivStorageTransfer (serializeTransfer operation access)
      descriptor memory args sent = (result, memory') →
      SubmitEffect memory (storageSlotIdIndex args.slotId) sent
        (storageSlotIdValid descriptor args.slotId) (result = 0) memory' := by
    intro operation access args h
    unfold aivStorageTransfer at h
    split at h
    · cases h
      exact .refused (by decide)
    · exact aivStorageSubmit_effect (args.writer_announces operation access) h
  have hBatch : ∀ operation deserialize args entries,
      aivStorageBatch (serializeBatch operation) deserialize descriptor memory args entries sent =
        (result, memory') →
      SubmitEffect memory (storageSlotIdIndex args.slotId) sent
        (storageSlotIdValid descriptor args.slotId) (result = 0) memory' := by
    intro operation deserialize args entries h
    unfold aivStorageBatch at h
    split at h
    · cases h
      exact .refused (by decide)
    · exact aivStorageSubmit_effect (args.writer_announces _ operation) h
  cases submission with
  | read args => exact hTransfer _ _ args h
  | write args => exact hTransfer _ _ args h
  | batchRead args entries => exact hBatch _ _ args entries h
  | batchWrite args entries => exact hBatch _ _ args entries h

end Aiv

section Aicpu

variable {descriptor : StorageDescriptor} {memory memory' : DeviceMemory}
  {slotId expected : UInt32} {sent : Int32} {result : Except UInt32 Int32}

/-- The return value of a send is passed on unchanged. -/
theorem setReturnValue_neg (sent : Int32) :
    setReturnValue (if sent = 0 then 0 else (-sent).toUInt32) = sent := by
  by_cases hSent : sent = 0
  · rw [if_pos hSent, hSent]
    rfl
  · rw [if_neg hSent, setReturnValue, if_neg]
    · simp
    · intro hZero
      apply hSent
      have hBack := congrArg (fun value => -value.toInt32) hZero
      simpa using hBack

/-- What a submission of the control processor does to the memory. -/
theorem aicpuExecute_effect {write : CommandWriter}
    (hWrite : write.Announces expected.toUInt64)
    (h : aicpuExecute descriptor memory slotId expected write sent = (result, memory')) :
    SubmitEffect memory (storageSlotIdIndex slotId) sent (storageSlotIdValid descriptor slotId)
      (result = .ok 0) memory' := by
  unfold aicpuExecute at h
  split at h
  · cases h
    exact .refused (by simp)
  · rename_i hValid
    simp only [not_or, Decidable.not_not] at hValid
    dsimp only at h
    split at h
    · cases h
      exact .refused (by simp)
    · rename_i hFree
      simp only [not_or, Decidable.not_not] at hFree
      rw [serializePending_eq hFree.1] at h
      split at h
      · rename_i pending message hPending hMessage
        cases hPending
        cases h
        rw [setReturnValue_neg]
        have hPosted : SubmitEffect memory (storageSlotIdIndex slotId) sent
            (storageSlotIdValid descriptor slotId) ((Except.ok sent : Except UInt32 Int32) = .ok 0)
            (memory.posted (storageSlotIdIndex slotId).toNat expected message sent) :=
          .posted hValid.2.1 (by simp) hFree.1 hFree.2 hValid.2.2 (hWrite _ _ _ hMessage)
        exact hPosted
      · cases h
        exact .withdrawn (by decide) hFree.2

theorem aicpuSubmit_effect {submission : Submission}
    (h : aicpuSubmit descriptor memory submission sent = (result, memory')) :
    SubmitEffect memory (storageSlotIdIndex submission.slotId) sent
      (storageSlotIdValid descriptor submission.slotId) (result = .ok 0) memory' := by
  have hTransfer : ∀ operation access args,
      aicpuStorageTransfer (serializeTransfer operation access) descriptor memory args sent =
        (result, memory') →
      SubmitEffect memory (storageSlotIdIndex args.slotId) sent
        (storageSlotIdValid descriptor args.slotId) (result = .ok 0) memory' := by
    intro operation access args h
    unfold aicpuStorageTransfer at h
    split at h
    · cases h
      exact .refused (by simp)
    · exact aicpuExecute_effect (args.writer_announces operation access) h
  have hBatch : ∀ operation deserialize args entries,
      aicpuStorageBatch (serializeBatch operation) deserialize descriptor memory args entries
        sent = (result, memory') →
      SubmitEffect memory (storageSlotIdIndex args.slotId) sent
        (storageSlotIdValid descriptor args.slotId) (result = .ok 0) memory' := by
    intro operation deserialize args entries h
    exact aicpuExecute_effect (args.writer_announces _ operation) h
  cases submission with
  | read args => exact hTransfer _ _ args h
  | write args => exact hTransfer _ _ args h
  | batchRead args entries => exact hBatch _ _ args entries h
  | batchWrite args entries => exact hBatch _ _ args entries h

end Aicpu

section Ra

variable {context : RaStorageContext} {memory memory' : DeviceMemory} {outcomes : RaOutcomes}

/-- The parts of the context's check that do not depend on the state record. -/
def RaStorageContext.Usable (context : RaStorageContext) : Prop :=
  ∀ state : StorageState, state.commandId ≠ 0 → state.status = 0 →
    raValidateContext context state = .ok ()

/-- When the host can claim a slot, and what claiming it stores. -/
theorem raClaim_eq_ok {state claimed : StorageState} {expected : UInt64}
    (h : raClaim context state expected = .ok claimed) :
    context.Usable ∧ state.commandId ≠ 0 ∧ state.status = 0 ∧ state.inFlight = 0 ∧ expected ≠ 0 ∧
      expected.toUInt32.toUInt64 = expected ∧ claimed = { state with
        expectedBytes := expected.toUInt32
        inFlight := 1 } := by
  unfold raClaim raValidateContext at h
  split at h
  · cases h
  · rename_i hValid
    simp only [not_or, Decidable.not_not] at hValid
    have hUsable : context.Usable := by
      intro other hOther hClear
      rw [raValidateContext, if_neg]
      simp only [not_or, Decidable.not_not]
      obtain ⟨hAddress, hKey, hLength, hRecord, hRecordKey, hRecordLength, hCapacity, -, -⟩ :=
        hValid
      exact ⟨hAddress, hKey, hLength, hRecord, hRecordKey, hRecordLength, hCapacity, hOther,
        hClear⟩
    obtain ⟨-, -, -, -, -, -, -, hId, hStatus⟩ := hValid
    simp only [bind, Except.bind] at h
    split at h
    · cases h
    · rename_i hOpen
      simp only [not_or, Decidable.not_not, gt_iff_lt, UInt64.not_lt] at hOpen
      cases h
      have hSmall : expected.toNat ≤ 4294967295 := UInt64.le_iff_toNat_le.mp hOpen.2.1
      refine ⟨hUsable, hId, hStatus, hOpen.2.2, hOpen.1, ?_, rfl⟩
      apply UInt64.toNat_inj.mp
      simp only [UInt32.toNat_toUInt64, UInt64.toNat_toUInt32]
      omega

/-- A submission of the host backend that returns without an error is posted. -/
theorem raExecute_effect {write : CommandWriter} {expected : UInt64}
    (hWrite : write.Announces expected)
    (h : raExecute context memory write expected outcomes = (.ok (), memory')) :
    SubmitEffect memory context.slotIndex 0 context.Usable True memory' := by
  unfold raExecute at h
  dsimp only at h
  split at h
  · cases h
  · rename_i claimed hClaim
    obtain ⟨hUsable, hId, hStatus, hFree, hExpected, hExact, rfl⟩ := raClaim_eq_ok hClaim
    rw [serializePending_eq hId] at h
    dsimp only at h
    split at h
    · cases h
    · split at h
      · cases h
      · rename_i message hMessage
        split at h
        · cases h
        · split at h
          · cases h
          · cases h
            have hNarrow : expected.toUInt32 ≠ 0 := by
              intro hZero
              rw [hZero] at hExact
              exact hExpected hExact.symm
            have hPosted : SubmitEffect memory context.slotIndex 0 context.Usable True
                (memory.posted context.slotIndex.toNat expected.toUInt32 message 0) :=
              .posted hUsable (by simp) hId hFree hNarrow (hExact.symm ▸ hWrite _ _ _ hMessage)
            rw [hStatus]
            exact hPosted

/-- What a submission of the host that succeeds does to the memory. -/
theorem raSubmit_effect {submission : Submission}
    (h : raSubmit context memory submission outcomes = (.ok (), memory')) :
    SubmitEffect memory context.slotIndex 0 context.Usable True memory' := by
  have hTransfer : ∀ invalid operation access args,
      raStorageTransfer invalid (serializeTransfer operation access) context memory args outcomes =
        (.ok (), memory') → SubmitEffect memory context.slotIndex 0 context.Usable True memory' := by
    intro invalid operation access args h
    unfold raStorageTransfer at h
    split at h
    · cases h
    · exact raExecute_effect (args.writer_announces operation access) h
  have hBatch : ∀ operation deserialize args entries,
      raStorageBatch (serializeBatch operation) deserialize context memory args entries outcomes =
        (.ok (), memory') → SubmitEffect memory context.slotIndex 0 context.Usable True memory' := by
    intro operation deserialize args entries h
    unfold raStorageBatch at h
    split at h
    · cases h
    · exact raExecute_effect (args.writer_announces _ operation) h
  cases submission with
  | read args => exact hTransfer _ _ _ args h
  | write args => exact hTransfer _ _ _ args h
  | batchRead args entries => exact hBatch _ _ args entries h
  | batchWrite args entries => exact hBatch _ _ args entries h

end Ra

section Waits

variable {descriptor : StorageDescriptor} {memory : DeviceMemory} {slotId : UInt32}
  {completion : StorageCompletion}

theorem storageState_valid (h : storageSlotIdValid descriptor slotId) :
    storageState descriptor memory (storageSlotIdIndex slotId) =
      some (memory.states (storageSlotIdIndex slotId).toNat) := by
  simp only [storageSlotIdValid, storageSlotValid, storageDescriptorValid, Bool.and_eq_true,
    decide_eq_true_eq] at h
  rw [storageState, if_neg]
  rintro (hAddress | hCount)
  · exact h.1.1.1.1.1.1.1.1.1.1.1.1.1.1.1.1.1.2 hAddress
  · exact UInt32.not_lt.mpr hCount h.1.1.1.1.1.1.1.1.1.2

/-- A slot whose command has been posted without an error. -/
structure Awaiting (state : StorageState) : Prop where
  commandId_ne : state.commandId ≠ 0
  expectedBytes_ne : state.expectedBytes ≠ 0
  inFlight_ne : state.inFlight ≠ 0
  status_eq : state.status = 0

/-- A completion record of the slot's own command has landed. -/
structure Answered (memory : DeviceMemory) (index : Nat) (completion : StorageCompletion) :
    Prop where
  record : deserializeStorageCompletion (memory.completionBytes index) = .ok completion
  complete : completion.state = .complete
  commandId_eq : completion.commandId = (memory.states index).commandId

/-- What the device backends make of the record of a command. -/
def waitReturn (expected : UInt32) (completion : StorageCompletion) : Int32 :=
  if completion.bytesTransferred ≠ expected.toUInt64 then
    setReturnValue OperationStatus.invalidArgument.code
  else if completion.status = .success then
    setReturnValue OperationStatus.success.code
  else
    setReturnValue OperationStatus.providerFailed.code

/-- The probe of a slot that has been answered. -/
theorem inspectSlot_answered {index : Nat} (hAnswered : Answered memory index completion)
    (hStatus : (memory.states index).status = 0) :
    inspectSlot (memory.states index) (memory.completionBytes index) =
      waitReturn (memory.states index).expectedBytes completion := by
  simp only [inspectSlot, hStatus, hAnswered.record, hAnswered.complete, hAnswered.commandId_eq,
    ne_eq, not_true_eq_false, if_false, false_or]
  rfl

/-- The wait of the vector core on a slot that has been answered. -/
theorem aivStorageWait_answered (hValid : storageSlotIdValid descriptor slotId)
    (hAnswered : Answered memory (storageSlotIdIndex slotId).toNat completion)
    (hAwaiting : Awaiting (memory.states (storageSlotIdIndex slotId).toNat)) :
    aivStorageWait descriptor memory slotId =
      waitReturn (memory.states (storageSlotIdIndex slotId).toNat).expectedBytes completion := by
  obtain ⟨hId, hExpected, hFlight, hStatus⟩ := hAwaiting
  rw [aivStorageWait, storageState_valid hValid]
  dsimp only
  rw [if_neg (by simp [hValid, hId, hExpected, hFlight])]
  exact inspectSlot_answered hAnswered hStatus

theorem aicpuStorageWait_answered (hValid : storageSlotIdValid descriptor slotId)
    (hAnswered : Answered memory (storageSlotIdIndex slotId).toNat completion)
    (hAwaiting : Awaiting (memory.states (storageSlotIdIndex slotId).toNat)) :
    aicpuStorageWait descriptor memory slotId =
      .ok (waitReturn (memory.states (storageSlotIdIndex slotId).toNat).expectedBytes
        completion) := by
  rw [aicpuStorageWait, if_neg (not_not_intro hValid)]
  dsimp only
  rw [if_neg hAwaiting.inFlight_ne, inspectSlot_answered hAnswered hAwaiting.status_eq]

theorem raStorageWait_answered {context : RaStorageContext} (hUsable : context.Usable)
    (hAnswered : Answered memory context.slotIndex.toNat completion)
    (hAwaiting : Awaiting (memory.states context.slotIndex.toNat)) :
    raStorageWait context memory (.ok ()) =
      if completion.bytesTransferred ≠
          (memory.states context.slotIndex.toNat).expectedBytes.toUInt64 then
        .error {
          code := .protocol
          message := "storage completion does not match the slot state" }
      else
        .ok completion := by
  have hContext := hUsable _ hAwaiting.commandId_ne hAwaiting.status_eq
  simp only [raStorageWait, hContext, hAnswered.record, hAnswered.complete,
    hAnswered.commandId_eq, bind, Except.bind, ne_eq, not_true_eq_false, if_false, false_or]
  split
  · rfl
  · rfl

/-- What a successful wait has seen. -/
structure WaitAccepts (memory : DeviceMemory) (index : Nat) (completion : StorageCompletion) :
    Prop where
  inFlight_ne : (memory.states index).inFlight ≠ 0
  record : deserializeStorageCompletion (memory.completionBytes index) = .ok completion
  complete : completion.state = .complete
  commandId_eq : completion.commandId = (memory.states index).commandId
  bytes_eq : completion.bytesTransferred = (memory.states index).expectedBytes.toUInt64
  success : completion.status = .success

/-- A probe that succeeds has read a record it accepts. -/
theorem inspectSlot_accepts {index : Nat} (hFlight : (memory.states index).inFlight ≠ 0)
    (h : inspectSlot (memory.states index) (memory.completionBytes index) = 0) :
    ∃ completion, WaitAccepts memory index completion := by
  unfold inspectSlot at h
  split at h
  · rename_i hStatus
    have hBack := setReturnValue_neg (memory.states index).status
    rw [if_neg hStatus] at hBack
    rw [hBack] at h
    exact absurd h hStatus
  · split at h
    · cases h
    · rename_i completion hRecord
      split at h
      · cases h
      · rename_i hComplete
        split at h
        · cases h
        · rename_i hMatch
          split at h
          · rename_i hSuccess
            simp only [not_or, Decidable.not_not] at hMatch hComplete
            exact ⟨completion, hFlight, hRecord, hComplete, hMatch.1, hMatch.2, hSuccess⟩
          · cases h

theorem aivStorageWait_accepts (h : aivStorageWait descriptor memory slotId = 0) :
    ∃ completion, WaitAccepts memory (storageSlotIdIndex slotId).toNat completion := by
  unfold aivStorageWait at h
  split at h
  · cases h
  · rename_i state hSome
    cases Option.some.inj (Option.ite_none_left_eq_some.mp hSome).2
    split at h
    · cases h
    · rename_i hOpen
      simp only [not_or, Decidable.not_not] at hOpen
      exact inspectSlot_accepts hOpen.2.2.2 h

theorem aicpuStorageWait_accepts (h : aicpuStorageWait descriptor memory slotId = .ok 0) :
    ∃ completion, WaitAccepts memory (storageSlotIdIndex slotId).toNat completion := by
  unfold aicpuStorageWait at h
  split at h
  · cases h
  · dsimp only at h
    split at h
    · cases h
    · rename_i hFlight
      exact inspectSlot_accepts hFlight (Except.ok.inj h)

end Waits

section Samples

/-- One queue with one slot. -/
def soleDescriptor : StorageDescriptor where
  transport := {
    qpDescriptorsAddress := 1024
    qpStatesAddress := 2048
    qpCount := 1
    reserved := 0 }
  slotDescriptorsAddress := 3072
  storageStatesAddress := 3584
  slotCount := 1
  reserved := 0
  capacity := 64
  slots := fun _ => {
    commandBuffer := { address := 8192, length := 64, localKey := 5 }
    completionBuffer := { address := 12288, length := 32, localKey := 5 }
    qpIndex := 0
    reserved := 0 }

/-- A slot reserved for command seven. -/
def reservedMemory : DeviceMemory where
  states := fun _ => { commandId := 7 }
  commandBytes := fun _ => List.replicate kStorageCommandBytes 0
  completionBytes := fun _ => List.replicate kStorageCompletionBytes 0

/-- Every copy of the host succeeds, and so does the send. -/
def copiesSucceed : RaOutcomes where
  entriesCopied := .ok ()
  pendingCopied := .ok ()
  commandCopied := .ok ()
  sent := .ok ()

end Samples

end NdsStorage.Client
