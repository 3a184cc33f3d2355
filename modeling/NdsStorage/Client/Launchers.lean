import NdsStorage.Client.Agreement

/-! The launchers of the device backends. The host launches a storage operation
and either waits for its return value or goes on at once. In the second case
the return value of the kernel is written to the status word of the slot, where
a later wait finds it. Launches and synchronizations succeed here. -/
namespace NdsStorage.Client

open Bytes Interaction

inductive DeviceBackend where
  | aiv | aicpu
deriving DecidableEq, Repr

/-- The value of a place for a return value that the kernel has not written. -/
def kUnwrittenReturnValue : Int32 := Int32.minValue

def DeviceMemory.storeStatus (memory : DeviceMemory) (index : Nat) (value : Int32) :
    DeviceMemory :=
  memory.setState index { memory.states index with status := value }

section Submissions

/-- A launch that waits returns what the kernel returned. -/
def launchResult (failure : String) (value : Int32) : Except Error Unit :=
  if value = 0 then .ok ()
  else .error { code := .runtime, message := failure ++ toString value.toInt }

def aivLaunchStorageOperation (sync : Bool) (descriptor : StorageDescriptor)
    (memory : DeviceMemory) (submission : Submission) :
    Sends Int32 (Except Error Unit × DeviceMemory) :=
  (aivSubmitSends descriptor memory submission).bind fun returned =>
    if sync then .done (launchResult "AIV storage operation failed: " returned.1, returned.2)
    else
      .done (.ok (),
        returned.2.storeStatus (storageSlotIdIndex submission.slotId).toNat returned.1)

def aicpuStorageEntry : Submission → String
  | .read _ => "nds_aicpu_storage_read_kernel"
  | .write _ => "nds_aicpu_storage_write_kernel"
  | .batchRead _ _ => "nds_aicpu_storage_batch_read_kernel"
  | .batchWrite _ _ => "nds_aicpu_storage_batch_write_kernel"

def aicpuFailure (entry : String) : String := "AICPU device operation failed (" ++ entry ++ "): "

/-- The place for the return value, once a kernel has left it alone or written it. -/
def aicpuReturnValue : Except UInt32 Int32 → Int32
  | .ok value => value
  | .error _ => kUnwrittenReturnValue

/-- A kernel that stops early does not write its return value. -/
def aicpuLaunchStorage (sync : Bool) (descriptor : StorageDescriptor) (memory : DeviceMemory)
    (submission : Submission) : Sends Int32 (Except Error Unit × DeviceMemory) :=
  (aicpuSubmitSends descriptor memory submission).bind fun returned =>
    if sync then
      .done (launchResult (aicpuFailure (aicpuStorageEntry submission))
        (aicpuReturnValue returned.1), returned.2)
    else
      match returned.1 with
      | .ok value =>
          .done (.ok (),
            returned.2.storeStatus (storageSlotIdIndex submission.slotId).toNat value)
      | .error _ => .done (.ok (), returned.2)

def launchSubmission (backend : DeviceBackend) (sync : Bool) :
    StorageDescriptor → DeviceMemory → Submission → Sends Int32 (Except Error Unit × DeviceMemory) :=
  match backend with
  | .aiv => aivLaunchStorageOperation sync
  | .aicpu => aicpuLaunchStorage sync

end Submissions

section Waits

/-- Whether a text occurs in another one. -/
def containsText (pattern : List Char) : List Char → Bool
  | [] => pattern.isEmpty
  | head :: tail => pattern.isPrefixOf (head :: tail) || containsText pattern tail

/-- The return value of the kernel that waits. -/
def waitKernel (backend : DeviceBackend) (descriptor : StorageDescriptor) (memory : DeviceMemory)
    (slotId : UInt32) : Int32 :=
  match backend with
  | .aiv => aivStorageWait descriptor memory slotId
  | .aicpu =>
      if ¬ storageSlotIdValid descriptor slotId then
        setReturnValue OperationStatus.invalidArgument.code
      else aicpuReturnValue (aicpuStorageWait descriptor memory slotId)

def waitFailure : DeviceBackend → String
  | .aiv => "AIV storage wait failed: "
  | .aicpu => aicpuFailure "nds_aicpu_storage_wait_kernel"

/-- One probe of a slot. -/
def probe (backend : DeviceBackend) (descriptor : StorageDescriptor) (slotId : UInt32)
    (memory : DeviceMemory) : Except Error Unit :=
  launchResult (waitFailure backend) (waitKernel backend descriptor memory slotId)

/-- A failed probe is repeated if its text names the code of a full queue. -/
def pollsAgain (error : Error) : Bool := containsText ": -4".toList error.message.toList

/-- What follows a probe: its outcome, or another round. -/
def concludeProbe (probed again : Except Error Unit) : Except Error Unit :=
  match probed with
  | .ok () => .ok ()
  | .error error => if pollsAgain error then again else .error error

/-- Probe a slot until it has an outcome. The deadline passes after the probes
that are given, each with the memory that it finds. -/
def storageWaitWithConfig (backend : DeviceBackend) (descriptor : StorageDescriptor)
    (slotId : UInt32) : DeviceMemory → List DeviceMemory → Except Error Unit
  | memory, [] =>
      concludeProbe (probe backend descriptor slotId memory)
        (.error {
          code := .protocol
          message := "timed out waiting for storage completion" })
  | memory, next :: rest =>
      concludeProbe (probe backend descriptor slotId memory)
        (storageWaitWithConfig backend descriptor slotId next rest)

end Waits

section Rejections

variable {descriptor : StorageDescriptor} {memory : DeviceMemory}

/-- A command that serializes with the identifier of its slot. -/
def CommandWriter.fits (write : CommandWriter) (descriptor : StorageDescriptor)
    (memory : DeviceMemory) (slotId : UInt32) : Bool :=
  (write (aivCommandId descriptor memory slotId) (storageSlotIdIndex slotId)).1.isOk

/-- What the vector core checks of a submission before it looks at its slot. -/
def aivAdmits (descriptor : StorageDescriptor) (memory : DeviceMemory) : Submission → Bool
  | .read args =>
      args.length ≠ 0 && (args.writer serializeStorageRead).fits descriptor memory args.slotId
  | .write args =>
      args.length ≠ 0 && (args.writer serializeStorageWrite).fits descriptor memory args.slotId
  | .batchRead args entries =>
      args.entryCount ≠ 0 && args.entryCount ≤ UInt32.ofNat kStorageMaxBatchEntries &&
        (args.writer (aivBatchTotal args deserializeStorageBatchReadEntry entries).toUInt64
          serializeStorageBatchRead).fits descriptor memory args.slotId
  | .batchWrite args entries =>
      args.entryCount ≠ 0 && args.entryCount ≤ UInt32.ofNat kStorageMaxBatchEntries &&
        (args.writer (aivBatchTotal args deserializeStorageBatchWriteEntry entries).toUInt64
          serializeStorageBatchWrite).fits descriptor memory args.slotId

/-- The code with which the vector core turns a submission away. -/
def aivRejection (descriptor : StorageDescriptor) (memory : DeviceMemory)
    (submission : Submission) : Int32 :=
  if aivAdmits descriptor memory submission then setReturnValue OperationStatus.queueFull.code
  else setReturnValue OperationStatus.invalidArgument.code

/-- A slot in flight is not claimed. -/
theorem aivClaim_busy {slotId : UInt32} (expected : UInt32)
    (hBusy : (memory.states (storageSlotIdIndex slotId).toNat).inFlight ≠ 0) :
    aivClaim descriptor memory slotId expected = none := by
  cases hClaim : aivClaim descriptor memory slotId expected with
  | none => rfl
  | some claimed =>
      obtain ⟨-, -, -, -, hFree, -⟩ := aivClaim_eq_some hClaim
      exact absurd hFree hBusy

/-- The vector core turns away every submission on a slot in flight. -/
theorem aivSubmitSends_busy {submission : Submission}
    (hBusy : (memory.states (storageSlotIdIndex submission.slotId).toNat).inFlight ≠ 0) :
    aivSubmitSends descriptor memory submission =
      .done (aivRejection descriptor memory submission, memory) := by
  have hSubmit : ∀ slotId expected (write : CommandWriter),
      (memory.states (storageSlotIdIndex slotId).toNat).inFlight ≠ 0 →
      aivStorageSubmitSends descriptor memory slotId expected write =
        .done (if write.fits descriptor memory slotId
          then setReturnValue OperationStatus.queueFull.code
          else setReturnValue OperationStatus.invalidArgument.code, memory) := by
    intro slotId expected write hTaken
    rw [aivStorageSubmitSends, CommandWriter.fits]
    generalize write (aivCommandId descriptor memory slotId) (storageSlotIdIndex slotId) = written
    obtain ⟨outcome, message⟩ := written
    cases outcome with
    | error failure => rfl
    | ok _ =>
        dsimp only
        rw [aivExecuteSerializedSends, aivClaim_busy expected hTaken]
        rfl
  have hTransfer : ∀ (args : TransferArgs)
      (serialize : StorageTransferCommand → Buffer → Except SerdeError Unit × Buffer),
      (memory.states (storageSlotIdIndex args.slotId).toNat).inFlight ≠ 0 →
      aivStorageTransferSends serialize descriptor memory args =
        .done (if args.length ≠ 0 && (args.writer serialize).fits descriptor memory args.slotId
          then setReturnValue OperationStatus.queueFull.code
          else setReturnValue OperationStatus.invalidArgument.code, memory) := by
    intro args serialize hTaken
    rw [aivStorageTransferSends]
    by_cases hEmpty : args.length = 0
    · simp [hEmpty]
    · rw [if_neg hEmpty, hSubmit _ _ _ hTaken]
      simp [hEmpty]
  have hBatch : ∀ (args : BatchArgs)
      (serialize : StorageBatchCommand → Buffer → Except SerdeError Unit × Buffer)
      (deserialize : Buffer → Except SerdeError StorageBatchEntry) (entries : Buffer),
      (memory.states (storageSlotIdIndex args.slotId).toNat).inFlight ≠ 0 →
      aivStorageBatchSends serialize deserialize descriptor memory args entries =
        .done (if args.entryCount ≠ 0 && args.entryCount ≤ UInt32.ofNat kStorageMaxBatchEntries &&
            (args.writer (aivBatchTotal args deserialize entries).toUInt64 serialize).fits
              descriptor memory args.slotId
          then setReturnValue OperationStatus.queueFull.code
          else setReturnValue OperationStatus.invalidArgument.code, memory) := by
    intro args serialize deserialize entries hTaken
    rw [aivStorageBatchSends]
    by_cases hCount : args.entryCount = 0 ∨
        args.entryCount > UInt32.ofNat kStorageMaxBatchEntries
    · rw [if_pos hCount, if_neg]
      rcases hCount with hEmpty | hMany
      · simp [hEmpty]
      · simp [UInt32.not_le.mpr hMany]
    · rw [if_neg hCount]
      dsimp only
      rw [hSubmit _ _ _ hTaken]
      simp only [not_or, UInt32.not_lt] at hCount
      simp [hCount.1, hCount.2]
  cases submission with
  | read args => exact hTransfer args _ hBusy
  | write args => exact hTransfer args _ hBusy
  | batchRead args entries => exact hBatch args _ _ entries hBusy
  | batchWrite args entries => exact hBatch args _ _ entries hBusy

/-- So does the control processor, which leaves the return value alone. -/
theorem aicpuSubmitSends_busy {submission : Submission}
    (hBusy : (memory.states (storageSlotIdIndex submission.slotId).toNat).inFlight ≠ 0) :
    aicpuSubmitSends descriptor memory submission =
      .done (.error kNdsAicpuInvalidArgument, memory) := by
  have hExecute : ∀ slotId expected (write : CommandWriter),
      (memory.states (storageSlotIdIndex slotId).toNat).inFlight ≠ 0 →
      aicpuExecuteSends descriptor memory slotId expected write =
        .done (.error kNdsAicpuInvalidArgument, memory) := by
    intro slotId expected write hTaken
    rw [aicpuExecuteSends]
    split
    · rfl
    · dsimp only
      rw [if_pos (.inr hTaken)]
  have hTransfer : ∀ (args : TransferArgs)
      (serialize : StorageTransferCommand → Buffer → Except SerdeError Unit × Buffer),
      (memory.states (storageSlotIdIndex args.slotId).toNat).inFlight ≠ 0 →
      aicpuStorageTransferSends serialize descriptor memory args =
        .done (.error kNdsAicpuInvalidArgument, memory) := by
    intro args serialize hTaken
    rw [aicpuStorageTransferSends]
    split
    · rfl
    · exact hExecute _ _ _ hTaken
  cases submission with
  | read args => exact hTransfer args _ hBusy
  | write args => exact hTransfer args _ hBusy
  | batchRead args entries => exact hExecute _ _ _ hBusy
  | batchWrite args entries => exact hExecute _ _ _ hBusy

/-- Every launch on a slot in flight posts nothing. The vector core leaves its
code in the status word if the host does not wait for it. -/
theorem launchSubmission_busy {submission : Submission} (backend : DeviceBackend) (sync : Bool)
    (hBusy : (memory.states (storageSlotIdIndex submission.slotId).toNat).inFlight ≠ 0) :
    ∃ result, launchSubmission backend sync descriptor memory submission = .done (result,
      if backend = .aiv ∧ sync = false then
        memory.storeStatus (storageSlotIdIndex submission.slotId).toNat
          (aivRejection descriptor memory submission)
      else memory) := by
  cases backend with
  | aiv =>
      simp only [launchSubmission, aivLaunchStorageOperation, aivSubmitSends_busy hBusy,
        Program.bind]
      cases sync with
      | false => exact ⟨_, rfl⟩
      | true => exact ⟨_, rfl⟩
  | aicpu =>
      simp only [launchSubmission, aicpuLaunchStorage, aicpuSubmitSends_busy hBusy, Program.bind]
      cases sync with
      | false => exact ⟨_, rfl⟩
      | true => exact ⟨_, rfl⟩

/-- The memory once the completion buffers hold the given records. -/
def DeviceMemory.landed (memory : DeviceMemory) (records : Nat → Buffer) : DeviceMemory :=
  { memory with completionBytes := records }

/-- A submission that the command in its slot does not notice: nothing is
posted, the record and the buffers of the slot stay as they are, and every later
wait returns what it would have returned, whatever its probes find. -/
structure Undisturbed (backend : DeviceBackend) (sync : Bool) (descriptor : StorageDescriptor)
    (memory : DeviceMemory) (submission : Submission) : Prop where
  silent : ∀ sent, (launchSubmission backend sync descriptor memory submission).requests sent = []
  state_eq : ∀ sent,
    ((launchSubmission backend sync descriptor memory submission).replay sent).2.states
        (storageSlotIdIndex submission.slotId).toNat =
      memory.states (storageSlotIdIndex submission.slotId).toNat
  command_eq : ∀ sent,
    ((launchSubmission backend sync descriptor memory submission).replay sent).2.commandBytes
        (storageSlotIdIndex submission.slotId).toNat =
      memory.commandBytes (storageSlotIdIndex submission.slotId).toNat
  completion_eq : ∀ sent,
    ((launchSubmission backend sync descriptor memory submission).replay sent).2.completionBytes
        (storageSlotIdIndex submission.slotId).toNat =
      memory.completionBytes (storageSlotIdIndex submission.slotId).toNat
  waits_eq : ∀ sent slotId records (later : List (Nat → Buffer)),
    storageWaitWithConfig backend descriptor slotId
        (((launchSubmission backend sync descriptor memory submission).replay sent).2.landed
          records)
        (later.map
          ((launchSubmission backend sync descriptor memory submission).replay sent).2.landed) =
      storageWaitWithConfig backend descriptor slotId (memory.landed records)
        (later.map memory.landed)

/-- Storing the status that is there changes nothing. -/
theorem storeStatus_self (memory : DeviceMemory) (index : Nat) :
    memory.storeStatus index (memory.states index).status = memory := by
  simp [DeviceMemory.storeStatus, DeviceMemory.setState]

/-- A rejected submission leaves the command in flight alone, unless the vector
core writes another code into the status word of the slot than it holds. -/
theorem rejected_submission_undisturbing_iff (backend : DeviceBackend) (sync : Bool)
    (descriptor : StorageDescriptor) (memory : DeviceMemory) (submission : Submission)
    (hBusy : (memory.states (storageSlotIdIndex submission.slotId).toNat).inFlight ≠ 0) :
    Undisturbed backend sync descriptor memory submission ↔
      backend = .aicpu ∨ sync = true ∨
        (memory.states (storageSlotIdIndex submission.slotId).toNat).status =
          aivRejection descriptor memory submission := by
  obtain ⟨result, hLaunch⟩ := @launchSubmission_busy descriptor memory submission backend sync hBusy
  constructor
  · intro hSame
    by_cases hAlias : backend = .aiv ∧ sync = false
    · have hState := hSame.state_eq fun _ => 0
      rw [hLaunch, if_pos hAlias] at hState
      have hStatus := congrArg StorageState.status hState
      simp only [Program.replay, DeviceMemory.storeStatus, DeviceMemory.setState_self] at hStatus
      exact .inr (.inr hStatus.symm)
    · cases backend with
      | aicpu => exact .inl rfl
      | aiv =>
          cases sync with
          | true => exact .inr (.inl rfl)
          | false => exact absurd ⟨rfl, rfl⟩ hAlias
  · intro hSpared
    have hMemory : (if backend = .aiv ∧ sync = false then
        memory.storeStatus (storageSlotIdIndex submission.slotId).toNat
          (aivRejection descriptor memory submission)
      else memory) = memory := by
      split
      · rename_i hAlias
        rcases hSpared with hOther | hSync | hStatus
        · rw [hAlias.1] at hOther
          cases hOther
        · rw [hAlias.2] at hSync
          cases hSync
        · rw [← hStatus]
          exact storeStatus_self memory _
      · rfl
    rw [hMemory] at hLaunch
    constructor
    · intro sent
      rw [hLaunch]
      rfl
    · intro sent
      rw [hLaunch]
      rfl
    · intro sent
      rw [hLaunch]
      rfl
    · intro sent
      rw [hLaunch]
      rfl
    · intro sent slotId records later
      rw [hLaunch]
      rfl

/-- A read of eight bytes. -/
def shortRead : Submission :=
  .read {
    slotId := 0
    serverOffset := 16
    bufferAddress := 4096
    bufferKey := 9
    length := 8 }

/-- The slot once the vector core has sent such a read. -/
def readInFlight : DeviceMemory :=
  ((launchSubmission .aiv false soleDescriptor reservedMemory shortRead).replay fun _ => 0).2

theorem rejected_submission_undisturbing_sync :
    (readInFlight.states 0).inFlight ≠ 0 ∧
      Undisturbed .aiv true soleDescriptor readInFlight shortRead := by
  have hBusy : (readInFlight.states 0).inFlight ≠ 0 := by decide +kernel
  exact ⟨hBusy, (rejected_submission_undisturbing_iff .aiv true soleDescriptor readInFlight
    shortRead hBusy).mpr (.inr (.inl rfl))⟩

/-- The record of the finished read. -/
def finishedRead : Buffer :=
  completionLayout {
    commandId := 7
    state := .complete
    status := .success
    bytesTransferred := 8 } (List.replicate kStorageCompletionBytes 0)

/-- Without a second launch the read succeeds. With one it times out, although
its record has landed. -/
theorem rejected_submission_disturbs :
    (readInFlight.states 0).inFlight ≠ 0 ∧
      ¬Undisturbed .aiv false soleDescriptor readInFlight shortRead ∧
      storageWaitWithConfig .aiv soleDescriptor 0 (readInFlight.landed fun _ => finishedRead) [] =
        .ok () ∧
      storageWaitWithConfig .aiv soleDescriptor 0
          (((launchSubmission .aiv false soleDescriptor readInFlight shortRead).replay
            fun _ => 0).2.landed fun _ => finishedRead) [] =
        .error {
          code := .protocol
          message := "timed out waiting for storage completion" } := by
  refine ⟨by decide +kernel, fun hSame => ?_, by decide +kernel, by decide +kernel⟩
  have hWaits := hSame.waits_eq (fun _ => 0) 0 (fun _ => finishedRead) []
  revert hWaits
  decide +kernel

end Rejections

end NdsStorage.Client
