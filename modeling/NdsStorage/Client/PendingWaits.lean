import NdsStorage.Client.BatchTotals
import NdsStorage.Client.Launchers

/-! What a wait makes of a slot in a run. One code says that a slot is busy,
that the send queue is full and that a completion is still to come, and the
host repeats a wait that returns it. Here the slots are followed together with
the outcome of the send of their command, with whether its record has landed,
and with the return values of the launches that were turned away. -/
namespace NdsStorage.Client

open Bytes Interaction

section Returns

variable {descriptor : StorageDescriptor} {memory after : DeviceMemory} {submission : Submission}
  {sent : Int32}

/-- A command is written only for a reserved slot and for some bytes. -/
def CommandWriter.Needs (write : CommandWriter) (expected : UInt32) : Prop :=
  ∀ commandId slotIndex message, write commandId slotIndex = (.ok (), message) →
    commandId ≠ 0 ∧ expected ≠ 0

/-- A transfer expects the bytes of its length. -/
theorem TransferArgs.writer_needs (args : TransferArgs) (operation : StorageOperation)
    (access : UInt32) (hLength : args.length ≠ 0) :
    (args.writer (serializeTransfer operation access)).Needs args.length := by
  intro commandId slotIndex message h
  rw [TransferArgs.writer, serializeTransfer_eq (Nat.le_of_eq List.length_replicate.symm)] at h
  split at h
  · cases h
  · rename_i hFields
    exact ⟨fun hZero => hFields (.inl hZero), hLength⟩

/-- A batch expects the bytes of all its entries. -/
theorem BatchArgs.writer_needs (args : BatchArgs) (total : UInt32) (operation : StorageOperation) :
    (args.writer total.toUInt64 (serializeBatch operation)).Needs total := by
  intro commandId slotIndex message h
  rw [BatchArgs.writer, serializeBatch] at h
  split at h
  · cases h
  · rw [serializeCommand, if_neg (Nat.not_lt.mpr (Nat.le_of_eq List.length_replicate.symm))] at h
    split at h
    · cases h
    · rename_i hFields
      refine ⟨fun hZero => hFields (.inl hZero), fun hZero => hFields (.inr (.inl ?_))⟩
      exact congrArg UInt32.toUInt64 hZero

/-- A submission to the vector core is turned away for its arguments or tries its slot. -/
theorem aivSubmit_cases (descriptor : StorageDescriptor) (memory : DeviceMemory)
    (submission : Submission) (sent : Int32) :
    (aivSubmit descriptor memory submission sent =
        (setReturnValue OperationStatus.invalidArgument.code, memory)) ∨
      ∃ (expected : UInt32) (write : CommandWriter), write.Needs expected ∧
        aivAdmits descriptor memory submission =
          write.fits descriptor memory submission.slotId ∧
        aivSubmit descriptor memory submission sent =
          aivStorageSubmit descriptor memory submission.slotId expected write sent := by
  have hTransfer : ∀ operation access (args : TransferArgs),
      aivStorageTransfer (serializeTransfer operation access) descriptor memory args sent =
        (setReturnValue OperationStatus.invalidArgument.code, memory) ∨
        ∃ (expected : UInt32) (write : CommandWriter), write.Needs expected ∧
          (decide (args.length ≠ 0) && (args.writer (serializeTransfer operation access)).fits
            descriptor memory args.slotId) = write.fits descriptor memory args.slotId ∧
          aivStorageTransfer (serializeTransfer operation access) descriptor memory args sent =
            aivStorageSubmit descriptor memory args.slotId expected write sent := by
    intro operation access args
    unfold aivStorageTransfer
    split
    · exact .inl rfl
    · rename_i hLength
      exact .inr ⟨_, _, args.writer_needs operation access hLength, by simp [hLength], rfl⟩
  have hBatch : ∀ operation deserialize (args : BatchArgs) entries,
      aivStorageBatch (serializeBatch operation) deserialize descriptor memory args entries sent =
        (setReturnValue OperationStatus.invalidArgument.code, memory) ∨
        ∃ (expected : UInt32) (write : CommandWriter), write.Needs expected ∧
          (decide (args.entryCount ≠ 0) &&
            decide (args.entryCount ≤ UInt32.ofNat kStorageMaxBatchEntries) &&
            (args.writer (aivBatchTotal args deserialize entries).toUInt64
              (serializeBatch operation)).fits descriptor memory args.slotId) =
            write.fits descriptor memory args.slotId ∧
          aivStorageBatch (serializeBatch operation) deserialize descriptor memory args entries
            sent = aivStorageSubmit descriptor memory args.slotId expected write sent := by
    intro operation deserialize args entries
    unfold aivStorageBatch
    split
    · exact .inl rfl
    · rename_i hCount
      simp only [not_or, gt_iff_lt, UInt32.not_lt] at hCount
      exact .inr ⟨_, _, args.writer_needs _ operation, by simp [hCount.1, hCount.2], rfl⟩
  cases submission with
  | read args => exact hTransfer _ _ args
  | write args => exact hTransfer _ _ args
  | batchRead args entries => exact hBatch _ _ args entries
  | batchWrite args entries => exact hBatch _ _ args entries

/-- A submission to the control processor is turned away at once or tries its
slot, with a command that can be written. -/
theorem aicpuSubmit_cases (descriptor : StorageDescriptor) (memory : DeviceMemory)
    (submission : Submission) (sent : Int32) :
    (∃ error, aicpuSubmit descriptor memory submission sent = (.error error, memory)) ∨
      ∃ (expected : UInt32) (write : CommandWriter), (∀ commandId slotIndex, commandId ≠ 0 →
          expected ≠ 0 → ∃ message, write commandId slotIndex = (.ok (), message)) ∧
        aicpuSubmit descriptor memory submission sent =
          aicpuExecute descriptor memory submission.slotId expected write sent := by
  have hTransfer : ∀ operation access (args : TransferArgs),
      (∃ error, aicpuStorageTransfer (serializeTransfer operation access) descriptor memory args
        sent = (.error error, memory)) ∨
        ∃ (expected : UInt32) (write : CommandWriter), (∀ commandId slotIndex, commandId ≠ 0 →
            expected ≠ 0 → ∃ message, write commandId slotIndex = (.ok (), message)) ∧
          aicpuStorageTransfer (serializeTransfer operation access) descriptor memory args sent =
            aicpuExecute descriptor memory args.slotId expected write sent := by
    intro operation access args
    unfold aicpuStorageTransfer
    split
    · exact .inl ⟨_, rfl⟩
    · rename_i hArgs
      simp only [not_or] at hArgs
      exact .inr ⟨_, _, fun _ _ hId hLength =>
        (args.writer_ok_iff operation access hId hLength).mpr hArgs.2, rfl⟩
  have hBatch : ∀ operation deserialize (args : BatchArgs) entries,
      ∃ (expected : UInt32) (write : CommandWriter), (∀ commandId slotIndex, commandId ≠ 0 →
          expected ≠ 0 → ∃ message, write commandId slotIndex = (.ok (), message)) ∧
        aicpuStorageBatch (serializeBatch operation) deserialize descriptor memory args entries
          sent = aicpuExecute descriptor memory args.slotId expected write sent := by
    intro operation deserialize args entries
    refine ⟨_, _, fun commandId slotIndex hId hTotal => ?_, rfl⟩
    have hSum : batchSum args deserialize entries ≠ 0 := by
      intro hZero
      rw [aicpuBatchBytes, hZero] at hTotal
      exact hTotal rfl
    have hWide : (aicpuBatchBytes args deserialize entries).toUInt64 ≠ 0 := by
      intro hZero
      apply hTotal
      rw [← UInt32.toUInt32_toUInt64 (aicpuBatchBytes args deserialize entries), hZero]
      rfl
    exact BatchArgs.writer_ok operation slotIndex (batchSum_ne_zero hSum).1 hWide hId
  cases submission with
  | read args => exact hTransfer _ _ args
  | write args => exact hTransfer _ _ args
  | batchRead args entries => exact .inr (hBatch _ _ args entries)
  | batchWrite args entries => exact .inr (hBatch _ _ args entries)

/-- A vector core that takes a slot returns what it leaves as its status. -/
theorem aivSubmit_status {result : Int32}
    (h : aivSubmit descriptor memory submission sent = (result, after))
    (hFree : (memory.states (storageSlotIdIndex submission.slotId).toNat).inFlight = 0)
    (hTaken : (after.states (storageSlotIdIndex submission.slotId).toNat).inFlight ≠ 0) :
    result = (after.states (storageSlotIdIndex submission.slotId).toNat).status := by
  rcases aivSubmit_cases descriptor memory submission sent with hRefused |
    ⟨expected, write, -, -, hTried⟩
  · rw [hRefused] at h
    cases h
    exact absurd hFree hTaken
  · rw [hTried] at h
    unfold aivStorageSubmit at h
    split at h
    · cases h
      exact absurd hFree hTaken
    · unfold aivExecuteSerialized at h
      split at h
      · cases h
        exact absurd hFree hTaken
      · dsimp only at h
        split at h
        · cases h
          simp at hTaken
        · cases h
          simp

/-- What the control processor returns is the status it has stored. -/
theorem aicpuSubmit_status {result : Except UInt32 Int32}
    (h : aicpuSubmit descriptor memory submission sent = (result, after))
    (hFree : (memory.states (storageSlotIdIndex submission.slotId).toNat).inFlight = 0)
    (hTaken : (after.states (storageSlotIdIndex submission.slotId).toNat).inFlight ≠ 0) :
    result = .ok (after.states (storageSlotIdIndex submission.slotId).toNat).status := by
  rcases aicpuSubmit_cases descriptor memory submission sent with ⟨error, hRefused⟩ |
    ⟨expected, write, -, hTried⟩
  · rw [hRefused] at h
    cases h
    exact absurd hFree hTaken
  · rw [hTried] at h
    unfold aicpuExecute at h
    split at h
    · cases h
      exact absurd hFree hTaken
    · dsimp only at h
      split at h
      · cases h
        exact absurd hFree hTaken
      · split at h
        · cases h
          rw [setReturnValue_neg, DeviceMemory.setState_self]
        · cases h
          simp at hTaken

/-- A vector core that leaves a slot idle has been given bad arguments, or the
identifier of the slot is not valid. -/
theorem aivSubmit_refused {result : Int32}
    (h : aivSubmit descriptor memory submission sent = (result, after))
    (hFree : (memory.states (storageSlotIdIndex submission.slotId).toNat).inFlight = 0)
    (hIdle : (after.states (storageSlotIdIndex submission.slotId).toNat).inFlight = 0)
    (hNamed : storageSlotIdValid descriptor submission.slotId ∨
      ¬aivAdmits descriptor memory submission) :
    result = setReturnValue OperationStatus.invalidArgument.code := by
  rcases aivSubmit_cases descriptor memory submission sent with hRefused |
    ⟨expected, write, hNeeds, hAdmits, hTried⟩
  · rw [hRefused] at h
    cases h
    rfl
  · rw [hTried] at h
    rw [hAdmits] at hNamed
    unfold aivStorageSubmit at h
    split at h
    · cases h
      rfl
    · rename_i message hMessage
      obtain ⟨hId, hExpected⟩ := hNeeds _ _ _ hMessage
      have hFits : write.fits descriptor memory submission.slotId = true := by
        rw [CommandWriter.fits, hMessage]
        rfl
      have hValid := hNamed.resolve_right (not_not.mpr hFits)
      rw [aivCommandId, storageState_valid hValid] at hId
      have hClaim : aivClaim descriptor memory submission.slotId expected = some (memory.setState
          (storageSlotIdIndex submission.slotId).toNat {
            memory.states (storageSlotIdIndex submission.slotId).toNat with
              expectedBytes := expected
              inFlight := 1
              status := 0 }) := by
        simp only [aivClaim, storageState_valid hValid]
        exact if_neg (by simp [hValid, hId, hExpected, hFree])
      rw [aivExecuteSerialized, hClaim] at h
      dsimp only at h
      rw [DeviceMemory.setState_self, serializePending_eq hId] at h
      cases h
      simp at hIdle

/-- A control processor that leaves a slot idle does not write a return value. -/
theorem aicpuSubmit_refused {result : Except UInt32 Int32}
    (h : aicpuSubmit descriptor memory submission sent = (result, after))
    (hIdle : (after.states (storageSlotIdIndex submission.slotId).toNat).inFlight = 0) :
    aicpuReturnValue result = kUnwrittenReturnValue := by
  rcases aicpuSubmit_cases descriptor memory submission sent with ⟨error, hRefused⟩ |
    ⟨expected, write, hWrites, hTried⟩
  · rw [hRefused] at h
    cases h
    rfl
  · rw [hTried] at h
    unfold aicpuExecute at h
    split at h
    · cases h
      rfl
    · rename_i hChecked
      simp only [not_or, Decidable.not_not] at hChecked
      dsimp only at h
      split at h
      · cases h
        rfl
      · rename_i hTaken
        simp only [not_or, Decidable.not_not] at hTaken
        obtain ⟨message, hMessage⟩ := hWrites _ (storageSlotIdIndex submission.slotId) hTaken.1
          hChecked.2.2
        rw [serializePending_eq hTaken.1, hMessage] at h
        cases h
        simp at hIdle

/-- The return value of the kernel of a submission. -/
def launchValue (backend : DeviceBackend) (descriptor : StorageDescriptor) (memory : DeviceMemory)
    (submission : Submission) (sent : Int32) : Int32 :=
  match backend with
  | .aiv => (aivSubmit descriptor memory submission sent).1
  | .aicpu => aicpuReturnValue (aicpuSubmit descriptor memory submission sent).1

def launchFailure (backend : DeviceBackend) (submission : Submission) : String :=
  match backend with
  | .aiv => "AIV storage operation failed: "
  | .aicpu => aicpuFailure (aicpuStorageEntry submission)

/-- A launch that waits for its kernel reports the kernel's return value. -/
theorem launchSubmission_reports (backend : DeviceBackend) :
    ((launchSubmission backend true descriptor memory submission).replay fun _ => sent).1 =
      launchResult (launchFailure backend submission)
        (launchValue backend descriptor memory submission sent) := by
  cases backend with
  | aiv =>
      rw [launchSubmission, aivLaunchStorageOperation, Program.replay_bind, aivSubmitSends_replay]
      rfl
  | aicpu =>
      rw [launchSubmission, aicpuLaunchStorage, Program.replay_bind, aicpuSubmitSends_replay]
      rfl

/-- What a wait returns for a slot without a command. -/
def idleValue (backend : DeviceBackend) (descriptor : StorageDescriptor) (slotId : UInt32) :
    Int32 :=
  if backend = .aicpu ∧ storageSlotIdValid descriptor slotId then kUnwrittenReturnValue
  else setReturnValue OperationStatus.invalidArgument.code

/-- A submission that names a valid slot. The vector core turns one with bad
arguments away before it looks at the name. -/
def NamesSlot (backend : DeviceBackend) (descriptor : StorageDescriptor) (memory : DeviceMemory)
    (submission : Submission) : Prop :=
  storageSlotIdValid descriptor submission.slotId ∨
    backend = .aiv ∧ ¬aivAdmits descriptor memory submission

/-- A launch that leaves its slot idle returns what a wait will return for the slot. -/
theorem launchValue_idle {backend : DeviceBackend} {sync : Bool}
    (hFree : (memory.states (storageSlotIdIndex submission.slotId).toNat).inFlight = 0)
    (hIdle : (((launchSubmission backend sync descriptor memory submission).replay fun _ =>
      sent).2.states (storageSlotIdIndex submission.slotId).toNat).inFlight = 0)
    (hNamed : NamesSlot backend descriptor memory submission) :
    launchValue backend descriptor memory submission sent =
      idleValue backend descriptor submission.slotId := by
  cases backend with
  | aiv =>
      rw [launchSubmission, aivLaunchStorageOperation, Program.replay_bind,
        aivSubmitSends_replay] at hIdle
      rw [launchValue, idleValue, if_neg (by simp)]
      generalize hSubmit : aivSubmit descriptor memory submission sent = submitted at hIdle
      obtain ⟨result, after⟩ := submitted
      have hAfter : (after.states (storageSlotIdIndex submission.slotId).toNat).inFlight = 0 := by
        cases sync with
        | true => exact hIdle
        | false => simpa [DeviceMemory.storeStatus, Program.replay] using hIdle
      refine aivSubmit_refused hSubmit hFree hAfter (hNamed.imp_right And.right)
  | aicpu =>
      rw [launchSubmission, aicpuLaunchStorage, Program.replay_bind,
        aicpuSubmitSends_replay] at hIdle
      have hValid : storageSlotIdValid descriptor submission.slotId := by
        rcases hNamed with hValid | ⟨hOther, -⟩
        · exact hValid
        · cases hOther
      rw [launchValue, idleValue, if_pos ⟨rfl, hValid⟩]
      generalize hSubmit : aicpuSubmit descriptor memory submission sent = submitted at hIdle
      obtain ⟨result, after⟩ := submitted
      refine aicpuSubmit_refused hSubmit ?_
      cases sync with
      | true => exact hIdle
      | false =>
          cases result with
          | error _ => exact hIdle
          | ok value => simpa [DeviceMemory.storeStatus, Program.replay] using hIdle

/-- What a launch does to a slot that is not in flight. -/
inductive LaunchEffect (memory : DeviceMemory) (index : Nat) (sent : Int32) : DeviceMemory → Prop
  | refused {after : DeviceMemory} (hIdle : (after.states index).inFlight = 0)
      (hOthers : ∀ other, other ≠ index → after.states other = memory.states other)
      (hRecords : after.completionBytes = memory.completionBytes) :
      LaunchEffect memory index sent after
  | posted {expected : UInt32} {message : Buffer} (hId : (memory.states index).commandId ≠ 0)
      (hExpected : expected ≠ 0) :
      LaunchEffect memory index sent (memory.posted index expected message sent)

/-- Writing the return value to the status word changes nothing once the slot is taken. -/
theorem LaunchEffect.storeStatus {index : Nat} (h : LaunchEffect memory index sent after)
    {value : Int32}
    (hValue : (after.states index).inFlight ≠ 0 → value = (after.states index).status) :
    LaunchEffect memory index sent (after.storeStatus index value) := by
  cases h with
  | refused hIdle hOthers hRecords =>
      apply LaunchEffect.refused
      · simpa [DeviceMemory.storeStatus] using hIdle
      · intro other hOther
        exact (Function.update_of_ne hOther _ _).trans (hOthers other hOther)
      · exact hRecords
  | posted hId hExpected =>
      rw [hValue (by simp [DeviceMemory.posted]), storeStatus_self]
      exact .posted hId hExpected

/-- A submission on a free slot has the effect of a launch. -/
theorem SubmitEffect.launch {slotIndex : UInt32} {checked accepted : Prop}
    (h : SubmitEffect memory slotIndex sent checked accepted after)
    (hFree : (memory.states slotIndex.toNat).inFlight = 0) :
    LaunchEffect memory slotIndex.toNat sent after := by
  cases h with
  | refused hRefused => exact .refused hFree (fun _ _ => rfl) rfl
  | withdrawn hRefused _ =>
      apply LaunchEffect.refused
      · simp
      · intro other hOther
        exact Function.update_of_ne hOther _ _
      · rfl
  | posted _ _ hId _ hExpected _ => exact .posted hId hExpected

/-- A launch on an idle slot is refused or posts its command. -/
theorem launchSubmission_idle (backend : DeviceBackend) (sync : Bool)
    (hFree : (memory.states (storageSlotIdIndex submission.slotId).toNat).inFlight = 0) :
    LaunchEffect memory (storageSlotIdIndex submission.slotId).toNat sent
      ((launchSubmission backend sync descriptor memory submission).replay fun _ => sent).2 := by
  cases backend with
  | aiv =>
      rw [launchSubmission, aivLaunchStorageOperation, Program.replay_bind, aivSubmitSends_replay]
      generalize hSubmit : aivSubmit descriptor memory submission sent = submitted
      obtain ⟨result, after⟩ := submitted
      have hEffect := (aivSubmit_effect hSubmit).launch hFree
      cases sync with
      | true => exact hEffect
      | false => exact hEffect.storeStatus (aivSubmit_status hSubmit hFree)
  | aicpu =>
      rw [launchSubmission, aicpuLaunchStorage, Program.replay_bind, aicpuSubmitSends_replay]
      generalize hSubmit : aicpuSubmit descriptor memory submission sent = submitted
      obtain ⟨result, after⟩ := submitted
      have hEffect := (aicpuSubmit_effect hSubmit).launch hFree
      cases sync with
      | true => exact hEffect
      | false =>
          cases result with
          | error _ => exact hEffect
          | ok value =>
              refine hEffect.storeStatus fun hTaken => ?_
              exact Except.ok.inj (aicpuSubmit_status hSubmit hFree hTaken)

end Returns

/-- The record of a command that has ended. -/
structure CompleteRecord where
  completion : StorageCompletion
  complete : completion.state = .complete
  valid : completionValid completion

def CompleteRecord.bytes (record : CompleteRecord) : Buffer :=
  completionLayout record.completion (List.replicate kStorageCompletionBytes 0)

/-- A complete record is read back as it was written. -/
theorem CompleteRecord.deserialize (record : CompleteRecord) :
    deserializeStorageCompletion record.bytes = .ok record.completion :=
  deserializeStorageCompletion_layout _ (Nat.le_of_eq List.length_replicate.symm) record.valid

/-- The command of a slot: the outcome of its send, and whether its record has
landed. -/
structure Attempt where
  sent : OperationStatus
  landed : Bool
deriving DecidableEq, Repr

/-- The memory, the command of each slot and, for each name of a slot, the return
value of the last launch that left the slot idle. -/
structure LaunchRun where
  memory : DeviceMemory
  current : Nat → Option Attempt
  refused : DeviceBackend → UInt32 → Option Int32

/-- The host writes a fresh state record, a submission is launched, a record of
the server lands, or a slot is probed. -/
inductive LaunchEvent where
  | reset (index : Nat) (commandId : UInt64)
  | submit (backend : DeviceBackend) (sync : Bool) (submission : Submission)
      (sent : OperationStatus)
  | answer (index : Nat) (record : CompleteRecord)
  | wait (backend : DeviceBackend) (slotId : UInt32)

namespace LaunchRun

def begin (memory : DeviceMemory) : LaunchRun where
  memory := memory
  current := fun _ => none
  refused := fun _ _ => none

/-- The launches on a slot are forgotten. -/
def forget (run : LaunchRun) (index : Nat) (backend : DeviceBackend) (slotId : UInt32) :
    Option Int32 :=
  if (storageSlotIdIndex slotId).toNat = index then none else run.refused backend slotId

/-- A submission counts once it has taken its slot. One that leaves an idle slot
idle has failed with its return value. -/
def submitted (run : LaunchRun) (backend : DeviceBackend) (slotId : UInt32) (value : Int32)
    (after : DeviceMemory) (sent : OperationStatus) : LaunchRun :=
  let index := (storageSlotIdIndex slotId).toNat
  if (run.memory.states index).inFlight ≠ 0 then { run with memory := after }
  else if (after.states index).inFlight ≠ 0 then
    { memory := after
      current := Function.update run.current index (some { sent := sent, landed := false })
      refused := run.forget index }
  else
    { memory := after
      current := run.current
      refused := Function.update run.refused backend
        (Function.update (run.refused backend) slotId (some value)) }

def answered (run : LaunchRun) (index : Nat) (record : CompleteRecord) : LaunchRun where
  refused := run.refused
  memory := run.memory.storeCompletion index record.bytes
  current := Function.update run.current index ((run.current index).map fun attempt =>
    { attempt with landed :=
        attempt.landed || record.completion.commandId = (run.memory.states index).commandId })

def apply (descriptor : StorageDescriptor) (run : LaunchRun) : LaunchEvent → LaunchRun
  | .reset index commandId =>
      { memory := run.memory.setState index { commandId := commandId }
        current := Function.update run.current index none
        refused := run.forget index }
  | .submit backend sync submission sent =>
      run.submitted backend submission.slotId
        (launchValue backend descriptor run.memory submission (setReturnValue sent.code))
        ((launchSubmission backend sync descriptor run.memory submission).replay fun _ =>
          setReturnValue sent.code).2 sent
  | .answer index record => run.answered index record
  | .wait _ _ => run

def follow (descriptor : StorageDescriptor) (run : LaunchRun) (events : List LaunchEvent) :
    LaunchRun :=
  events.foldl (LaunchRun.apply descriptor) run

/-- A submission whose send does not meet a full queue. It names a valid slot,
and it does not write its return value into the status word of a command in
flight. -/
structure FineSubmission (descriptor : StorageDescriptor) (memory : DeviceMemory)
    (backend : DeviceBackend) (sync : Bool) (submission : Submission) (sent : OperationStatus) :
    Prop where
  sent_ne : sent ≠ .queueFull
  named : (memory.states (storageSlotIdIndex submission.slotId).toNat).inFlight = 0 →
    NamesSlot backend descriptor memory submission
  spared : (memory.states (storageSlotIdIndex submission.slotId).toNat).inFlight ≠ 0 →
    backend = .aicpu ∨ sync = true

def Fine (descriptor : StorageDescriptor) (run : LaunchRun) : LaunchEvent → Prop
  | .submit backend sync submission sent =>
      FineSubmission descriptor run.memory backend sync submission sent
  | _ => True

def FineRun (descriptor : StorageDescriptor) : LaunchRun → List LaunchEvent → Prop
  | _, [] => True
  | run, event :: rest =>
      run.Fine descriptor event ∧ FineRun descriptor (run.apply descriptor event) rest

/-- What a slot shows of its command. -/
structure Shows (state : StorageState) (record : Buffer) (attempt : Attempt) : Prop where
  inFlight_ne : state.inFlight ≠ 0
  commandId_ne : state.commandId ≠ 0
  expectedBytes_ne : state.expectedBytes ≠ 0
  status_eq : state.status = setReturnValue attempt.sent.code
  sent_ne : attempt.sent ≠ .queueFull
  landed : attempt.landed = true →
    ∃ completion, deserializeStorageCompletion record = .ok completion ∧
      completion.state = .complete

/-- What is known of the slot at an index. -/
def TracksSlot (state : StorageState) (record : Buffer) : Option Attempt → Prop
  | none => state.inFlight = 0
  | some attempt => Shows state record attempt

/-- Every slot is idle or shows its command. A launch that has failed has left
its slot idle, with the value that a wait returns for it. -/
structure Tracks (descriptor : StorageDescriptor) (run : LaunchRun) : Prop where
  slots : ∀ index, TracksSlot (run.memory.states index) (run.memory.completionBytes index)
    (run.current index)
  refused : ∀ backend slotId value, run.refused backend slotId = some value →
    run.current (storageSlotIdIndex slotId).toNat = none ∧
      value = idleValue backend descriptor slotId

variable {descriptor : StorageDescriptor} {run : LaunchRun}

/-- A slot without a current attempt is not in flight. -/
theorem Tracks.idle (h : run.Tracks descriptor) {index : Nat} (hNone : run.current index = none) :
    (run.memory.states index).inFlight = 0 := by
  have hIndex := h.slots index
  rwa [hNone] at hIndex

/-- A slot with a current attempt shows how far it has come. -/
theorem Tracks.shows (h : run.Tracks descriptor) {index : Nat} {attempt : Attempt}
    (hSome : run.current index = some attempt) :
    Shows (run.memory.states index) (run.memory.completionBytes index) attempt := by
  have hIndex := h.slots index
  rwa [hSome] at hIndex

/-- A slot that is idle has no command. -/
theorem Tracks.current_none (h : run.Tracks descriptor) {index : Nat}
    (hFree : (run.memory.states index).inFlight = 0) : run.current index = none := by
  cases hCurrent : run.current index with
  | none => rfl
  | some attempt => exact absurd hFree (h.shows hCurrent).inFlight_ne

/-- An event that leaves the other slots alone has to be checked at its own. -/
theorem Tracks.slots_update (h : run.Tracks descriptor) {after : LaunchRun} {index : Nat}
    (hStates : ∀ other, other ≠ index → after.memory.states other = run.memory.states other)
    (hRecords : ∀ other, other ≠ index →
      after.memory.completionBytes other = run.memory.completionBytes other)
    (hCurrent : ∀ other, other ≠ index → after.current other = run.current other)
    (hOwn : TracksSlot (after.memory.states index) (after.memory.completionBytes index)
      (after.current index)) (other : Nat) :
    TracksSlot (after.memory.states other) (after.memory.completionBytes other)
      (after.current other) := by
  by_cases hSame : other = index
  · rw [hSame]
    exact hOwn
  · rw [hCurrent other hSame, hStates other hSame, hRecords other hSame]
    exact h.slots other

/-- What is not forgotten concerns another slot. -/
theorem Tracks.forget (h : run.Tracks descriptor) {current : Nat → Option Attempt} {index : Nat}
    (hCurrent : ∀ other, other ≠ index → current other = run.current other)
    (backend : DeviceBackend) (slotId : UInt32) (value : Int32)
    (hRefused : run.forget index backend slotId = some value) :
    current (storageSlotIdIndex slotId).toNat = none ∧
      value = idleValue backend descriptor slotId := by
  obtain ⟨hOther, hSome⟩ := Option.ite_none_left_eq_some.mp hRefused
  rw [hCurrent _ hOther]
  exact h.refused backend slotId value hSome

theorem Tracks.reset (h : run.Tracks descriptor) (index : Nat) (commandId : UInt64) :
    (run.apply descriptor (.reset index commandId)).Tracks descriptor := by
  constructor
  · refine @Tracks.slots_update _ _ h _ index ?_ ?_ ?_ ?_
    · exact fun other hOther => Function.update_of_ne hOther _ _
    · exact fun _ _ => rfl
    · exact fun other hOther => Function.update_of_ne hOther _ _
    · simp [LaunchRun.apply, TracksSlot]
  · exact h.forget fun other hOther => Function.update_of_ne hOther _ _

theorem Tracks.answer (h : run.Tracks descriptor) (index : Nat) (record : CompleteRecord) :
    (run.answered index record).Tracks descriptor := by
  constructor
  · refine @Tracks.slots_update _ _ h _ index ?_ ?_ ?_ ?_
    · exact fun _ _ => rfl
    · exact fun other hOther => Function.update_of_ne hOther _ _
    · exact fun other hOther => Function.update_of_ne hOther _ _
    · cases hCurrent : run.current index with
      | none => simpa [answered, hCurrent, TracksSlot] using h.idle hCurrent
      | some attempt =>
          have hShows := h.shows hCurrent
          simp only [answered, hCurrent, Option.map_some, Function.update_self,
            DeviceMemory.storeCompletion_self, TracksSlot]
          exact { hShows with landed := fun _ => ⟨_, record.deserialize, record.complete⟩ }
  · intro backend slotId value hRefused
    obtain ⟨hNone, hValue⟩ := h.refused backend slotId value hRefused
    refine ⟨?_, hValue⟩
    by_cases hSame : (storageSlotIdIndex slotId).toNat = index
    · simp only [answered, ← hSame, Function.update_self, hNone, Option.map_none]
    · simp only [answered, Function.update_of_ne hSame, hNone]

/-- A launch that meets a command in flight changes nothing. -/
theorem submit_busy {backend : DeviceBackend} {sync : Bool} {submission : Submission}
    {sent : OperationStatus}
    (hFine : FineSubmission descriptor run.memory backend sync submission sent)
    (hBusy : (run.memory.states (storageSlotIdIndex submission.slotId).toNat).inFlight ≠ 0) :
    run.apply descriptor (.submit backend sync submission sent) = run := by
  obtain ⟨result, hLaunch⟩ := @launchSubmission_busy descriptor run.memory submission backend sync
    hBusy
  have hSpared : ¬(backend = .aiv ∧ sync = false) := by
    rintro ⟨rfl, rfl⟩
    rcases hFine.spared hBusy with hOther | hSync
    · cases hOther
    · cases hSync
  rw [if_neg hSpared] at hLaunch
  simp only [apply, submitted, hLaunch, Program.replay, if_pos hBusy]

/-- A launch that leaves its idle slot idle has failed as a wait will say. -/
theorem Tracks.turnedAway (h : run.Tracks descriptor) {after : DeviceMemory}
    {backend : DeviceBackend} {slotId : UInt32} {sent : OperationStatus}
    (hFree : (run.memory.states (storageSlotIdIndex slotId).toNat).inFlight = 0)
    (hIdle : (after.states (storageSlotIdIndex slotId).toNat).inFlight = 0)
    (hOthers : ∀ other, other ≠ (storageSlotIdIndex slotId).toNat →
      after.states other = run.memory.states other)
    (hRecords : after.completionBytes = run.memory.completionBytes) :
    (run.submitted backend slotId (idleValue backend descriptor slotId) after sent).Tracks
      descriptor := by
  have hNone := h.current_none hFree
  rw [submitted, if_neg (not_not.mpr hFree), if_neg (not_not.mpr hIdle)]
  constructor
  · refine @Tracks.slots_update _ _ h _ (storageSlotIdIndex slotId).toNat hOthers ?_ ?_ ?_
    · exact fun other _ => congrFun hRecords other
    · exact fun _ _ => rfl
    · rw [hNone]
      exact hIdle
  · intro other otherId value hRefused
    dsimp only at hRefused
    by_cases hBackend : other = backend
    · subst hBackend
      by_cases hName : otherId = slotId
      · subst hName
        rw [Function.update_self, Function.update_self] at hRefused
        exact ⟨hNone, (Option.some.inj hRefused).symm⟩
      · rw [Function.update_self, Function.update_of_ne hName] at hRefused
        exact h.refused other otherId value hRefused
    · rw [Function.update_of_ne hBackend] at hRefused
      exact h.refused other otherId value hRefused

/-- A submission becomes the current attempt of its slot. -/
theorem Tracks.submit (h : run.Tracks descriptor) {backend : DeviceBackend} {sync : Bool}
    {submission : Submission} {sent : OperationStatus}
    (hFine : FineSubmission descriptor run.memory backend sync submission sent) :
    (run.apply descriptor (.submit backend sync submission sent)).Tracks descriptor := by
  by_cases hFree : (run.memory.states (storageSlotIdIndex submission.slotId).toNat).inFlight = 0
  case neg =>
    rw [submit_busy hFine hFree]
    exact h
  have hEffect := @launchSubmission_idle descriptor run.memory submission
    (setReturnValue sent.code) backend sync hFree
  have hValue := fun hIdle => @launchValue_idle descriptor run.memory submission
    (setReturnValue sent.code) backend sync hFree hIdle (hFine.named hFree)
  rw [apply]
  generalize ((launchSubmission backend sync descriptor run.memory submission).replay fun _ =>
    setReturnValue sent.code).2 = after at hEffect hValue ⊢
  cases hEffect with
  | refused hIdle hOthers hRecords =>
      rw [hValue hIdle]
      exact h.turnedAway hFree hIdle hOthers hRecords
  | @posted expected message hId hExpected =>
      rw [submitted, if_neg (not_not.mpr hFree), if_pos (by simp [DeviceMemory.posted])]
      constructor
      · refine @Tracks.slots_update _ _ h _ (storageSlotIdIndex submission.slotId).toNat ?_ ?_ ?_ ?_
        · exact fun other hOther => Function.update_of_ne hOther _ _
        · exact fun other hOther => Function.update_of_ne hOther _ _
        · exact fun other hOther => Function.update_of_ne hOther _ _
        · simp only [DeviceMemory.posted, DeviceMemory.setState_self, Function.update_self]
          exact {
            inFlight_ne := by simp
            commandId_ne := hId
            expectedBytes_ne := hExpected
            status_eq := rfl
            sent_ne := hFine.sent_ne
            landed := fun hFalse => by cases hFalse }
      · exact h.forget fun other hOther => Function.update_of_ne hOther _ _

/-- One event keeps the slots in order, and so does a run. -/
theorem Tracks.apply (h : run.Tracks descriptor) (event : LaunchEvent)
    (hFine : run.Fine descriptor event) : (run.apply descriptor event).Tracks descriptor := by
  cases event with
  | reset index commandId => exact h.reset index commandId
  | submit backend sync submission sent => exact h.submit hFine
  | answer index record => exact h.answer index record
  | wait backend slotId => exact h

/-- The attempts are tracked in every run. -/
theorem Tracks.follow (h : run.Tracks descriptor) {events : List LaunchEvent}
    (hFine : FineRun descriptor run events) : (run.follow descriptor events).Tracks descriptor := by
  induction events generalizing run with
  | nil => exact h
  | cons event rest ih => exact ih (h.apply event hFine.1) hFine.2

end LaunchRun

section Probes

variable {descriptor : StorageDescriptor} {memory : DeviceMemory} {slotId : UInt32}

/-- The error of a probe with the given return value. -/
def probeError (backend : DeviceBackend) (value : Int32) : Error where
  code := .runtime
  message := waitFailure backend ++ toString value.toInt

/-- Among the codes of the device, the host repeats a wait for a full queue only. -/
theorem pollsAgain_code (backend : DeviceBackend) (status : OperationStatus) :
    pollsAgain (probeError backend (setReturnValue status.code)) =
      decide (status = .queueFull) := by
  cases backend <;> cases status <;> decide +kernel

/-- A probe that could not write its result ends the wait. -/
theorem pollsAgain_unwritten (backend : DeviceBackend) :
    pollsAgain (probeError backend kUnwrittenReturnValue) = false := by
  cases backend <;> decide +kernel

/-- A failure that is not repeated is the outcome of the wait. -/
theorem wait_ends {backend : DeviceBackend} {value : Int32}
    (hValue : waitKernel backend descriptor memory slotId = value) (hFailed : value ≠ 0)
    (hOnce : pollsAgain (probeError backend value) = false) (later : List DeviceMemory) :
    storageWaitWithConfig backend descriptor slotId memory later =
      .error (probeError backend value) := by
  have hProbe : probe backend descriptor slotId memory = .error (probeError backend value) := by
    rw [probe, hValue, launchResult, if_neg hFailed]
    rfl
  cases later with
  | nil => simp [storageWaitWithConfig, concludeProbe, hProbe, hOnce]
  | cons next rest => simp [storageWaitWithConfig, concludeProbe, hProbe, hOnce]

/-- A slot that is not in flight has nothing to wait for. -/
theorem waitKernel_idle (backend : DeviceBackend)
    (hIdle : (memory.states (storageSlotIdIndex slotId).toNat).inFlight = 0) :
    waitKernel backend descriptor memory slotId = idleValue backend descriptor slotId := by
  cases backend with
  | aiv =>
      rw [waitKernel, aivStorageWait, idleValue, if_neg (by simp)]
      split
      · rfl
      · rename_i state hState
        obtain ⟨-, hSame⟩ := Option.ite_none_left_eq_some.mp hState
        cases hSame
        exact if_pos (.inr (.inr (.inr hIdle)))
  | aicpu =>
      rw [waitKernel, idleValue]
      by_cases hValid : storageSlotIdValid descriptor slotId
      · rw [if_neg (not_not.mpr hValid), if_pos ⟨rfl, hValid⟩, aicpuStorageWait,
          if_neg (not_not.mpr hValid)]
        dsimp only
        rw [if_pos hIdle]
        rfl
      · rw [if_pos hValid, if_neg (fun hBoth => hValid hBoth.2)]

/-- The host does not repeat a wait for a slot without a command. -/
theorem pollsAgain_idle (backend : DeviceBackend) :
    pollsAgain (probeError backend (idleValue backend descriptor slotId)) = false := by
  unfold idleValue
  split
  · exact pollsAgain_unwritten backend
  · rw [pollsAgain_code]
    rfl

/-- A wait on an idle slot never reports success. -/
theorem idleValue_ne (backend : DeviceBackend) : idleValue backend descriptor slotId ≠ 0 := by
  unfold idleValue
  split <;> decide

/-- A command in flight is inspected, if the identifier of its slot is valid. -/
theorem waitKernel_busy (backend : DeviceBackend) {attempt : Attempt}
    (hShows : LaunchRun.Shows (memory.states (storageSlotIdIndex slotId).toNat)
      (memory.completionBytes (storageSlotIdIndex slotId).toNat) attempt) :
    waitKernel backend descriptor memory slotId =
      if storageSlotIdValid descriptor slotId then
        inspectSlot (memory.states (storageSlotIdIndex slotId).toNat)
          (memory.completionBytes (storageSlotIdIndex slotId).toNat)
      else setReturnValue OperationStatus.invalidArgument.code := by
  by_cases hValid : storageSlotIdValid descriptor slotId
  · rw [if_pos hValid]
    cases backend with
    | aiv =>
        rw [waitKernel, aivStorageWait, storageState_valid hValid]
        exact if_neg (by simp [hValid, hShows.commandId_ne, hShows.expectedBytes_ne,
          hShows.inFlight_ne])
    | aicpu =>
        rw [waitKernel, if_neg (not_not.mpr hValid), aicpuStorageWait,
          if_neg (not_not.mpr hValid)]
        dsimp only
        rw [if_neg hShows.inFlight_ne]
        rfl
  · rw [if_neg hValid]
    cases backend with
    | aiv =>
        rw [waitKernel, aivStorageWait]
        split
        · rfl
        · exact if_pos (.inl hValid)
    | aicpu => exact if_pos hValid

/-- What is found in a slot: the failure of its send, or what its record says. -/
theorem inspectSlot_shows {state : StorageState} {record : Buffer} {attempt : Attempt}
    (hShows : LaunchRun.Shows state record attempt) :
    (attempt.sent ≠ .success ∧ inspectSlot state record = setReturnValue attempt.sent.code) ∨
    (attempt.sent = .success ∧ ∃ status : OperationStatus, inspectSlot state record =
      setReturnValue status.code ∧ (status = .queueFull → attempt.landed = false)) := by
  have hCode : ∀ status : OperationStatus, status ≠ .success → setReturnValue status.code ≠ 0 := by
    intro status
    cases status <;> decide
  by_cases hSent : attempt.sent = .success
  · right
    have hStatus : state.status = 0 := by
      rw [hShows.status_eq, hSent]
      rfl
    refine ⟨hSent, ?_⟩
    unfold inspectSlot
    rw [if_neg (not_not.mpr hStatus)]
    have hOpen : ∀ completion, deserializeStorageCompletion record = .ok completion →
        completion.state ≠ .complete → attempt.landed = false := by
      intro completion hRecord hPending
      by_contra hLanded
      obtain ⟨other, hOther, hComplete⟩ := hShows.landed (by simpa using hLanded)
      rw [hRecord] at hOther
      cases hOther
      exact hPending hComplete
    split
    · rename_i failure hRecord
      refine ⟨.queueFull, rfl, fun _ => ?_⟩
      by_contra hLanded
      obtain ⟨other, hOther, -⟩ := hShows.landed (by simpa using hLanded)
      rw [hRecord] at hOther
      cases hOther
    · rename_i completion hRecord
      split
      · rename_i hPending
        exact ⟨.queueFull, rfl, fun _ => hOpen completion hRecord hPending⟩
      split
      · exact ⟨.invalidArgument, rfl, by simp⟩
      split
      · exact ⟨.success, rfl, by simp⟩
      · exact ⟨.providerFailed, rfl, by simp⟩
  · left
    refine ⟨hSent, ?_⟩
    have hStatus : state.status ≠ 0 := by
      rw [hShows.status_eq]
      exact hCode _ hSent
    have hBack := setReturnValue_neg state.status
    rw [if_neg hStatus] at hBack
    rw [inspectSlot, if_pos hStatus, hBack, hShows.status_eq]

end Probes

/-- What a wait has to make of a slot. The code of a pending command, and with
it another round of the host, means that the command was sent and has no record
yet. A submission that has failed is reported at the first probe, with the code
of its send or the return value of its kernel, and so is a slot without a
command. -/
structure PendingMeansPending (backend : DeviceBackend) (descriptor : StorageDescriptor)
    (run : LaunchRun) (slotId : UInt32) : Prop where
  pending : waitKernel backend descriptor run.memory slotId =
      setReturnValue OperationStatus.queueFull.code →
    ∃ attempt, run.current (storageSlotIdIndex slotId).toNat = some attempt ∧
      attempt.sent = .success ∧ attempt.landed = false
  again : ∀ error, probe backend descriptor slotId run.memory = .error error →
    pollsAgain error = true →
    waitKernel backend descriptor run.memory slotId =
      setReturnValue OperationStatus.queueFull.code
  failed : ∀ attempt, run.current (storageSlotIdIndex slotId).toNat = some attempt →
    attempt.sent ≠ .success → storageSlotIdValid descriptor slotId →
    ∀ later, storageWaitWithConfig backend descriptor slotId run.memory later =
      .error (probeError backend (setReturnValue attempt.sent.code))
  refused : ∀ value, run.refused backend slotId = some value →
    ∀ later, storageWaitWithConfig backend descriptor slotId run.memory later =
      .error (probeError backend value)
  absent : run.current (storageSlotIdIndex slotId).toNat = none →
    ∀ later, storageWaitWithConfig backend descriptor slotId run.memory later =
      .error (probeError backend (idleValue backend descriptor slotId))

section Verdicts

variable {descriptor : StorageDescriptor} {run : LaunchRun}

/-- Two statuses that are reported alike are the same. -/
theorem code_injective {first second : OperationStatus}
    (h : setReturnValue first.code = setReturnValue second.code) : first = second := by
  revert h
  cases first <;> cases second <;> decide

/-- The return value of a wait in a slot that is in order. -/
theorem LaunchRun.Tracks.waitKernel_cases (h : run.Tracks descriptor) (backend : DeviceBackend)
    (slotId : UInt32) :
    waitKernel backend descriptor run.memory slotId = kUnwrittenReturnValue ∨
      ∃ status : OperationStatus, waitKernel backend descriptor run.memory slotId =
        setReturnValue status.code ∧ (status = .queueFull →
          ∃ attempt, run.current (storageSlotIdIndex slotId).toNat = some attempt ∧
            attempt.sent = .success ∧ attempt.landed = false) := by
  cases hCurrent : run.current (storageSlotIdIndex slotId).toNat with
  | none =>
      rw [waitKernel_idle backend (h.idle hCurrent), idleValue]
      split
      · exact .inl rfl
      · exact .inr ⟨.invalidArgument, rfl, by simp⟩
  | some attempt =>
      have hShows := h.shows hCurrent
      right
      rw [waitKernel_busy backend hShows]
      split
      · rcases inspectSlot_shows hShows with ⟨-, hFailure⟩ | ⟨hSent, status, hFound, hOpen⟩
        · exact ⟨attempt.sent, hFailure, fun hFull => absurd hFull hShows.sent_ne⟩
        · exact ⟨status, hFound, fun hFull => ⟨attempt, rfl, hSent, hOpen hFull⟩⟩
      · exact ⟨.invalidArgument, rfl, by simp⟩

/-- In every run whose sends meet no full queue, whose submissions name valid
slots and whose status words are not written over, a wait tells pending commands
from failed ones. -/
theorem pending_means_pending (descriptor : StorageDescriptor) (memory : DeviceMemory)
    (hIdle : ∀ index, (memory.states index).inFlight = 0) (events : List LaunchEvent)
    (hFine : LaunchRun.FineRun descriptor (.begin memory) events) (backend : DeviceBackend)
    (slotId : UInt32) :
    PendingMeansPending backend descriptor ((LaunchRun.begin memory).follow descriptor events)
      slotId := by
  have hBegin : (LaunchRun.begin memory).Tracks descriptor :=
    ⟨hIdle, fun _ _ _ hRefused => by cases hRefused⟩
  have hTracks := hBegin.follow hFine
  generalize (LaunchRun.begin memory).follow descriptor events = run at hTracks ⊢
  have hUnwritten : kUnwrittenReturnValue ≠ setReturnValue OperationStatus.queueFull.code := by
    decide
  have hCases := @LaunchRun.Tracks.waitKernel_cases descriptor run hTracks backend slotId
  have hAbsent : run.current (storageSlotIdIndex slotId).toNat = none →
      ∀ later, storageWaitWithConfig backend descriptor slotId run.memory later =
        .error (probeError backend (idleValue backend descriptor slotId)) := fun hNone later =>
    wait_ends (waitKernel_idle backend (hTracks.idle hNone)) (idleValue_ne backend)
      (pollsAgain_idle backend) later
  constructor
  · intro hFull
    rcases hCases with hNothing | ⟨status, hStatus, hPending⟩
    · exact absurd (hNothing.symm.trans hFull) hUnwritten
    · exact hPending (code_injective (hStatus.symm.trans hFull))
  · intro error hProbe hAgain
    have hError : error = probeError backend (waitKernel backend descriptor run.memory slotId) := by
      unfold probe launchResult at hProbe
      split at hProbe
      · cases hProbe
      · cases hProbe
        rfl
    rw [hError] at hAgain
    rcases hCases with hNothing | ⟨status, hStatus, -⟩
    · rw [hNothing, pollsAgain_unwritten] at hAgain
      cases hAgain
    · rw [hStatus, pollsAgain_code] at hAgain
      rw [hStatus, of_decide_eq_true hAgain]
  · intro attempt hCurrent hSent hValid later
    have hShows := hTracks.shows hCurrent
    have hFound := @waitKernel_busy descriptor run.memory slotId backend attempt hShows
    rw [if_pos hValid] at hFound
    rcases inspectSlot_shows hShows with ⟨-, hFailure⟩ | ⟨hSuccess, -⟩
    · apply wait_ends (hFound.trans hFailure)
      · intro hZero
        exact hSent (@code_injective attempt.sent .success hZero)
      · rw [pollsAgain_code]
        exact decide_eq_false hShows.sent_ne
    · exact absurd hSuccess hSent
  · intro value hRefused later
    obtain ⟨hNone, rfl⟩ := hTracks.refused backend slotId value hRefused
    exact hAbsent hNone later
  · exact hAbsent

/-- A read of no bytes, which the vector core turns away, and a read whose send
fails after it. -/
def failedRead : List LaunchEvent := [
  .submit .aiv true (.read {
    slotId := 0
    serverOffset := 16
    bufferAddress := 4096
    bufferKey := 9
    length := 0 }) .success,
  .wait .aiv 0,
  .submit .aiv false shortRead .providerFailed]

/-- A synchronous read whose SEND the transport refuses. -/
theorem pending_means_pending_failedRead :
    PendingMeansPending .aiv soleDescriptor
        ((LaunchRun.begin reservedMemory).follow soleDescriptor (failedRead.take 2)) 0 ∧
      ((LaunchRun.begin reservedMemory).follow soleDescriptor (failedRead.take 2)).refused .aiv 0 =
        some (-1) ∧
      PendingMeansPending .aiv soleDescriptor
        ((LaunchRun.begin reservedMemory).follow soleDescriptor failedRead) 0 ∧
      ((LaunchRun.begin reservedMemory).follow soleDescriptor failedRead).current 0 =
        some { sent := .providerFailed, landed := false } := by
  have hValid : storageSlotIdValid soleDescriptor 0 := by decide
  have hFirst : LaunchRun.FineRun soleDescriptor (.begin reservedMemory) (failedRead.take 2) :=
    ⟨⟨by decide, fun _ => .inl hValid, fun hBusy => absurd rfl hBusy⟩, trivial, trivial⟩
  have hFine : LaunchRun.FineRun soleDescriptor (.begin reservedMemory) failedRead :=
    ⟨⟨by decide, fun _ => .inl hValid, fun hBusy => absurd rfl hBusy⟩, trivial,
      ⟨by decide, fun _ => .inl hValid, fun hBusy => absurd rfl hBusy⟩, trivial⟩
  exact ⟨pending_means_pending soleDescriptor reservedMemory (fun _ => rfl) _ hFirst .aiv 0,
    by decide +kernel,
    pending_means_pending soleDescriptor reservedMemory (fun _ => rfl) _ hFine .aiv 0,
    by decide +kernel⟩

/-- A read whose send meets a full queue, a read that is launched again once it
has been answered, and a read that names its slot wrongly. -/
def refusedRead (backend : DeviceBackend) : LaunchRun :=
  (LaunchRun.begin reservedMemory).follow soleDescriptor [.submit backend true shortRead .queueFull]

def finishedRecord : CompleteRecord where
  completion := {
    commandId := 7
    state := .complete
    status := .success
    bytesTransferred := 8 }
  complete := rfl
  valid := by decide

def repeatedRead : LaunchRun :=
  (LaunchRun.begin reservedMemory).follow soleDescriptor [.submit .aiv false shortRead .success,
    .answer 0 finishedRecord, .submit .aiv false shortRead .success]

def misnamedRead : LaunchRun :=
  (LaunchRun.begin reservedMemory).follow soleDescriptor [.submit .aiv true (.read {
    slotId := 65536
    serverOffset := 16
    bufferAddress := 4096
    bufferKey := 9
    length := 8 }) .success]

/-- The host takes a full queue and a busy slot for a pending command, and
probes until its deadline. A submission that names its slot wrongly fails with
another code than the wait. -/
theorem pending_means_refused :
    ¬PendingMeansPending .aiv soleDescriptor (refusedRead .aiv) 0 ∧
      ¬PendingMeansPending .aicpu soleDescriptor (refusedRead .aicpu) 0 ∧
      ¬PendingMeansPending .aiv soleDescriptor repeatedRead 0 ∧
      ¬PendingMeansPending .aiv soleDescriptor misnamedRead 65536 ∧
      storageWaitWithConfig .aiv soleDescriptor 0 (refusedRead .aiv).memory
          [(refusedRead .aiv).memory] =
        .error {
          code := .protocol
          message := "timed out waiting for storage completion" } := by
  have hWrong : ∀ backend run attempt, run.current 0 = some attempt →
      waitKernel backend soleDescriptor run.memory 0 =
        setReturnValue OperationStatus.queueFull.code →
      ¬(attempt.sent = .success ∧ attempt.landed = false) →
      ¬PendingMeansPending backend soleDescriptor run 0 := by
    intro backend run attempt hCurrent hFull hOther hProperty
    obtain ⟨found, hFound, hPending⟩ := hProperty.pending hFull
    have hSame := hCurrent.symm.trans hFound
    cases hSame
    exact hOther hPending
  refine ⟨?_, ?_, ?_, ?_, by decide +kernel⟩
  · exact hWrong .aiv _ { sent := .queueFull, landed := false } (by decide +kernel)
      (by decide +kernel) (by decide)
  · exact hWrong .aicpu _ { sent := .queueFull, landed := false } (by decide +kernel)
      (by decide +kernel) (by decide)
  · exact hWrong .aiv _ { sent := .success, landed := true } (by decide +kernel)
      (by decide +kernel) (by decide)
  · intro hProperty
    have hLaunched : misnamedRead.refused .aiv 65536 = some (-4) := by decide +kernel
    have hWaited : storageWaitWithConfig .aiv soleDescriptor 65536 misnamedRead.memory [] =
        .error (probeError .aiv (-1)) := by decide +kernel
    have hSame := (hProperty.refused (-4) hLaunched []).symm.trans hWaited
    exact absurd hSame (by decide +kernel)

end Verdicts

end NdsStorage.Client
