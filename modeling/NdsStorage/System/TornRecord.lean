import NdsStorage.Client.Emission
import NdsStorage.Protocol.TornCompletion
import NdsStorage.System.Verdict

/-! Waiting while the answer arrives. The record of a finished command
overwrites the pending record of its slot, and a wait may read the slot in
between. The state lies before the byte count, so a record can already look
complete while its count is still missing. -/
namespace NdsStorage.System

open Bytes Interaction Server Client

/-- Which of the two records the bytes in front of the cut come from. -/
inductive Tear where
  | completeFirst | pendingFirst
deriving DecidableEq, Repr

/-- What a wait may find in a slot while the answer overwrites the pending record. -/
def Tear.record (tear : Tear) (cut : Nat) (pending complete : Buffer) : Buffer :=
  match tear with
  | .completeFirst => torn cut complete pending
  | .pendingFirst => torn cut pending complete

section Readings

/-- How a backend reports what it reads in a slot. -/
structure Reports where
  invalid : Int32
  pending : Int32
  mismatch : Int32
  success : Int32
  failure : Int32
deriving DecidableEq, Repr

/-- The device backends report an invalid record like a pending one. -/
def deviceReports : Reports where
  invalid := setReturnValue OperationStatus.queueFull.code
  pending := setReturnValue OperationStatus.queueFull.code
  mismatch := setReturnValue OperationStatus.invalidArgument.code
  success := setReturnValue OperationStatus.success.code
  failure := setReturnValue OperationStatus.providerFailed.code

def hostReports : Reports where
  invalid := -1
  pending := 1
  mismatch := -1
  success := 0
  failure := -1

/-- All backends check a record in the same order. -/
def Reports.of (reports : Reports) (state : StorageState)
    (decoded : Except SerdeError StorageCompletion) : Int32 :=
  match decoded with
  | .error _ => reports.invalid
  | .ok completion =>
      if completion.state ≠ .complete then reports.pending
      else if completion.commandId ≠ state.commandId ∨
          completion.bytesTransferred ≠ state.expectedBytes.toUInt64 then
        reports.mismatch
      else if completion.status = .success then reports.success
      else reports.failure

variable {descriptor : StorageDescriptor} {memory : DeviceMemory} {slotId : UInt32}

theorem inspectSlot_reports {state : StorageState} (hStatus : state.status = 0)
    (record : Buffer) :
    inspectSlot state record = deviceReports.of state (deserializeStorageCompletion record) := by
  rw [inspectSlot, if_neg (not_not_intro hStatus)]
  cases deserializeStorageCompletion record with
  | error _ => rfl
  | ok completion => rfl

theorem aivStorageWait_reports (hValid : storageSlotIdValid descriptor slotId)
    (hAwaiting : Awaiting (memory.states (storageSlotIdIndex slotId).toNat)) (record : Buffer) :
    aivStorageWait descriptor (memory.storeCompletion (storageSlotIdIndex slotId).toNat record)
        slotId =
      deviceReports.of (memory.states (storageSlotIdIndex slotId).toNat)
        (deserializeStorageCompletion record) := by
  obtain ⟨hId, hExpected, hFlight, hStatus⟩ := hAwaiting
  rw [aivStorageWait, storageState_valid hValid]
  dsimp only
  rw [DeviceMemory.storeCompletion_states, DeviceMemory.storeCompletion_self,
    if_neg (by simp [hValid, hId, hExpected, hFlight])]
  exact inspectSlot_reports hStatus record

theorem aicpuStorageWait_reports (hValid : storageSlotIdValid descriptor slotId)
    (hAwaiting : Awaiting (memory.states (storageSlotIdIndex slotId).toNat)) (record : Buffer) :
    aicpuStorageWait descriptor (memory.storeCompletion (storageSlotIdIndex slotId).toNat record)
        slotId =
      .ok (deviceReports.of (memory.states (storageSlotIdIndex slotId).toNat)
        (deserializeStorageCompletion record)) := by
  rw [aicpuStorageWait, if_neg (not_not_intro hValid)]
  dsimp only
  rw [DeviceMemory.storeCompletion_states, DeviceMemory.storeCompletion_self,
    if_neg hAwaiting.inFlight_ne, inspectSlot_reports hAwaiting.status_eq]

theorem raBackendStorageWait_reports (hValid : storageSlotIdValid descriptor slotId)
    (hUsable : (raStorageContext descriptor (storageSlotIdIndex slotId)).Usable)
    (hAwaiting : Awaiting (memory.states (storageSlotIdIndex slotId).toNat)) (record : Buffer) :
    raBackendStorageWait descriptor true
        (memory.storeCompletion (storageSlotIdIndex slotId).toNat record) slotId (.ok ()) =
      hostReports.of (memory.states (storageSlotIdIndex slotId).toNat)
        (deserializeStorageCompletion record) := by
  have hContext := hUsable _ hAwaiting.commandId_ne hAwaiting.status_eq
  have hSlot : (raStorageContext descriptor (storageSlotIdIndex slotId)).slotIndex =
      storageSlotIdIndex slotId := rfl
  rw [raBackendStorageWait, if_neg (not_not_intro hValid), if_neg (by simp), raStorageWait]
  simp only [hSlot, DeviceMemory.storeCompletion_states, DeviceMemory.storeCompletion_self,
    hContext, bind, Except.bind]
  cases deserializeStorageCompletion record with
  | error _ => rfl
  | ok completion =>
      dsimp only [Reports.of]
      by_cases hComplete : completion.state ≠ .complete
      · rw [if_pos hComplete, if_pos hComplete]
        rfl
      rw [if_neg hComplete, if_neg hComplete]
      split_ifs with hMismatch hSuccess
      · rfl
      · exact if_pos hSuccess
      · exact if_neg hSuccess

end Readings

section Tears

/-- A reading that says that the command is pending, or what the full record says. -/
def Reports.Harmless (reports : Reports) (state : StorageState) (full seen : Buffer) : Prop :=
  reports.of state (deserializeStorageCompletion seen) = reports.pending ∨
    reports.of state (deserializeStorageCompletion seen) =
      reports.of state (deserializeStorageCompletion full)

/-- An answer of the server to the command of a slot: the bytes that the slot
expects if it is a success, and none if it is not. -/
structure Answers (state : StorageState) (completion : StorageCompletion) : Prop where
  awaiting : Awaiting state
  complete : completion.state = .complete
  commandId_eq : completion.commandId = state.commandId
  bytes_eq : completion.bytesTransferred =
    if completion.status = .success then state.expectedBytes.toUInt64 else 0

variable {reports : Reports} {state : StorageState} {completion : StorageCompletion} {cut : Nat}

theorem Answers.decoded (h : Answers state completion) :
    deserializeStorageCompletion (completionRecord completion) = .ok completion := by
  apply deserializeStorageCompletion_layout _ (Nat.le_of_eq List.length_replicate.symm)
  simp [completionValid, h.complete, h.commandId_eq, h.awaiting.commandId_ne]

/-- What the full record of an answer is taken for. -/
theorem Answers.reports_full (h : Answers state completion) :
    reports.of state (deserializeStorageCompletion (completionRecord completion)) =
      if completion.status = .success then reports.success else reports.mismatch := by
  rw [h.decoded, Reports.of]
  by_cases hSuccess : completion.status = .success
  · simp [h.complete, h.commandId_eq, h.bytes_eq, hSuccess]
  · simp only [h.complete, h.commandId_eq, h.bytes_eq, hSuccess, if_false, ne_eq,
      not_true_eq_false, false_or]
    exact if_pos (expectedBytes_ne_zero h.awaiting.expectedBytes_ne)

/-- How many bytes of the count a cut leaves out. -/
private theorem count_cut {value : UInt64} (hValue : value ≠ 0) :
    256 ^ (8 - (cut - 20)) ∣ value.toNat ↔ 256 ^ (28 - cut) ∣ value.toNat := by
  by_cases hCut : 20 ≤ cut
  · rw [show 8 - (cut - 20) = 28 - cut by omega]
  have hPositive : 0 < value.toNat := by
    apply Nat.pos_of_ne_zero
    intro hZero
    exact hValue (UInt64.toNat_inj.mp hZero)
  have hTooLarge : ¬ 256 ^ 8 ∣ value.toNat := by
    intro hDivides
    exact absurd (Nat.le_of_dvd hPositive hDivides) (Nat.not_le.mpr value.toNat_lt)
  rw [show 8 - (cut - 20) = 8 by omega]
  apply iff_of_false hTooLarge
  intro hDivides
  exact hTooLarge ((Nat.pow_dvd_pow 256 (by omega)).trans hDivides)

/-- In front of the low byte of the state both records are the same. -/
theorem tornCompletion_early {first second : StorageCompletion} (hCut : cut ≤ 7) :
    tornCompletion cut first second = second := by
  have hCount : cut - 20 = 0 := by omega
  simp [tornCompletion, hCut, show cut ≤ 9 by omega, hCount, torn]

/-- The answer in front: pending, or complete with the part of the count that was seen. -/
theorem Answers.reports_completeFirst (h : Answers state completion) :
    reports.of state (deserializeStorageCompletion (torn cut (completionRecord completion)
        (pendingRecord state.commandId))) =
      if cut ≤ 7 then reports.pending
      else if decode64 (torn (cut - 20) (encode64 completion.bytesTransferred) (encode64 0)) ≠
          state.expectedBytes.toUInt64 then
        reports.mismatch
      else if cut ≤ 9 ∨ completion.status = .success then reports.success
      else reports.failure := by
  have hDecoded : deserializeStorageCompletion (torn cut (completionRecord completion)
      (pendingRecord state.commandId)) = _ :=
    deserializeStorageCompletion_torn h.commandId_eq (Nat.le_of_eq List.length_replicate.symm)
  rw [hDecoded]
  by_cases hEarly : cut ≤ 7
  · rw [if_pos hEarly, tornCompletion_early hEarly, if_pos]
    · simp [Reports.of, pendingCompletion]
    · simp [completionValid, pendingCompletion, h.awaiting.commandId_ne]
  · rw [if_neg hEarly, if_pos]
    · simp only [Reports.of, tornCompletion, pendingCompletion, hEarly, if_false, h.complete,
        ne_eq, not_true_eq_false, false_or]
      by_cases hStatus : cut ≤ 9
      · simp [hStatus]
      · simp [hStatus]
    · simp [completionValid, tornCompletion, pendingCompletion, hEarly, h.complete,
        h.awaiting.commandId_ne]

/-- The answer behind: the whole answer, or a pending record that may carry a
part of an outcome. -/
theorem Answers.reports_pendingFirst (h : Answers state completion) :
    reports.of state (deserializeStorageCompletion (torn cut (pendingRecord state.commandId)
        (completionRecord completion))) =
      if cut ≤ 7 then
        reports.of state (deserializeStorageCompletion (completionRecord completion))
      else if (10 ≤ cut ∨ completion.status = .success) ∧
          decode64 (torn (cut - 20) (encode64 0) (encode64 completion.bytesTransferred)) = 0 then
        reports.pending
      else reports.invalid := by
  have hDecoded : deserializeStorageCompletion (torn cut (pendingRecord state.commandId)
      (completionRecord completion)) = _ :=
    deserializeStorageCompletion_torn h.commandId_eq.symm (Nat.le_of_eq List.length_replicate.symm)
  rw [hDecoded]
  by_cases hEarly : cut ≤ 7
  · rw [if_pos hEarly, tornCompletion_early hEarly, h.decoded, if_pos]
    simp [completionValid, h.complete, h.commandId_eq, h.awaiting.commandId_ne]
  · rw [if_neg hEarly]
    have hPending : (tornCompletion cut (pendingCompletion state.commandId) completion).state =
        .pending := if_neg hEarly
    have hValid : completionValid (tornCompletion cut (pendingCompletion state.commandId)
        completion) ↔ (10 ≤ cut ∨ completion.status = .success) ∧
          decode64 (torn (cut - 20) (encode64 0) (encode64 completion.bytesTransferred)) = 0 := by
      have hId : completion.commandId ≠ 0 := by
        rw [h.commandId_eq]
        exact h.awaiting.commandId_ne
      by_cases hStatus : cut ≤ 9
      · simp [completionValid, tornCompletion, pendingCompletion, hEarly, hStatus, hId,
          show ¬ 10 ≤ cut by omega]
      · simp [completionValid, tornCompletion, pendingCompletion, hEarly, hStatus, hId,
          show 10 ≤ cut by omega]
    by_cases hClean : completionValid (tornCompletion cut (pendingCompletion state.commandId)
        completion)
    · rw [if_pos hClean, if_pos (hValid.mp hClean)]
      exact if_pos (by simp [hPending])
    · rw [if_neg hClean, if_neg (fun hParts => hClean (hValid.mpr hParts))]
      rfl

/-- With the answer in front, a wait that tells a mismatch from the rest is
misled exactly by a success whose byte count is cut through a nonzero part. -/
theorem harmless_completeFirst (h : Answers state completion)
    (hPending : reports.mismatch ≠ reports.pending) (hSuccess : reports.mismatch ≠ reports.success) :
    reports.Harmless state (completionRecord completion)
        (Tear.completeFirst.record cut (pendingRecord state.commandId)
          (completionRecord completion)) ↔
      cut ≤ 7 ∨ completion.status ≠ .success ∨
        256 ^ (28 - cut) ∣ completion.bytesTransferred.toNat := by
  rw [Reports.Harmless, Tear.record, h.reports_full, h.reports_completeFirst]
  by_cases hEarly : cut ≤ 7
  · rw [if_pos hEarly]
    exact iff_of_true (.inl rfl) (.inl hEarly)
  rw [if_neg hEarly]
  by_cases hStatus : completion.status = .success
  · have hBytes := h.bytes_eq
    rw [if_pos hStatus] at hBytes
    have hCount : 256 ^ (28 - cut) ∣ completion.bytesTransferred.toNat ↔
        decode64 (torn (cut - 20) (encode64 completion.bytesTransferred) (encode64 0)) =
          state.expectedBytes.toUInt64 := by
      rw [← hBytes, decode64_torn_low, count_cut]
      rw [hBytes]
      exact (expectedBytes_ne_zero h.awaiting.expectedBytes_ne).symm
    by_cases hSeen : decode64 (torn (cut - 20) (encode64 completion.bytesTransferred)
        (encode64 0)) = state.expectedBytes.toUInt64
    · rw [if_neg (not_not_intro hSeen), if_pos (.inr hStatus), if_pos hStatus]
      exact iff_of_true (.inr rfl) (.inr (.inr (hCount.mpr hSeen)))
    · rw [if_pos hSeen, if_pos hStatus]
      apply iff_of_false
      · simp [hPending, hSuccess]
      · simp [hEarly, hStatus, hCount, hSeen]
  · have hBytes := h.bytes_eq
    rw [if_neg hStatus] at hBytes
    rw [hBytes, torn_self, decode64_encode64,
      if_pos (expectedBytes_ne_zero h.awaiting.expectedBytes_ne), if_neg hStatus]
    exact iff_of_true (.inr rfl) (.inr (.inl hStatus))

/-- With the answer behind, nothing misleads a wait that reports an invalid
record like a pending one. -/
theorem harmless_pendingFirst (h : Answers state completion)
    (hInvalid : reports.invalid = reports.pending) :
    reports.Harmless state (completionRecord completion)
      (Tear.pendingFirst.record cut (pendingRecord state.commandId)
        (completionRecord completion)) := by
  rw [Reports.Harmless, Tear.record, h.reports_pendingFirst, hInvalid, ite_self]
  by_cases hEarly : cut ≤ 7
  · rw [if_pos hEarly]
    exact .inr rfl
  · rw [if_neg hEarly]
    exact .inl rfl

/-- A wait that reports an invalid record like a mismatch is misled by the
same cuts in both orders. -/
theorem harmless_pendingFirst_iff (h : Answers state completion)
    (hInvalid : reports.invalid = reports.mismatch)
    (hPending : reports.mismatch ≠ reports.pending) (hSuccess : reports.mismatch ≠ reports.success) :
    reports.Harmless state (completionRecord completion)
        (Tear.pendingFirst.record cut (pendingRecord state.commandId)
          (completionRecord completion)) ↔
      cut ≤ 7 ∨ completion.status ≠ .success ∨
        256 ^ (28 - cut) ∣ completion.bytesTransferred.toNat := by
  rw [Reports.Harmless, Tear.record, h.reports_pendingFirst, h.reports_full, hInvalid]
  by_cases hEarly : cut ≤ 7
  · rw [if_pos hEarly]
    exact iff_of_true (.inr rfl) (.inl hEarly)
  rw [if_neg hEarly]
  by_cases hStatus : completion.status = .success
  · have hBytes := h.bytes_eq
    rw [if_pos hStatus] at hBytes
    have hCount : 256 ^ (28 - cut) ∣ completion.bytesTransferred.toNat ↔
        decode64 (torn (cut - 20) (encode64 0) (encode64 completion.bytesTransferred)) = 0 := by
      rw [decode64_torn_high, count_cut]
      rw [hBytes]
      exact (expectedBytes_ne_zero h.awaiting.expectedBytes_ne).symm
    by_cases hSeen : decode64 (torn (cut - 20) (encode64 0)
        (encode64 completion.bytesTransferred)) = 0
    · rw [if_pos ⟨.inr hStatus, hSeen⟩]
      exact iff_of_true (.inl rfl) (.inr (.inr (hCount.mpr hSeen)))
    · rw [if_neg (fun hParts => hSeen hParts.2), if_pos hStatus]
      apply iff_of_false
      · simp [hPending, hSuccess]
      · simp [hEarly, hStatus, hCount, hSeen]
  · rw [if_neg hStatus]
    apply iff_of_true _ (.inr (.inl hStatus))
    split_ifs
    · exact .inl rfl
    · exact .inr rfl

end Tears

section Waits

/-- A wait that finds `seen` in the slot says that the command is pending, or
what it says when it finds the full record. -/
def NotMisled {Report : Type} (wait : Buffer → Report) (pending : Report)
    (full seen : Buffer) : Prop :=
  wait seen = pending ∨ wait seen = wait full

/-- A cut in front of the state, a command that failed, or a byte count whose
bytes from the cut on are zero. -/
def HarmlessCut (cut : Nat) (completion : StorageCompletion) : Prop :=
  cut ≤ 7 ∨ completion.status ≠ .success ∨
    256 ^ (28 - cut) ∣ completion.bytesTransferred.toNat

variable {memory memory' : DeviceMemory} {slotIndex : UInt32} {sent : Int32}
  {checked accepted : Prop}

/-- A submission that is accepted has stored its pending record. -/
theorem accepted_pendingRecord
    (hEffect : SubmitEffect memory slotIndex sent checked accepted memory')
    (hAccepted : accepted) :
    memory'.completionBytes slotIndex.toNat =
      pendingRecord (memory'.states slotIndex.toNat).commandId := by
  cases hEffect with
  | refused hRefused => exact absurd hAccepted hRefused
  | withdrawn hRefused _ => exact absurd hAccepted hRefused
  | posted =>
      simp only [DeviceMemory.posted, DeviceMemory.setState, DeviceMemory.storeCommand,
        DeviceMemory.storeCompletion, Function.update_self]

variable {workload : Workload} {program : Program Call Call.Answer (Except Error Unit)}
  {fabric : Fabric} {turn : Nat} {address : UInt64} {key length : UInt32} {record : Buffer}

/-- The bytes of an answer are the layout of its record. -/
theorem record_layout {completion : StorageCompletion} (hInvariant : RunInvariant workload fabric)
    (hAnswered : .completionPosted address key length record ∈ fabric.history turn)
    (hRecord : deserializeStorageCompletion record = .ok completion) :
    record = completionRecord completion := by
  have hPlanned := completion_eq hInvariant hAnswered
  obtain ⟨parsed, hParsed⟩ := workload.accepted_of_answered turn
    ((hInvariant.planned turn).subset hAnswered)
  have hDecoded : deserializeStorageCompletion (completionRecord
      (workload.resolved turn).completion) = .ok (workload.resolved turn).completion :=
    deserializeStorageCompletion_layout _ (by simp) (workload.resolved_completionValid turn hParsed)
  rw [← hPlanned, hRecord, Except.ok.injEq] at hDecoded
  rw [hPlanned, hDecoded]

/-- The record of an accepted submission answers the slot that made it. -/
theorem accepted_answers {completion : StorageCompletion}
    (hEffect : SubmitEffect memory slotIndex sent checked accepted memory') (hAccepted : accepted)
    (hMessage : memory'.commandBytes slotIndex.toNat = workload.traffic.message turn)
    (hRecord : deserializeStorageCompletion record = .ok completion)
    (hComplete : completion.state = .complete)
    (hId : completion.commandId = carriedCommandId (workload.traffic.message turn))
    (hBytes : completion.bytesTransferred = if completion.status = .success
      then announcedBytes (workload.traffic.message turn) else 0) :
    checked ∧ Answers (memory'.states slotIndex.toNat) completion := by
  obtain ⟨hChecked, hAwaiting, hLanded, hExpected⟩ :=
    landed_answers hEffect hAccepted hMessage hRecord hComplete hId hBytes
  exact ⟨hChecked, hAwaiting, hComplete, hLanded.commandId_eq, hExpected⟩

variable {state : StorageState} {completion : StorageCompletion}

/-- Which torn records a device reports rightly. -/
theorem device_harmless_iff (h : Answers state completion) (tear : Tear) (cut : Nat) :
    deviceReports.Harmless state (completionRecord completion)
        (tear.record cut (pendingRecord state.commandId) (completionRecord completion)) ↔
      tear = .pendingFirst ∨ HarmlessCut cut completion := by
  cases tear with
  | completeFirst =>
      rw [harmless_completeFirst h (by decide) (by decide)]
      simp [HarmlessCut]
  | pendingFirst => exact iff_of_true (harmless_pendingFirst h rfl) (.inl rfl)

/-- Which torn records the host reports rightly. -/
theorem host_harmless_iff (h : Answers state completion) (tear : Tear) (cut : Nat) :
    hostReports.Harmless state (completionRecord completion)
        (tear.record cut (pendingRecord state.commandId) (completionRecord completion)) ↔
      HarmlessCut cut completion := by
  cases tear with
  | completeFirst => exact harmless_completeFirst h (by decide) (by decide)
  | pendingFirst => exact harmless_pendingFirst_iff h rfl (by decide) (by decide)

/-- A command that a backend has posted, the record with which a worker answers
it, and a wait that reads the slot while the record arrives. The device
backends are misled only if the front of the answer is seen, and the host
backend in both orders: in each case exactly by a cut behind the state that
takes nonzero bytes of the count of a success. -/
theorem torn_records_misleading
    (hRun : WorkerReaches workload.traffic workload.session workload.worker program fabric)
    (hAnswered : .completionPosted address key length record ∈ fabric.history turn) :
    ∃ completion, deserializeStorageCompletion record = .ok completion ∧
      (∀ descriptor memory memory' submission sent,
        aivSubmit descriptor memory submission sent = (0, memory') →
        memory'.commandBytes (storageSlotIdIndex submission.slotId).toNat =
          workload.traffic.message turn →
        ∀ (tear : Tear) (cut : Nat),
          (NotMisled (fun bytes => aivStorageWait descriptor (memory'.storeCompletion
              (storageSlotIdIndex submission.slotId).toNat bytes) submission.slotId)
            (setReturnValue OperationStatus.queueFull.code) record
            (tear.record cut (memory'.completionBytes
              (storageSlotIdIndex submission.slotId).toNat) record) ↔
          tear = .pendingFirst ∨ HarmlessCut cut completion)) ∧
      (∀ descriptor memory memory' submission sent,
        aicpuSubmit descriptor memory submission sent = (.ok 0, memory') →
        memory'.commandBytes (storageSlotIdIndex submission.slotId).toNat =
          workload.traffic.message turn →
        ∀ (tear : Tear) (cut : Nat),
          (NotMisled (fun bytes => aicpuStorageWait descriptor (memory'.storeCompletion
              (storageSlotIdIndex submission.slotId).toNat bytes) submission.slotId)
            (.ok (setReturnValue OperationStatus.queueFull.code)) record
            (tear.record cut (memory'.completionBytes
              (storageSlotIdIndex submission.slotId).toNat) record) ↔
          tear = .pendingFirst ∨ HarmlessCut cut completion)) ∧
      ∀ descriptor memory memory' submission outcomes,
        storageSlotIdValid descriptor submission.slotId →
        raSubmit (raStorageContext descriptor (storageSlotIdIndex submission.slotId)) memory
          submission outcomes = (.ok (), memory') →
        memory'.commandBytes (storageSlotIdIndex submission.slotId).toNat =
          workload.traffic.message turn →
        ∀ (tear : Tear) (cut : Nat),
          (NotMisled (fun bytes => raBackendStorageWait descriptor true (memory'.storeCompletion
              (storageSlotIdIndex submission.slotId).toNat bytes) submission.slotId (.ok ()))
            1 record
            (tear.record cut (memory'.completionBytes
              (storageSlotIdIndex submission.slotId).toNat) record) ↔
          HarmlessCut cut completion) := by
  obtain ⟨completion, hRecord, hComplete, hId, hStatus, hBytes⟩ :=
    record_cases hRun.invariant hAnswered
  have hLayout := record_layout hRun.invariant hAnswered hRecord
  refine ⟨completion, hRecord, ?_, ?_, ?_⟩
  · intro descriptor memory memory' submission sent hSubmit hMessage tear cut
    have hEffect := aivSubmit_effect hSubmit
    obtain ⟨hValid, hAnswers⟩ := accepted_answers hEffect rfl hMessage hRecord hComplete hId hBytes
    simp only [NotMisled, aivStorageWait_reports hValid hAnswers.awaiting,
      accepted_pendingRecord hEffect rfl]
    rw [hLayout]
    exact device_harmless_iff hAnswers tear cut
  · intro descriptor memory memory' submission sent hSubmit hMessage tear cut
    have hEffect := aicpuSubmit_effect hSubmit
    obtain ⟨hValid, hAnswers⟩ := accepted_answers hEffect rfl hMessage hRecord hComplete hId hBytes
    simp only [NotMisled, aicpuStorageWait_reports hValid hAnswers.awaiting,
      accepted_pendingRecord hEffect rfl, Except.ok.injEq]
    rw [hLayout]
    exact device_harmless_iff hAnswers tear cut
  · intro descriptor memory memory' submission outcomes hValid hSubmit hMessage tear cut
    have hEffect := raSubmit_effect hSubmit
    obtain ⟨hUsable, hAnswers⟩ := accepted_answers hEffect trivial hMessage hRecord hComplete hId
      hBytes
    have hPending := accepted_pendingRecord hEffect trivial
    simp only [raStorageContext] at hAnswers hPending
    simp only [NotMisled, raBackendStorageWait_reports hValid hUsable hAnswers.awaiting, hPending]
    rw [hLayout]
    exact host_harmless_iff hAnswers tear cut

/-- While the answer to a read of 32 bytes arrives, a cut in front of its state
leaves the read pending and a cut behind its count shows it done. -/
theorem torn_records_singleRead : ∃ fabric memory,
    WorkerReaches singleRead.traffic singleRead.session singleRead.worker (.done (.ok ()))
        fabric ∧
      aivSubmit soleDescriptor reservedMemory (.read singleArgs) 0 = (0, memory) ∧
      ∀ cut ∈ [7, 28], NotMisled (fun bytes => aivStorageWait soleDescriptor
          (memory.storeCompletion 0 bytes) 0) (setReturnValue OperationStatus.queueFull.code)
        (completionRecord (singleRead.resolved 0).completion)
        (Tear.completeFirst.record cut (memory.completionBytes 0)
          (completionRecord (singleRead.resolved 0).completion)) := by
  have hReturned : (runFor singleRead.traffic singleRead.session singleRead.worker 1 14).1 =
      .done (.ok ()) := Config.outcome?_eq (by decide +kernel)
  have hRun := runFor_reaches singleRead.traffic singleRead.session singleRead.worker 1 14
  rw [hReturned] at hRun
  obtain ⟨completion, -, hAiv, -, -⟩ :=
    torn_records_misleading hRun (answered_of_returned hRun (show 0 < 1 by decide))
  have hSubmit : (aivSubmit soleDescriptor reservedMemory (.read singleArgs) 0).1 = 0 := by
    decide +kernel
  refine ⟨_, (aivSubmit soleDescriptor reservedMemory (.read singleArgs) 0).2, hRun,
    Prod.ext hSubmit rfl, ?_⟩
  intro cut hCut
  apply (hAiv soleDescriptor reservedMemory _ (.read singleArgs) 0 (Prod.ext hSubmit rfl)
    (by decide +kernel) .completeFirst cut).mpr
  simp only [List.mem_cons, List.not_mem_nil, or_false] at hCut
  obtain rfl | rfl := hCut
  · exact .inr (.inl (by decide))
  · exact .inr (.inr (.inr (by simp)))

/-- The same read while the first 24 bytes of its answer have arrived: the
device reports invalid arguments. With the last eight bytes arrived instead,
the host reports a failure. -/
theorem torn_records_singleRead_misled : ∃ fabric memory memory',
    WorkerReaches singleRead.traffic singleRead.session singleRead.worker (.done (.ok ()))
        fabric ∧
      singleRead.completionEvent 0 ∈ fabric.history 0 ∧
      aivSubmit soleDescriptor reservedMemory (.read singleArgs) 0 = (0, memory) ∧
      memory.commandBytes 0 = singleRead.traffic.message 0 ∧
      ¬ NotMisled (fun bytes => aivStorageWait soleDescriptor (memory.storeCompletion 0 bytes) 0)
        (setReturnValue OperationStatus.queueFull.code)
        (completionRecord (singleRead.resolved 0).completion)
        (Tear.completeFirst.record 24 (memory.completionBytes 0)
          (completionRecord (singleRead.resolved 0).completion)) ∧
      raSubmit (raStorageContext soleDescriptor 0) reservedMemory (.read singleArgs)
        copiesSucceed = (.ok (), memory') ∧
      memory'.commandBytes 0 = singleRead.traffic.message 0 ∧
      ¬ NotMisled (fun bytes => raBackendStorageWait soleDescriptor true
          (memory'.storeCompletion 0 bytes) 0 (.ok ())) 1
        (completionRecord (singleRead.resolved 0).completion)
        (Tear.pendingFirst.record 24 (memory'.completionBytes 0)
          (completionRecord (singleRead.resolved 0).completion)) := by
  have hReturned : (runFor singleRead.traffic singleRead.session singleRead.worker 1 14).1 =
      .done (.ok ()) := Config.outcome?_eq (by decide +kernel)
  have hRun := runFor_reaches singleRead.traffic singleRead.session singleRead.worker 1 14
  rw [hReturned] at hRun
  have hSubmit : (aivSubmit soleDescriptor reservedMemory (.read singleArgs) 0).1 = 0 := by
    decide +kernel
  have hHost : (raSubmit (raStorageContext soleDescriptor 0) reservedMemory (.read singleArgs)
      copiesSucceed).1.toOption = some () := by
    decide +kernel
  refine ⟨_, (aivSubmit soleDescriptor reservedMemory (.read singleArgs) 0).2,
    (raSubmit (raStorageContext soleDescriptor 0) reservedMemory (.read singleArgs)
      copiesSucceed).2, hRun,
    answered_of_returned hRun (show 0 < 1 by decide), Prod.ext hSubmit rfl, by decide +kernel,
    by unfold NotMisled; decide +kernel, Prod.ext ?_ rfl, by decide +kernel,
    by unfold NotMisled; decide +kernel⟩
  revert hHost
  cases (raSubmit (raStorageContext soleDescriptor 0) reservedMemory (.read singleArgs)
    copiesSucceed).1 with
  | error error => intro hHost; cases hHost
  | ok _ => intro _; rfl

end Waits

end NdsStorage.System
