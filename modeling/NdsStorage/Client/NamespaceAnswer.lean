import NdsStorage.Bytes.Landing
import NdsStorage.Client.Opening
import NdsStorage.Client.Submission
import NdsStorage.Protocol.Wire

/-! What a client makes of the namespace answer while it lands. The buffer is
zero before, and the client copies it again and again until the copy decodes. -/
namespace NdsStorage.Client

open Bytes

/-- The record that the server writes into the buffer. -/
def namespaceRecord (capacity : UInt64) : Buffer :=
  namespaceLayout { capacity := capacity } (noBytes kStorageNamespaceBytes)

section Record

variable {capacity : UInt64} {landed : Nat → Bool} {answer : StorageNamespace}

@[simp] theorem namespaceRecord_length :
    (namespaceRecord capacity).length = kStorageNamespaceBytes := by
  simp [namespaceRecord, namespaceLayout, noBytes]

theorem namespaceRecord_capacity :
    slice (namespaceRecord capacity) 8 8 = encode64 capacity := by
  have h64 : ∀ {bytes : Buffer} {position : Nat} {value : UInt64}, position + 8 ≤ bytes.length →
      slice (put bytes position (encode64 value)) position 8 = encode64 value :=
    fun hFits => slice_put_same hFits
  simp (disch := (simp [noBytes, kStorageNamespaceBytes, writeU32, writeU16])) only
    [namespaceRecord, namespaceLayout, writeU64, h64]

/-- A record that has landed in full is read back. -/
theorem deserialize_whole (hCapacity : capacity ≠ 0) :
    deserializeStorageNamespace (namespaceRecord capacity) = .ok { capacity := capacity } :=
  namespace_laidOut.recovered { capacity := capacity } (noBytes kStorageNamespaceBytes)
    (by simp [noBytes, namespaceFormat]) hCapacity

/-- A record that has landed in part is never read as more than it says, and as
less only when a byte of the capacity is missing. -/
theorem deserialize_landing
    (h : deserializeStorageNamespace (landing landed (namespaceRecord capacity)) = .ok answer) :
    answer.capacity ≠ 0 ∧ answer.capacity ≤ capacity ∧
      (answer.capacity = capacity ↔
        landing (fun index => landed (8 + index)) (encode64 capacity) = encode64 capacity) := by
  have hRead : readU64 (landing landed (namespaceRecord capacity)) 8 =
      decode64 (landing (fun index => landed (8 + index)) (encode64 capacity)) := by
    rw [readU64, slice_landing, namespaceRecord_capacity]
  unfold deserializeStorageNamespace at h
  split at h
  · cases h
  · split at h
    · cases h
    · split at h
      next hSome =>
        cases h
        dsimp only
        rw [hRead] at hSome ⊢
        exact ⟨hSome, decode64_landing_le capacity _⟩
      · cases h

end Record

/-- A copy that failed, or found some bytes of the record. -/
def CopyOf (capacity : UInt64) (copy : Except Error Buffer) : Prop :=
  ∀ bytes, copy = .ok bytes → ∃ landed, bytes = landing landed (namespaceRecord capacity)

/-- The copies of a record of which nothing or everything had landed. -/
def Untorn (capacity : UInt64) (copy : Except Error Buffer) : Prop :=
  ∀ bytes, copy = .ok bytes →
    bytes = noBytes kStorageNamespaceBytes ∨ bytes = namespaceRecord capacity

section Observing

variable {capacity observed : UInt64} {copies : List (Except Error Buffer)}

/-- Torn or not, an observed capacity is at most the server's. -/
theorem observeNamespace_le (hCopies : ∀ copy ∈ copies, CopyOf capacity copy)
    (h : StorageMembers.observeNamespace copies = .ok observed) :
    observed ≠ 0 ∧ observed ≤ capacity := by
  induction copies with
  | nil => cases h
  | cons copy copies ih =>
      rw [List.forall_mem_cons] at hCopies
      cases copy with
      | error error => cases h
      | ok bytes =>
          obtain ⟨landed, rfl⟩ := hCopies.1 bytes rfl
          simp only [StorageMembers.observeNamespace] at h
          split at h
          next answer hAnswer =>
            cases h
            exact ⟨(deserialize_landing hAnswer).1, (deserialize_landing hAnswer).2.1⟩
          · exact ih hCopies.2 h

/-- Without a torn copy the client learns the capacity itself. -/
theorem observeNamespace_eq (hCopies : ∀ copy ∈ copies, Untorn capacity copy)
    (hCapacity : capacity ≠ 0) (h : StorageMembers.observeNamespace copies = .ok observed) :
    observed = capacity := by
  induction copies with
  | nil => cases h
  | cons copy copies ih =>
      rw [List.forall_mem_cons] at hCopies
      cases copy with
      | error error => cases h
      | ok bytes =>
          rcases hCopies.1 bytes rfl with rfl | rfl
          · have hBlank : deserializeStorageNamespace (noBytes kStorageNamespaceBytes) =
                .error .invalidRecord := by decide +kernel
            rw [StorageMembers.observeNamespace, hBlank] at h
            exact ih hCopies.2 h
          · rw [StorageMembers.observeNamespace, deserialize_whole hCapacity] at h
            cases h
            rfl

end Observing

section Capacity

variable {capacity : UInt64} {context : RaStorageContext} {memory memory' : DeviceMemory}
  {outcomes : RaOutcomes}

/-- The same slot with a larger namespace behind it. -/
def RaStorageContext.withCapacity (context : RaStorageContext) (capacity : UInt64) :
    RaStorageContext := { context with capacity := capacity }

/-- What lies inside a small namespace lies inside a large one. -/
private theorem inside_mono {offset length small large : UInt64} (h : small ≤ large)
    (hOffset : ¬offset > small) (hLength : ¬length > small - offset) :
    ¬offset > large ∧ ¬length > large - offset := by
  simp only [gt_iff_lt, UInt64.not_lt] at hOffset hLength ⊢
  have hLarge := UInt64.le_trans hOffset h
  refine ⟨hLarge, ?_⟩
  rw [UInt64.le_iff_toNat_le] at h hOffset hLength hLarge ⊢
  rw [UInt64.toNat_sub_of_le _ _ (UInt64.le_iff_toNat_le.mpr hOffset)] at hLength
  rw [UInt64.toNat_sub_of_le _ _ (UInt64.le_iff_toNat_le.mpr hLarge)]
  omega

private theorem nonzero_mono {small large : UInt64} (h : small ≤ large) (hSmall : small ≠ 0) :
    large ≠ 0 := by
  rintro rfl
  exact hSmall (UInt64.le_zero_iff.mp h)

/-- A valid context stays valid in a larger namespace. -/
theorem raValidateContext_mono (hCapacity : capacity ≠ 0) {state : StorageState}
    (h : raValidateContext context state = .ok ()) :
    raValidateContext (context.withCapacity capacity) state = .ok () := by
  unfold raValidateContext at h ⊢
  split at h
  · cases h
  next hValid =>
    rw [if_neg]
    simp only [not_or] at hValid ⊢
    exact ⟨hValid.1, hValid.2.1, hValid.2.2.1, hValid.2.2.2.1, hValid.2.2.2.2.1,
      hValid.2.2.2.2.2.1, hCapacity, hValid.2.2.2.2.2.2.2⟩

theorem raClaim_mono (hCapacity : capacity ≠ 0) {state claimed : StorageState}
    {expectedBytes : UInt64} (h : raClaim context state expectedBytes = .ok claimed) :
    raClaim (context.withCapacity capacity) state expectedBytes = .ok claimed := by
  unfold raClaim at h ⊢
  cases hValid : raValidateContext context state with
  | error error =>
      rw [hValid] at h
      cases h
  | ok _ =>
      rw [hValid] at h
      rw [raValidateContext_mono hCapacity hValid]
      exact h

theorem raExecute_mono (hCapacity : capacity ≠ 0) {write : CommandWriter} {expectedBytes : UInt64}
    (h : raExecute context memory write expectedBytes outcomes = (.ok (), memory')) :
    raExecute (context.withCapacity capacity) memory write expectedBytes outcomes =
      (.ok (), memory') := by
  cases hClaim : raClaim context (memory.states context.slotIndex.toNat) expectedBytes with
  | error error =>
      simp only [raExecute, hClaim] at h
      cases h
  | ok state =>
      have hSame : raClaim (context.withCapacity capacity)
          (memory.states (context.withCapacity capacity).slotIndex.toNat) expectedBytes =
            .ok state := raClaim_mono hCapacity hClaim
      rw [← h]
      simp only [raExecute, hClaim, hSame]
      rfl

theorem raSumEntries_mono {deserialize : Buffer → Except SerdeError StorageBatchEntry}
    {entries : Buffer} {small large : UInt64} (hLess : small ≤ large) {remaining index : Nat}
    {total sum : UInt64}
    (h : raSumEntries small deserialize entries remaining index total = .ok sum) :
    raSumEntries large deserialize entries remaining index total = .ok sum := by
  induction remaining generalizing index total with
  | zero => exact h
  | succ remaining ih =>
      rw [raSumEntries] at h ⊢
      split at h
      · cases h
      next entry hEntry =>
        split at h
        · cases h
        next hValid =>
          simp only [not_or] at hValid
          obtain ⟨hLength, hAddress, hKey, hData, hOffset, hInside, hRest⟩ := hValid
          obtain ⟨hOffset, hInside⟩ := inside_mono hLess hOffset hInside
          rw [if_neg]
          · exact ih h
          · simp only [not_or]
            exact ⟨hLength, hAddress, hKey, hData, hOffset, hInside, hRest⟩

/-- Nothing is executed in an empty namespace. -/
theorem raExecute_capacity {write : CommandWriter} {expectedBytes : UInt64}
    (h : raExecute context memory write expectedBytes outcomes = (.ok (), memory')) :
    context.capacity ≠ 0 := by
  intro hZero
  have hInvalid : ∀ state, raValidateContext context state =
      .error { code := .invalidArgument, message := "invalid RA storage context" } := by
    intro state
    rw [raValidateContext, if_pos (by simp [hZero])]
  have hRefused : raClaim context (memory.states context.slotIndex.toNat) expectedBytes =
      .error { code := .invalidArgument, message := "invalid RA storage context" } := by
    rw [raClaim, hInvalid]
    rfl
  simp only [raExecute, hRefused] at h
  cases h

/-- A transfer that is accepted is accepted in a larger namespace. -/
theorem raStorageTransfer_mono (hLess : context.capacity ≤ capacity) {invalid : String}
    {serialize : StorageTransferCommand → Buffer → Except SerdeError Unit × Buffer}
    {args : TransferArgs}
    (h : raStorageTransfer invalid serialize context memory args outcomes = (.ok (), memory')) :
    raStorageTransfer invalid serialize (context.withCapacity capacity) memory args outcomes =
      (.ok (), memory') := by
  unfold raStorageTransfer at h ⊢
  split at h
  · cases h
  next hValid =>
    have hCapacity := nonzero_mono hLess (raExecute_capacity h)
    simp only [not_or] at hValid
    obtain ⟨hOffset, hLength, hInside, hRest⟩ := hValid
    obtain ⟨hOffset, hInside⟩ := inside_mono hLess hOffset hInside
    rw [if_neg]
    · exact raExecute_mono hCapacity h
    · simp only [not_or]
      exact ⟨hOffset, hLength, hInside, hRest⟩

theorem raStorageBatch_mono (hLess : context.capacity ≤ capacity)
    {serialize : StorageBatchCommand → Buffer → Except SerdeError Unit × Buffer}
    {deserialize : Buffer → Except SerdeError StorageBatchEntry} {args : BatchArgs}
    {entries : Buffer}
    (h : raStorageBatch serialize deserialize context memory args entries outcomes =
      (.ok (), memory')) :
    raStorageBatch serialize deserialize (context.withCapacity capacity) memory args entries
      outcomes = (.ok (), memory') := by
  unfold raStorageBatch at h ⊢
  split at h
  · cases h
  next total hDecoded =>
    have hCapacity := nonzero_mono hLess (raExecute_capacity h)
    have hSame : raDecodeEntries (context.withCapacity capacity) args deserialize
        (outcomes.entriesCopied.map fun _ => entries) = .ok total := by
      unfold raDecodeEntries at hDecoded ⊢
      split at hDecoded
      · cases hDecoded
      next hArgs =>
        rw [if_neg hArgs]
        cases hCopied : outcomes.entriesCopied.map fun _ => entries with
        | error error =>
            rw [hCopied] at hDecoded
            cases hDecoded
        | ok encoded =>
            rw [hCopied] at hDecoded
            exact raSumEntries_mono hLess hDecoded
    rw [hSame]
    exact raExecute_mono hCapacity h

/-- What is submitted within a capacity could have been submitted within a
larger one. -/
theorem raSubmit_mono (hLess : context.capacity ≤ capacity) {submission : Submission}
    (h : raSubmit context memory submission outcomes = (.ok (), memory')) :
    raSubmit (context.withCapacity capacity) memory submission outcomes = (.ok (), memory') := by
  cases submission with
  | read args => exact raStorageTransfer_mono hLess h
  | write args => exact raStorageTransfer_mono hLess h
  | batchRead args entries => exact raStorageBatch_mono hLess h
  | batchWrite args entries => exact raStorageBatch_mono hLess h

end Capacity

end NdsStorage.Client
