import NdsStorage.Bytes.Torn
import NdsStorage.Protocol.RoundTrip

/-! Completion records that are read while one overwrites the other. The two
records of a command agree on everything but the state, the status and the
byte count, which lie in this order in the record. -/
namespace NdsStorage

open Bytes

section Slices

variable (completion : StorageCompletion) {bytes : Buffer}

/-- Where the fields of a completion lie in its bytes. -/
theorem completionLayout_slices (h : kStorageCompletionBytes ≤ bytes.length) :
    slice (completionLayout completion bytes) 0 4 = encode32 kCompletionMagic ∧
    slice (completionLayout completion bytes) 4 2 = encode16 kVersion ∧
    slice (completionLayout completion bytes) 6 2 = encode16 completion.state.code ∧
    slice (completionLayout completion bytes) 8 2 = encode16 completion.status.code ∧
    slice (completionLayout completion bytes) 12 8 = encode64 completion.commandId ∧
    slice (completionLayout completion bytes) 20 8 = encode64 completion.bytesTransferred := by
  have h16 : ∀ {bytes : Buffer} {position : Nat} {value : UInt16}, position + 2 ≤ bytes.length →
      slice (put bytes position (encode16 value)) position 2 = encode16 value :=
    fun hFits => slice_put_same hFits
  have h32 : ∀ {bytes : Buffer} {position : Nat} {value : UInt32}, position + 4 ≤ bytes.length →
      slice (put bytes position (encode32 value)) position 4 = encode32 value :=
    fun hFits => slice_put_same hFits
  have h64 : ∀ {bytes : Buffer} {position : Nat} {value : UInt64}, position + 8 ≤ bytes.length →
      slice (put bytes position (encode64 value)) position 8 = encode64 value :=
    fun hFits => slice_put_same hFits
  simp only [kStorageCompletionBytes] at h
  refine ⟨?_, ?_, ?_, ?_, ?_, ?_⟩ <;>
    simp (disch := (simp only [put_length, clear_length, encode16_length, encode32_length,
      encode64_length]; omega)) only [completionLayout, writeU16, writeU32, writeU64,
      slice_put_disjoint, h16, h32, h64]

end Slices

/-- What the fields of a torn record hold. -/
def tornCompletion (cut : Nat) (first second : StorageCompletion) : StorageCompletion where
  commandId := second.commandId
  state := if cut ≤ 7 then second.state else first.state
  status := if cut ≤ 9 then second.status else first.status
  bytesTransferred := decode64 (torn (cut - 20) (encode64 first.bytesTransferred)
    (encode64 second.bytesTransferred))

variable {cut : Nat} {first second : StorageCompletion} {bytes : Buffer}

/-- The high bytes of two states are the same. -/
private theorem state_high (state other : StorageCompletionState) :
    (state.code >>> 8).toUInt8 = (other.code >>> 8).toUInt8 := by
  cases state <;> cases other <;> rfl

private theorem status_high (status other : StorageStatus) :
    (status.code >>> 8).toUInt8 = (other.code >>> 8).toUInt8 := by
  cases status <;> cases other <;> rfl

/-- A torn record decodes to its fields, unless it is a pending record that
already carries an outcome. -/
theorem deserializeStorageCompletion_torn (hId : first.commandId = second.commandId)
    (h : kStorageCompletionBytes ≤ bytes.length) :
    deserializeStorageCompletion (torn cut (completionLayout first bytes)
        (completionLayout second bytes)) =
      if completionValid (tornCompletion cut first second) then
        .ok (tornCompletion cut first second)
      else
        .error .invalidRecord := by
  obtain ⟨hMagic, hVersion, hState, hStatus, hCommand, hBytes⟩ := completionLayout_slices first h
  obtain ⟨hMagic', hVersion', hState', hStatus', hCommand', hBytes'⟩ :=
    completionLayout_slices second h
  have hLength : (completionLayout first bytes).length = (completionLayout second bytes).length := by
    simp
  have hMagicRead : readU32 (torn cut (completionLayout first bytes)
      (completionLayout second bytes)) 0 = kCompletionMagic := by
    rw [readU32, slice_torn_same hLength (hMagic.trans hMagic'.symm), hMagic', decode32_encode32]
  have hVersionRead : readU16 (torn cut (completionLayout first bytes)
      (completionLayout second bytes)) 4 = kVersion := by
    rw [readU16, slice_torn_same hLength (hVersion.trans hVersion'.symm), hVersion',
      decode16_encode16]
  have hStateRead : readU16 (torn cut (completionLayout first bytes)
      (completionLayout second bytes)) 6 = (tornCompletion cut first second).state.code := by
    rw [readU16, slice_torn hLength, hState, hState', decode16_torn (state_high _ _),
      tornCompletion, apply_ite StorageCompletionState.code]
    exact if_congr (by omega) rfl rfl
  have hStatusRead : readU16 (torn cut (completionLayout first bytes)
      (completionLayout second bytes)) 8 = (tornCompletion cut first second).status.code := by
    rw [readU16, slice_torn hLength, hStatus, hStatus', decode16_torn (status_high _ _),
      tornCompletion, apply_ite StorageStatus.code]
    exact if_congr (by omega) rfl rfl
  have hBytesRead : readU64 (torn cut (completionLayout first bytes)
      (completionLayout second bytes)) 20 =
        (tornCompletion cut first second).bytesTransferred := by
    rw [readU64, slice_torn hLength, hBytes, hBytes']
    rfl
  have hIdRead : readU64 (torn cut (completionLayout first bytes)
      (completionLayout second bytes)) 12 = (tornCompletion cut first second).commandId := by
    rw [readU64, slice_torn_same hLength (by rw [hCommand, hCommand', hId]), hCommand',
      decode64_encode64]
    rfl
  simp only [deserializeStorageCompletion, torn_length hLength, completionLayout_length,
    hMagicRead, hVersionRead, hStateRead, hStatusRead, hIdRead, hBytesRead,
    StorageCompletionState.ofCode_code, StorageStatus.ofCode_code]
  rw [if_neg (Nat.not_lt.mpr h), if_neg (by simp)]

end NdsStorage
