import Mathlib.Algebra.Ring.Nat
import NdsStorage.Bytes.Torn

/-! Buffers into which the bytes of another one land one by one, in any order.
A number that lands over zeros is never read as more than it is, and is read
as what it is only when no byte is missing but zeros. -/
namespace Bytes

/-- The bytes of the second buffer that have landed, over those of the first. -/
def overlay (landed : Nat → Bool) (first second : Buffer) : Buffer :=
  (List.range second.length).map fun index =>
    if landed index then second.getD index 0 else first.getD index 0

section Fields

variable {landed : Nat → Bool} {first second : Buffer}

@[simp] theorem overlay_length : (overlay landed first second).length = second.length := by
  simp [overlay]

/-- Each byte is the new one if it has landed and the old one if not. -/
theorem getD_overlay (hSame : first.length = second.length) (index : Nat) :
    (overlay landed first second).getD index 0 =
      if landed index then second.getD index 0 else first.getD index 0 := by
  by_cases hIndex : index < second.length
  · simp [overlay, hIndex]
  · rw [List.getD_eq_default _ 0 (by simpa using hIndex), List.getD_eq_default second 0 (by omega),
      List.getD_eq_default first 0 (by omega), ite_self]

/-- A field of an overlaid buffer is the field of one buffer over that of the
other. -/
theorem slice_overlay (hSame : first.length = second.length) (position width : Nat) :
    slice (overlay landed first second) position width =
      overlay (fun index => landed (position + index)) (slice first position width)
        (slice second position width) := by
  apply List.ext_getElem
  · simp
  intro index hLeft hRight
  have hIndex : index < width := by simpa using hLeft
  have hField : ∀ bytes : Buffer, (slice bytes position width).getD index 0 =
      bytes.getD (position + index) 0 := by
    intro bytes
    simp [slice, hIndex]
  rw [← List.getD_eq_getElem _ 0, ← List.getD_eq_getElem _ 0, hField, getD_overlay hSame,
    getD_overlay (by simp), hField, hField]

/-- Once everything has landed, only the new bytes are seen. -/
theorem overlay_all (h : ∀ index < second.length, landed index = true) :
    overlay landed first second = second := by
  apply List.ext_getElem
  · simp
  intro index hLeft hRight
  simp [overlay, h index hRight, hRight]

/-- As long as nothing has landed, only the old bytes are seen. -/
theorem overlay_none (hSame : first.length = second.length) :
    overlay (fun _ => false) first second = first := by
  apply List.ext_getElem
  · simp [hSame]
  intro index hLeft hRight
  simp [overlay, hRight]

theorem overlay_cons (byte byte' : UInt8) (first second : Buffer) :
    overlay landed (byte :: first) (byte' :: second) =
      (if landed 0 then byte' else byte) ::
        overlay (fun index => landed (index + 1)) first second := by
  simp [overlay, List.range_succ_eq_map, List.map_map, Function.comp_def]

end Fields

section Numbers

variable {landed : Nat → Bool}

/-- What lands over zeros. -/
def landing (landed : Nat → Bool) (bytes : Buffer) : Buffer :=
  overlay landed (List.replicate bytes.length 0) bytes

@[simp] theorem landing_length (bytes : Buffer) : (landing landed bytes).length = bytes.length :=
  overlay_length

theorem landing_cons (byte : UInt8) (bytes : Buffer) :
    landing landed (byte :: bytes) =
      (if landed 0 then byte else 0) :: landing (fun index => landed (index + 1)) bytes :=
  overlay_cons ..

/-- A field of a partly landed record is a partly landed field. -/
theorem slice_landing (bytes : Buffer) (position width : Nat) :
    slice (landing landed bytes) position width =
      landing (fun index => landed (position + index)) (slice bytes position width) := by
  have hZeros : slice (List.replicate bytes.length 0) position width = List.replicate width 0 := by
    apply List.ext_getElem
    · simp
    intro index hLeft hRight
    simp only [slice, List.getElem_map, List.getElem_range, List.getElem_replicate]
    by_cases hInside : position + index < bytes.length
    · simp [hInside]
    · rw [List.getD_eq_default _ 0 (by simpa using hInside)]
  rw [landing, slice_overlay (by simp), hZeros, landing, slice_length]

/-- A number that lands is read as a smaller one until all that is missing of it
is zero. -/
theorem number_landing_le (bytes : Buffer) (landed : Nat → Bool) :
    number (landing landed bytes) ≤ number bytes ∧
      (number (landing landed bytes) = number bytes ↔ landing landed bytes = bytes) := by
  induction bytes generalizing landed with
  | nil => simp [landing, overlay]
  | cons byte rest ih =>
      obtain ⟨hLe, hEq⟩ := ih fun index => landed (index + 1)
      rw [landing_cons, number, number, landing_length, List.cons.injEq]
      by_cases hSame : (if landed 0 then byte else 0) = byte
      · rw [hSame, Nat.add_left_cancel_iff, hEq]
        exact ⟨Nat.add_le_add_left hLe _, by simp⟩
      · have hZero : (if landed 0 then byte else 0) = 0 := by
          split at hSame
          · exact absurd rfl hSame
          · rw [if_neg (by assumption)]
        have hMissing : 0 < byte.toNat * 256 ^ rest.length := by
          apply Nat.mul_pos _ (Nat.pow_pos (by decide))
          rw [hZero] at hSame
          apply Nat.pos_of_ne_zero
          intro hNone
          exact hSame (UInt8.toNat_inj.mp hNone.symm)
        rw [hZero, UInt8.toNat_zero, Nat.zero_mul, Nat.zero_add]
        refine ⟨by omega, ⟨fun hNumber => ?_, fun hBoth => ?_⟩⟩
        · omega
        · exact absurd (hZero.trans hBoth.1) hSame

/-- The same for a field of eight bytes. -/
theorem decode64_landing_le (value : UInt64) (landed : Nat → Bool) :
    decode64 (landing landed (encode64 value)) ≤ value ∧
      (decode64 (landing landed (encode64 value)) = value ↔
        landing landed (encode64 value) = encode64 value) := by
  obtain ⟨hLe, hEq⟩ := number_landing_le (encode64 value) landed
  rw [← decode64_toNat (by simp), number_encode64] at hLe hEq
  exact ⟨UInt64.le_iff_toNat_le.mpr hLe, UInt64.toNat_inj.symm.trans hEq⟩

end Numbers

end Bytes
