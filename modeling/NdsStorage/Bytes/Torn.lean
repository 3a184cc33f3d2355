import Mathlib.Data.List.GetD
import Mathlib.Tactic.Ring
import NdsStorage.Bytes.BigEndian

/-! Buffers that are read while they are overwritten. Up to some position the
bytes of one buffer are seen and from there on those of another, so each field
is seen in one version or the other, or is itself cut in two. A number that is
cut keeps its high bytes from the first version and its low bytes from the
second. -/
namespace Bytes

/-- The first bytes of one buffer and the remaining ones of another. -/
def torn (cut : Nat) (first second : Buffer) : Buffer := first.take cut ++ second.drop cut

section Fields

variable {cut position width : Nat} {first second : Buffer}

theorem torn_length (hSame : first.length = second.length) :
    (torn cut first second).length = second.length := by
  rw [torn, List.length_append, List.length_take, List.length_drop]
  omega

/-- Writing the same bytes again tears nothing. -/
theorem torn_self (cut : Nat) (bytes : Buffer) : torn cut bytes bytes = bytes :=
  List.take_append_drop cut bytes

/-- A cut behind equal bytes shows the second buffer. -/
theorem torn_of_take_eq (hSame : first.take cut = second.take cut) :
    torn cut first second = second := by
  rw [torn, hSame, List.take_append_drop]

/-- A cut behind the end shows the first buffer. -/
theorem torn_of_length_le (hFirst : first.length ≤ cut) (hSecond : second.length ≤ cut) :
    torn cut first second = first := by
  rw [torn, List.take_of_length_le hFirst, List.drop_eq_nil_of_le hSecond, List.append_nil]

/-- Bytes before the cut are new, the others old. -/
theorem getD_torn (hSame : first.length = second.length) (index : Nat) :
    (torn cut first second).getD index 0 =
      if index < cut then first.getD index 0 else second.getD index 0 := by
  have hTake : (first.take cut).length = min cut first.length := List.length_take
  rw [torn]
  by_cases hIndex : index < (first.take cut).length
  · rw [List.getD_append _ _ _ _ hIndex, if_pos (by omega), List.getD_eq_getElem?_getD,
      List.getElem?_take_of_lt (by omega), List.getD_eq_getElem?_getD]
  · rw [List.getD_append_right _ _ _ _ (by omega), List.getD_eq_getElem?_getD, List.getElem?_drop]
    by_cases hShort : cut ≤ first.length
    · rw [if_neg (by omega), List.getD_eq_getElem?_getD]
      congr 2
      omega
    · rw [List.getElem?_eq_none (by omega), List.getD_eq_default second 0 (by omega),
        List.getD_eq_default first 0 (by omega), ite_self]
      rfl

/-- A field of a torn buffer is the field of both versions, torn where the cut
falls into it. -/
theorem slice_torn (hSame : first.length = second.length) :
    slice (torn cut first second) position width =
      torn (cut - position) (slice first position width) (slice second position width) := by
  apply List.ext_getElem
  · rw [torn_length (by simp)]
    simp
  intro index hLeft hRight
  rw [slice_length] at hLeft
  have hField : ∀ bytes : Buffer, (slice bytes position width).getD index 0 =
      bytes.getD (position + index) 0 := by
    intro bytes
    simp [slice, hLeft]
  rw [← List.getD_eq_getElem _ 0, ← List.getD_eq_getElem _ 0, hField, getD_torn hSame,
    getD_torn (by simp), hField, hField]
  by_cases hIndex : position + index < cut
  · rw [if_pos hIndex, if_pos (by omega)]
  · rw [if_neg hIndex, if_neg (by omega)]

/-- A field that is the same in both versions is seen whole. -/
theorem slice_torn_same (hSame : first.length = second.length)
    (hField : slice first position width = slice second position width) :
    slice (torn cut first second) position width = slice second position width := by
  rw [slice_torn hSame, hField, torn_self]

/-- Of two numbers with the same high byte, the one whose low byte is seen is read. -/
theorem decode16_torn {first second : UInt16}
    (hHigh : (first >>> 8).toUInt8 = (second >>> 8).toUInt8) :
    decode16 (torn cut (encode16 first) (encode16 second)) =
      if cut ≤ 1 then second else first := by
  match cut with
  | 0 => exact decode16_encode16 second
  | 1 =>
      have hTaken : (encode16 first).take 1 = (encode16 second).take 1 := congrArg (· :: []) hHigh
      rw [torn_of_take_eq hTaken, decode16_encode16]
      rfl
  | cut + 2 =>
      rw [torn_of_length_le (by simp) (by simp), decode16_encode16, if_neg (by omega)]

end Fields

section Numbers

/-- The number that a sequence of bytes stands for, the highest byte first. -/
def number : Buffer → Nat
  | [] => 0
  | byte :: rest => byte.toNat * 256 ^ rest.length + number rest

/-- The bytes bound the number that they stand for. -/
theorem number_lt (bytes : Buffer) : number bytes < 256 ^ bytes.length := by
  induction bytes with
  | nil => simp [number]
  | cons byte rest ih =>
      have hByte : byte.toNat + 1 ≤ 256 := byte.toNat_lt
      have hHigh := Nat.mul_le_mul_right (256 ^ rest.length) hByte
      rw [Nat.add_mul, one_mul, Nat.mul_comm 256, ← Nat.pow_succ] at hHigh
      rw [number, List.length_cons]
      omega

theorem number_append (first second : Buffer) :
    number (first ++ second) = number first * 256 ^ second.length + number second := by
  induction first with
  | nil => simp [number]
  | cons byte rest ih =>
      rw [List.cons_append, number, number, ih, List.length_append, Nat.pow_add]
      ring

theorem number_replicate_zero (count : Nat) : number (List.replicate count 0) = 0 := by
  induction count with
  | zero => rfl
  | succ count ih => simp [List.replicate_succ, number, ih]

/-- Words that do not overlap are added by a disjunction. -/
private theorem or_eq_add (high : Nat) {low width : Nat} (h : low < 2 ^ width) :
    high <<< width ||| low = high * 2 ^ width + low := by
  rw [← Nat.shiftLeft_add_eq_or_of_lt h, Nat.shiftLeft_eq]

theorem decode32_toNat (first second third fourth : UInt8) :
    (decode32 [first, second, third, fourth]).toNat =
      number [first, second, third, fourth] := by
  have h1 := first.toNat_lt
  have h2 := second.toNat_lt
  have h3 := third.toNat_lt
  have h4 := fourth.toNat_lt
  have hLow := or_eq_add third.toNat (show fourth.toNat < 2 ^ 8 by omega)
  have hMiddle := or_eq_add second.toNat
    (show third.toNat * 2 ^ 8 + fourth.toNat < 2 ^ 16 by omega)
  have hHigh := or_eq_add first.toNat
    (show second.toNat * 2 ^ 16 + (third.toNat * 2 ^ 8 + fourth.toNat) < 2 ^ 24 by omega)
  have hFits : ∀ (byte : UInt8) (width : Nat), width ≤ 24 →
      byte.toNat <<< width % 2 ^ 32 = byte.toNat <<< width := by
    intro byte width hWidth
    rw [Nat.shiftLeft_eq]
    apply Nat.mod_eq_of_lt
    calc
      byte.toNat * 2 ^ width < 2 ^ 8 * 2 ^ width :=
        Nat.mul_lt_mul_of_pos_right byte.toNat_lt (Nat.two_pow_pos width)
      _ ≤ 2 ^ 8 * 2 ^ 24 := Nat.mul_le_mul_left _ (Nat.pow_le_pow_right (by decide) hWidth)
  simp only [decode32, UInt32.toNat_or, UInt32.toNat_shiftLeft, UInt8.toNat_toUInt32,
    Nat.or_assoc, number, List.length_cons, List.length_nil, UInt32.reduceToNat, Nat.reduceMod]
  rw [hFits _ _ (by decide), hFits _ _ (by decide), hFits _ _ (by decide), hLow, hMiddle, hHigh]
  omega

/-- A decoded word is the number of its bytes. -/
private theorem decode32_number {bytes : Buffer} (hLength : bytes.length = 4) :
    (decode32 bytes).toNat = number bytes := by
  match bytes, hLength with
  | [first, second, third, fourth], _ => exact decode32_toNat first second third fourth

/-- A decoded long word is the number of its bytes. -/
theorem decode64_toNat {bytes : Buffer} (hLength : bytes.length = 8) :
    (decode64 bytes).toNat = number bytes := by
  have hHigh : (bytes.take 4).length = 4 := by simp [hLength]
  have hLow : (bytes.drop 4).length = 4 := by simp [hLength]
  have hWord : (256 : Nat) ^ 4 = 2 ^ 32 := by decide
  have hBound := number_lt (bytes.drop 4)
  have hTop := number_lt (bytes.take 4)
  rw [hLow, hWord] at hBound
  rw [hHigh, hWord] at hTop
  have hJoined := number_append (bytes.take 4) (bytes.drop 4)
  rw [List.take_append_drop, hLow, hWord] at hJoined
  simp only [decode64, UInt64.toNat_or, UInt64.toNat_shiftLeft, UInt32.toNat_toUInt64,
    decode32_number hHigh, decode32_number hLow, UInt64.reduceToNat, Nat.reduceMod]
  rw [Nat.mod_eq_of_lt (by rw [Nat.shiftLeft_eq]; omega), or_eq_add _ hBound, hJoined]

/-- Encoding and reading back the number is the value. -/
theorem number_encode64 (value : UInt64) : number (encode64 value) = value.toNat := by
  rw [← decode64_toNat (encode64_length value), decode64_encode64]

theorem encode64_zero : encode64 0 = List.replicate 8 0 := by
  decide

variable {value : UInt64} {cut : Nat}

/-- A cut divides the number of a value with remainder. -/
private theorem number_parts :
    number ((encode64 value).take cut) = value.toNat / 256 ^ (8 - cut) ∧
      number ((encode64 value).drop cut) = value.toNat % 256 ^ (8 - cut) := by
  have hLength : ((encode64 value).drop cut).length = 8 - cut := by simp
  have hLow := number_lt ((encode64 value).drop cut)
  have hWhole := number_append ((encode64 value).take cut) ((encode64 value).drop cut)
  rw [hLength] at hLow
  rw [List.take_append_drop, number_encode64, hLength] at hWhole
  rw [hWhole, Nat.add_comm]
  constructor
  · rw [Nat.add_mul_div_right _ _ (Nat.pow_pos (by decide)), Nat.div_eq_of_lt hLow, Nat.zero_add]
  · rw [Nat.add_mul_mod_self_right, Nat.mod_eq_of_lt hLow]

/-- The high bytes of a number followed by zeros are the number itself if and
only if the bytes that are missing were zero. -/
theorem decode64_torn_low :
    decode64 (torn cut (encode64 value) (encode64 0)) = value ↔
      256 ^ (8 - cut) ∣ value.toNat := by
  have hZero : (encode64 0).drop cut = List.replicate (8 - cut) 0 := by
    rw [encode64_zero, List.drop_replicate]
  have hNumber : number (torn cut (encode64 value) (encode64 0)) =
      value.toNat / 256 ^ (8 - cut) * 256 ^ (8 - cut) := by
    rw [torn, number_append, number_parts.1, hZero, number_replicate_zero, List.length_replicate,
      Nat.add_zero]
  rw [← UInt64.toNat_inj, decode64_toNat (torn_length (by simp)), hNumber]
  constructor
  · intro hWhole
    exact Dvd.intro_left _ hWhole
  · exact Nat.div_mul_cancel

/-- The low bytes of a number behind zeros are zero if and only if the number
ends where they begin. -/
theorem decode64_torn_high :
    decode64 (torn cut (encode64 0) (encode64 value)) = 0 ↔ 256 ^ (8 - cut) ∣ value.toNat := by
  have hZero : (encode64 0).take cut = List.replicate (min cut 8) 0 := by
    rw [encode64_zero, List.take_replicate]
  have hNumber : number (torn cut (encode64 0) (encode64 value)) =
      value.toNat % 256 ^ (8 - cut) := by
    rw [torn, number_append, hZero, number_replicate_zero, Nat.zero_mul, Nat.zero_add,
      number_parts.2]
  rw [← UInt64.toNat_inj, decode64_toNat (torn_length (by simp)), hNumber]
  exact Nat.dvd_iff_mod_eq_zero.symm

end Numbers

end Bytes
