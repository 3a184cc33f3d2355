import Mathlib.Data.List.Basic

/-! Fixed-width big-endian fields inside a byte buffer. A field is written by
replacing a slice and read back by decoding one. Reads of a field only depend
on its slice, so writes elsewhere in the buffer leave it alone. -/
namespace Bytes

abbrev Buffer := List UInt8

/-- The bytes at `position` and after, `width` of them. Bytes past the end read as zero. -/
def slice (bytes : Buffer) (position width : Nat) : Buffer :=
  (List.range width).map fun index => bytes.getD (position + index) 0

/-- Overwrite the buffer from `position` on with the bytes of a field. The
buffer never grows. -/
def put : Buffer → Nat → Buffer → Buffer
  | [], _, _ => []
  | byte :: rest, position + 1, field => byte :: put rest position field
  | byte :: rest, 0, [] => byte :: rest
  | _ :: rest, 0, first :: field => first :: put rest 0 field

@[simp] theorem put_length (bytes field : Buffer) (position : Nat) :
    (put bytes position field).length = bytes.length := by
  induction bytes, position, field using put.induct with
  | case1 position field => rfl
  | case2 byte rest position field ih => simp [put, ih]
  | case3 byte rest => rfl
  | case4 byte rest first field ih => simp [put, ih]

/-- A field replaces the bytes of its place and no others. -/
theorem getD_put {bytes field : Buffer} {position : Nat}
    (h : position + field.length ≤ bytes.length) (index : Nat) :
    (put bytes position field).getD index 0 =
      if position ≤ index ∧ index < position + field.length then field.getD (index - position) 0
      else bytes.getD index 0 := by
  induction bytes, position, field using put.induct generalizing index with
  | case1 position field =>
      have hEmpty : position + field.length = 0 := by simpa using h
      simp only [put]
      rw [if_neg (by omega)]
  | case2 byte rest position field ih =>
      have hRest : position + field.length ≤ rest.length := by
        simp only [List.length_cons] at h
        omega
      cases index with
      | zero => simp [put]
      | succ index =>
          simp only [put, List.getD_cons_succ]
          rw [ih hRest index, Nat.add_sub_add_right]
          split <;> split <;> first | rfl | omega
  | case3 byte rest =>
      simp only [put, List.length_nil]
      rw [if_neg (by omega)]
  | case4 byte rest first field ih =>
      have hRest : 0 + field.length ≤ rest.length := by
        simp only [List.length_cons] at h
        omega
      cases index with
      | zero => simp [put]
      | succ index =>
          simp only [put, List.getD_cons_succ, Nat.sub_zero, List.length_cons]
          rw [ih hRest index]
          simp only [Nat.sub_zero]
          split <;> split <;> first | rfl | omega

/-- What was put somewhere is read back from there. -/
theorem slice_put_same {bytes field : Buffer} {position : Nat}
    (h : position + field.length ≤ bytes.length) :
    slice (put bytes position field) position field.length = field := by
  apply List.ext_getElem
  · simp [slice]
  · intro index hLeft hRight
    simp only [slice, List.getElem_map, List.getElem_range]
    rw [getD_put h, if_pos ⟨by omega, by omega⟩, Nat.add_sub_cancel_left,
      List.getD_eq_getElem?_getD, List.getElem?_eq_getElem hRight, Option.getD_some]

theorem slice_put_disjoint {bytes field : Buffer} {position other width : Nat}
    (h : position + field.length ≤ bytes.length)
    (hApart : other + width ≤ position ∨ position + field.length ≤ other) :
    slice (put bytes position field) other width = slice bytes other width := by
  simp only [slice]
  apply List.map_congr_left
  intro index hIndex
  rw [List.mem_range] at hIndex
  rw [getD_put h, if_neg (by omega)]

@[simp] theorem slice_length (bytes : Buffer) (position width : Nat) :
    (slice bytes position width).length = width := by
  simp [slice]

theorem slice_all (bytes : Buffer) : slice bytes 0 bytes.length = bytes := by
  apply List.ext_getElem
  · simp
  · intro index hLeft hRight
    simp only [slice, List.getElem_map, List.getElem_range, Nat.zero_add]
    rw [List.getD_eq_getElem?_getD, List.getElem?_eq_getElem hRight, Option.getD_some]

/-- The front of a concatenation is its first part. -/
theorem slice_append_left (front rest : Buffer) : slice (front ++ rest) 0 front.length = front := by
  apply List.ext_getElem
  · simp
  · intro index hLeft hRight
    simp only [slice, List.getElem_map, List.getElem_range, Nat.zero_add]
    rw [List.getD_eq_getElem?_getD, List.getElem?_append_left hRight,
      List.getElem?_eq_getElem hRight, Option.getD_some]

theorem slice_append_right (front rest : Buffer) (position width : Nat) :
    slice (front ++ rest) (front.length + position) width = slice rest position width := by
  apply List.map_congr_left
  intro index hIndex
  rw [List.getD_eq_getElem?_getD, List.getD_eq_getElem?_getD, Nat.add_assoc,
    List.getElem?_append_right (Nat.le_add_right ..), Nat.add_sub_cancel_left]

/-- Chunks of one width are found one after another. -/
theorem slice_flatten {chunks : List Buffer} {width index : Nat} {chunk : Buffer}
    (hWidth : ∀ chunk ∈ chunks, chunk.length = width) (h : chunks[index]? = some chunk)
    (rest : Buffer) : slice (chunks.flatten ++ rest) (index * width) width = chunk := by
  induction chunks generalizing index with
  | nil => cases h
  | cons first chunks ih =>
      obtain rfl := hWidth first List.mem_cons_self
      rw [List.flatten_cons, List.append_assoc]
      cases index with
      | zero =>
          cases h
          rw [Nat.zero_mul]
          exact slice_append_left ..
      | succ index =>
          rw [Nat.succ_mul, Nat.add_comm, slice_append_right]
          exact ih (fun chunk hChunk => hWidth chunk (List.mem_cons_of_mem _ hChunk)) h

/-- Every chunk of a repeated field is the field. -/
theorem slice_replicate (field : Buffer) {count index : Nat} (h : index < count) :
    slice (List.replicate count field).flatten (index * field.length) field.length = field := by
  have hChunk := @slice_flatten (List.replicate count field) field.length index field
    (fun chunk hChunk => congrArg List.length (List.eq_of_mem_replicate hChunk))
    (List.getElem?_replicate_of_lt h) []
  rw [List.append_nil] at hChunk
  exact hChunk

/-- Bytes copied to the front of a buffer are found there as they were at their source. -/
theorem slice_put_slice {bytes source : Buffer} {length position width : Nat}
    (hFits : length ≤ bytes.length) (h : position + width ≤ length) :
    slice (put bytes 0 (slice source 0 length)) position width = slice source position width := by
  have hPut : 0 + (slice source 0 length).length ≤ bytes.length := by simpa using hFits
  apply List.map_congr_left
  intro index hIndex
  rw [List.mem_range] at hIndex
  rw [getD_put hPut, slice_length, if_pos ⟨by omega, by omega⟩, Nat.sub_zero]
  have hInside : position + index < (slice source 0 length).length := by
    rw [slice_length]
    omega
  rw [List.getD_eq_getElem?_getD, List.getElem?_eq_getElem hInside, Option.getD_some]
  simp [slice]

theorem drop_put (bytes field : Buffer) {position start : Nat}
    (hStart : position + field.length ≤ start) :
    (put bytes position field).drop start = bytes.drop start := by
  induction bytes, position, field using put.induct generalizing start with
  | case1 position field => rfl
  | case2 byte rest position field ih =>
      obtain ⟨before, rfl⟩ : ∃ before, start = before + 1 := ⟨start - 1, by omega⟩
      exact ih (by omega)
  | case3 byte rest => rfl
  | case4 byte rest first field ih =>
      simp only [List.length_cons] at hStart
      obtain ⟨before, rfl⟩ : ∃ before, start = before + 1 := ⟨start - 1, by omega⟩
      exact ih (by omega)

def encode16 (value : UInt16) : Buffer :=
  [(value >>> 8).toUInt8, value.toUInt8]

def decode16 : Buffer → UInt16
  | [first, second] => first.toUInt16 <<< 8 ||| second.toUInt16
  | _ => 0

def encode32 (value : UInt32) : Buffer :=
  [(value >>> 24).toUInt8, (value >>> 16).toUInt8, (value >>> 8).toUInt8, value.toUInt8]

def decode32 : Buffer → UInt32
  | [first, second, third, fourth] =>
      first.toUInt32 <<< 24 ||| second.toUInt32 <<< 16 ||| third.toUInt32 <<< 8 |||
        fourth.toUInt32
  | _ => 0

def encode64 (value : UInt64) : Buffer :=
  encode32 (value >>> 32).toUInt32 ++ encode32 value.toUInt32

def decode64 (bytes : Buffer) : UInt64 :=
  (decode32 (bytes.take 4)).toUInt64 <<< 32 ||| (decode32 (bytes.drop 4)).toUInt64

@[simp] theorem encode16_length (value : UInt16) : (encode16 value).length = 2 := rfl

@[simp] theorem encode32_length (value : UInt32) : (encode32 value).length = 4 := rfl

@[simp] theorem encode64_length (value : UInt64) : (encode64 value).length = 8 := rfl

private theorem reassemble16 (value : BitVec 16) :
    ((value >>> 8).setWidth 8).setWidth 16 <<< 8 ||| (value.setWidth 8).setWidth 16 = value := by
  ext index hIndex
  simp
  grind

private theorem reassemble32 (value : BitVec 32) :
    ((value >>> 24).setWidth 8).setWidth 32 <<< 24 |||
        ((value >>> 16).setWidth 8).setWidth 32 <<< 16 |||
      ((value >>> 8).setWidth 8).setWidth 32 <<< 8 ||| (value.setWidth 8).setWidth 32 = value := by
  ext index hIndex
  simp
  grind

private theorem reassemble64 (value : BitVec 64) :
    ((value >>> 32).setWidth 32).setWidth 64 <<< 32 ||| (value.setWidth 32).setWidth 64 =
      value := by
  ext index hIndex
  simp
  grind

@[simp] theorem decode16_encode16 (value : UInt16) : decode16 (encode16 value) = value :=
  congrArg UInt16.ofBitVec (reassemble16 value.toBitVec)

@[simp] theorem decode32_encode32 (value : UInt32) : decode32 (encode32 value) = value :=
  congrArg UInt32.ofBitVec (reassemble32 value.toBitVec)

@[simp] theorem decode64_encode64 (value : UInt64) : decode64 (encode64 value) = value := by
  have hHigh : (encode64 value).take 4 = encode32 (value >>> 32).toUInt32 := rfl
  have hLow : (encode64 value).drop 4 = encode32 value.toUInt32 := rfl
  rw [decode64, hHigh, hLow, decode32_encode32, decode32_encode32]
  exact congrArg UInt64.ofBitVec (reassemble64 value.toBitVec)

/-- A half word survives being stored and loaded. -/
theorem decode16_put {bytes : Buffer} {position : Nat} {value : UInt16}
    (h : position + 2 ≤ bytes.length) :
    decode16 (slice (put bytes position (encode16 value)) position 2) = value :=
  (congrArg decode16 (slice_put_same h)).trans (decode16_encode16 value)

theorem decode32_put {bytes : Buffer} {position : Nat} {value : UInt32}
    (h : position + 4 ≤ bytes.length) :
    decode32 (slice (put bytes position (encode32 value)) position 4) = value :=
  (congrArg decode32 (slice_put_same h)).trans (decode32_encode32 value)

/-- A long word survives being stored and loaded. -/
theorem decode64_put {bytes : Buffer} {position : Nat} {value : UInt64}
    (h : position + 8 ≤ bytes.length) :
    decode64 (slice (put bytes position (encode64 value)) position 8) = value :=
  (congrArg decode64 (slice_put_same h)).trans (decode64_encode64 value)

end Bytes
