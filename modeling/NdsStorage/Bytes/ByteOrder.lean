import NdsStorage.Bytes.BigEndian

/-! Host words on a little-endian machine. A word lies in memory least
significant byte first; swapping its bytes before it is stored puts the most
significant one in front. -/
namespace Bytes

def memory16 (value : UInt16) : Buffer := [value.toUInt8, (value >>> 8).toUInt8]

def memory32 (value : UInt32) : Buffer :=
  [value.toUInt8, (value >>> 8).toUInt8, (value >>> 16).toUInt8, (value >>> 24).toUInt8]

def memory64 (value : UInt64) : Buffer :=
  memory32 value.toUInt32 ++ memory32 (value >>> 32).toUInt32

def swap16 (value : UInt16) : UInt16 :=
  value.toUInt8.toUInt16 <<< 8 ||| (value >>> 8).toUInt8.toUInt16

def swap32 (value : UInt32) : UInt32 :=
  value.toUInt8.toUInt32 <<< 24 ||| (value >>> 8).toUInt8.toUInt32 <<< 16 |||
    (value >>> 16).toUInt8.toUInt32 <<< 8 ||| (value >>> 24).toUInt8.toUInt32

@[simp] theorem memory16_length (value : UInt16) : (memory16 value).length = 2 := rfl

@[simp] theorem memory32_length (value : UInt32) : (memory32 value).length = 4 := rfl

@[simp] theorem memory64_length (value : UInt64) : (memory64 value).length = 8 := rfl

/-- Reading memory most significant byte first swaps the word. -/
theorem decode16_memory16 (value : UInt16) : decode16 (memory16 value) = swap16 value := rfl

/-- A word read in the other byte order comes out swapped. -/
theorem decode32_memory32 (value : UInt32) : decode32 (memory32 value) = swap32 value := rfl

private theorem byte_of_swapped16 (value : BitVec 16) :
    ((value.setWidth 8).setWidth 16 <<< 8 ||| ((value >>> 8).setWidth 8).setWidth 16).setWidth 8 =
        (value >>> 8).setWidth 8 ∧
      (((value.setWidth 8).setWidth 16 <<< 8 ||| ((value >>> 8).setWidth 8).setWidth 16)
        >>> 8).setWidth 8 = value.setWidth 8 := by
  constructor
  · ext index hIndex
    simp
  · ext index hIndex
    simp
    grind

/-- A swapped word lies in memory most significant byte first. -/
theorem memory16_swap16 (value : UInt16) : memory16 (swap16 value) = encode16 value := by
  obtain ⟨hLow, hHigh⟩ := byte_of_swapped16 value.toBitVec
  rw [memory16, encode16]
  congr 1
  · exact congrArg UInt8.ofBitVec hLow
  · congr 1
    exact congrArg UInt8.ofBitVec hHigh

private def swappedBits (value : BitVec 32) : BitVec 32 :=
  (value.setWidth 8).setWidth 32 <<< 24 ||| ((value >>> 8).setWidth 8).setWidth 32 <<< 16 |||
    ((value >>> 16).setWidth 8).setWidth 32 <<< 8 ||| ((value >>> 24).setWidth 8).setWidth 32

private theorem byte_of_swapped32 (value : BitVec 32) :
    (swappedBits value).setWidth 8 = (value >>> 24).setWidth 8 ∧
      (swappedBits value >>> 8).setWidth 8 = (value >>> 16).setWidth 8 ∧
      (swappedBits value >>> 16).setWidth 8 = (value >>> 8).setWidth 8 ∧
      (swappedBits value >>> 24).setWidth 8 = value.setWidth 8 := by
  refine ⟨?_, ?_, ?_, ?_⟩ <;>
    · ext index hIndex
      simp [swappedBits]
      try grind

/-- A swapped word lies in memory as it goes on the wire. -/
theorem memory32_swap32 (value : UInt32) : memory32 (swap32 value) = encode32 value := by
  obtain ⟨hFirst, hSecond, hThird, hFourth⟩ := byte_of_swapped32 value.toBitVec
  have hBytes : (swap32 value).toUInt8 = (value >>> 24).toUInt8 ∧
      (swap32 value >>> 8).toUInt8 = (value >>> 16).toUInt8 ∧
      (swap32 value >>> 16).toUInt8 = (value >>> 8).toUInt8 ∧
      (swap32 value >>> 24).toUInt8 = value.toUInt8 :=
    ⟨congrArg UInt8.ofBitVec hFirst, congrArg UInt8.ofBitVec hSecond,
      congrArg UInt8.ofBitVec hThird, congrArg UInt8.ofBitVec hFourth⟩
  rw [memory32, encode32, hBytes.1, hBytes.2.1, hBytes.2.2.1, hBytes.2.2.2]

/-- Swapping twice changes nothing. -/
@[simp] theorem swap16_swap16 (value : UInt16) : swap16 (swap16 value) = value := by
  rw [← decode16_memory16, memory16_swap16, decode16_encode16]

@[simp] theorem swap32_swap32 (value : UInt32) : swap32 (swap32 value) = value := by
  rw [← decode32_memory32, memory32_swap32, decode32_encode32]

/-- Two words side by side. -/
def join64 (high low : UInt32) : UInt64 := (high.toUInt64 <<< 32) ||| low.toUInt64

/-- Both halves of a joined word can be cut out again. -/
private theorem halves_of_joined (high low : BitVec 32) :
    (high.setWidth 64 <<< 32 ||| low.setWidth 64).setWidth 32 = low ∧
      ((high.setWidth 64 <<< 32 ||| low.setWidth 64) >>> 32).setWidth 32 = high := by
  constructor
  · ext index hIndex
    simp
  · ext index hIndex
    simp
    grind

theorem join64_low (high low : UInt32) : (join64 high low).toUInt32 = low :=
  congrArg UInt32.ofBitVec (halves_of_joined high.toBitVec low.toBitVec).1

theorem join64_high (high low : UInt32) : (join64 high low >>> 32).toUInt32 = high :=
  congrArg UInt32.ofBitVec (halves_of_joined high.toBitVec low.toBitVec).2

theorem join64_halves (value : UInt64) :
    join64 (value >>> 32).toUInt32 value.toUInt32 = value := by
  have hRead := decode64_encode64 value
  have hHigh : (encode64 value).take 4 = encode32 (value >>> 32).toUInt32 := rfl
  have hLow : (encode64 value).drop 4 = encode32 value.toUInt32 := rfl
  rw [decode64, hHigh, hLow, decode32_encode32, decode32_encode32] at hRead
  exact hRead

end Bytes
