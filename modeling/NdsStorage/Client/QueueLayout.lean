import NdsStorage.Client.QueueMemory

/-! Where the parts of a queue pair lie in device memory, and what device code
and hardware find in an entry that the other one has stored. -/
namespace NdsStorage.Client

open Bytes FlatMemory PhaseRing

section Entries

variable {memory memory' : Memory} {address count place : Nat}

theorem sqFields_length (wr : SendWr) : (sqFields wr).flatten.length = kHnsRoceSqWqeBytes := by
  simp [sqFields, sgeFields, kHnsRoceSqWqeBytes]

theorem sgeFields_length (sge : Sge) : (sgeFields sge).flatten.length = kHnsRoceSgeBytes := by
  simp [sgeFields, kHnsRoceSgeBytes]

theorem cqeFields_length (cqe : HnsHwCqe) : (cqeFields cqe).flatten.length = 32 := by
  simp [cqeFields]

/-- A receive entry can be read back from where it was stored. -/
theorem loadSge_storeFields {fields : List Buffer} (memory : Memory) (before : List Buffer)
    (sge : Sge) (hFields : fields = before ++ sgeFields sge)
    (hPlace : place = address + before.flatten.length) :
    loadSge (storeFields memory address fields) place = sge := by
  have hLength : load32 (storeFields memory address fields) place = sge.length :=
    load32_storeFields before sge.length [memory32 sge.localKey, memory64 sge.address] hFields
      hPlace
  have hKey : load32 (storeFields memory address fields) (place + 4) = sge.localKey :=
    load32_storeFields (before ++ [memory32 sge.length]) sge.localKey [memory64 sge.address]
      (by simpa [sgeFields] using hFields) (by simp [hPlace, Nat.add_assoc])
  have hAddress : load64 (storeFields memory address fields) (place + 8) = sge.address :=
    load64_storeFields (before ++ [memory32 sge.length, memory32 sge.localKey]) sge.address []
      (by simpa [sgeFields] using hFields) (by simp [hPlace, Nat.add_assoc])
  rw [loadSge, hLength, hKey, hAddress]

theorem loadCqe_storeFields (memory : Memory) (address : Nat) (cqe : HnsHwCqe) :
    loadCqe (storeFields memory address (cqeFields cqe)) address = cqe := by
  have hFirst := @load32_storeFields memory address address (cqeFields cqe) [] cqe.byte4 _ rfl rfl
  have hSecond := @load32_storeFields memory address (address + 4) (cqeFields cqe)
    [memory32 cqe.byte4] cqe.immediateData _ rfl rfl
  have hThird := @load32_storeFields memory address (address + 8) (cqeFields cqe)
    [memory32 cqe.byte4, memory32 cqe.immediateData] cqe.byte12 _ rfl rfl
  have hFourth := @load32_storeFields memory address (address + 12) (cqeFields cqe)
    [memory32 cqe.byte4, memory32 cqe.immediateData, memory32 cqe.byte12] cqe.byte16 _ rfl rfl
  have hFifth := @load32_storeFields memory address (address + 16) (cqeFields cqe)
    [memory32 cqe.byte4, memory32 cqe.immediateData, memory32 cqe.byte12, memory32 cqe.byte16]
    cqe.byteCount _ rfl rfl
  rw [loadCqe, hFirst, hSecond, hThird, hFourth, hFifth]

/-- A receive entry depends on its own bytes only. -/
theorem loadSge_same (h : SameOn address kHnsRoceSgeBytes memory memory') :
    loadSge memory' address = loadSge memory address := by
  change SameOn address 16 memory memory' at h
  rw [loadSge, h.load32_eq ⟨by omega, by omega⟩, h.load32_eq ⟨by omega, by omega⟩,
    h.load64_eq ⟨by omega, by omega⟩, loadSge]

theorem loadSendWqe_same (h : SameOn address kHnsRoceSqWqeBytes memory memory') :
    loadSendWqe memory' address = loadSendWqe memory address := by
  change SameOn address 48 memory memory' at h
  have hSge : SameOn (address + 32) kHnsRoceSgeBytes memory memory' := fun place hFrom hTo =>
    h place (by omega) (by
      change place < address + 32 + 16 at hTo
      omega)
  rw [loadSendWqe, h.load32_eq ⟨by omega, by omega⟩, h.load32_eq ⟨by omega, by omega⟩,
    h.load32_eq ⟨by omega, by omega⟩, h.load64_eq ⟨by omega, by omega⟩, loadSge_same hSge,
    loadSendWqe]

theorem loadCqe_same (h : SameOn address 32 memory memory') :
    loadCqe memory' address = loadCqe memory address := by
  rw [loadCqe, h.load32_eq ⟨by omega, by omega⟩, h.load32_eq ⟨by omega, by omega⟩,
    h.load32_eq ⟨by omega, by omega⟩, h.load32_eq ⟨by omega, by omega⟩,
    h.load32_eq ⟨by omega, by omega⟩, loadCqe]

theorem bit_zero_or_one (value : UInt32) : value &&& 1 = 0 ∨ value &&& 1 = 1 := by
  rw [← UInt32.toNat_inj, ← UInt32.toNat_inj, UInt32.toNat_and]
  change value.toNat &&& 1 = 0 ∨ value.toNat &&& 1 = 1
  rw [Nat.and_one_is_mod]
  exact Nat.mod_two_eq_zero_or_one _

/-- The owner bit is the lap of the producer, inverted. -/
theorem sqOwner_eq (producer : UInt32) :
    sqOwner producer = if (producer >>> 15) &&& 1 = 0 then 0x80 else 0 := by
  unfold sqOwner
  rcases bit_zero_or_one (producer >>> 15) with hZero | hOne
  · rw [hZero]
    decide
  · rw [hOne]
    decide

/-- Opcode, signal and owner do not overlap in the first word. -/
theorem firstWord_parts (signaled owner : Prop) [Decidable signaled] [Decidable owner]
    {opcode : UInt32} (h : opcode = 0 ∨ opcode = 3 ∨ opcode = 5) :
    ((opcode ||| (if signaled then kHnsHwSqSignaled else 0)) ||| (if owner then 0x80 else 0)) &&&
        0x1f = opcode ∧
      (((opcode ||| (if signaled then kHnsHwSqSignaled else 0)) ||| (if owner then 0x80 else 0)) &&&
        kHnsHwSqSignaled ≠ 0 ↔ signaled) ∧
      (((opcode ||| (if signaled then kHnsHwSqSignaled else 0)) ||| (if owner then 0x80 else 0)) &&&
        0x80 ≠ 0 ↔ owner) := by
  by_cases hSignaled : signaled
  · by_cases hOwner : owner
    · simp only [hSignaled, hOwner]
      rcases h with rfl | rfl | rfl <;> decide
    · simp only [hSignaled, hOwner]
      rcases h with rfl | rfl | rfl <;> decide
  · by_cases hOwner : owner
    · simp only [hSignaled, hOwner]
      rcases h with rfl | rfl | rfl <;> decide
    · simp only [hSignaled, hOwner]
      rcases h with rfl | rfl | rfl <;> decide

/-- The opcodes that a valid request is given. -/
theorem hnsHwSqOpcode_cases {wr : SendWr} (h : aivValidSendWr wr = true) :
    hnsHwSqOpcode wr.opcode = 0 ∨ hnsHwSqOpcode wr.opcode = 3 ∨ hnsHwSqOpcode wr.opcode = 5 := by
  simp only [aivValidSendWr, Bool.or_eq_true, decide_eq_true_eq] at h
  rcases h with (hSend | hRead) | hWrite
  · rw [hSend]
    decide
  · rw [hRead]
    decide
  · rw [hWrite]
    decide

/-- What the hardware reads from an entry whose word carries its owner bit. -/
theorem loadSendWqe_owned (producer : UInt32) {wr : SendWr} (h : aivValidSendWr wr = true)
    (hStored : SameOn (address + 4) 44 (storeFields memory address (sqFields wr)) memory')
    (hWord : load32 memory' address = sqWord wr ||| sqOwner producer) :
    loadSendWqe memory' address = sendWqe producer wr := by
  obtain ⟨hOpcode, hSignaled, hOwner⟩ := firstWord_parts (wr.flags &&& kSendSignaled ≠ 0)
    ((producer >>> 15) &&& 1 = 0) (hnsHwSqOpcode_cases h)
  have hLength : load32 memory' (address + 4) = wr.localBuffer.length := by
    rw [hStored.load32_eq ⟨by omega, by omega⟩]
    exact load32_storeFields [memory32 (sqWord wr)] _ _ rfl rfl
  have hKey : load32 memory' (address + 20) =
      if wr.opcode = kWrSend then 0 else wr.remoteKey := by
    rw [hStored.load32_eq ⟨by omega, by omega⟩]
    exact load32_storeFields [memory32 (sqWord wr), memory32 wr.localBuffer.length, memory32 0,
      memory32 ((1 : UInt32) <<< 24), memory32 0] _ _ rfl rfl
  have hAddress : load64 memory' (address + 24) =
      if wr.opcode = kWrSend then 0 else wr.remoteAddress := by
    rw [hStored.load64_eq ⟨by omega, by omega⟩]
    exact load64_storeFields [memory32 (sqWord wr), memory32 wr.localBuffer.length, memory32 0,
      memory32 ((1 : UInt32) <<< 24), memory32 0,
      memory32 (if wr.opcode = kWrSend then 0 else wr.remoteKey)] _ _ rfl rfl
  have hLocal : loadSge memory' (address + 32) = wr.localBuffer := by
    have hField : loadSge (storeFields memory address (sqFields wr)) (address + 32) =
        wr.localBuffer :=
      loadSge_storeFields memory [memory32 (sqWord wr), memory32 wr.localBuffer.length,
        memory32 0, memory32 ((1 : UInt32) <<< 24), memory32 0,
        memory32 (if wr.opcode = kWrSend then 0 else wr.remoteKey),
        memory64 (if wr.opcode = kWrSend then 0 else wr.remoteAddress)] _ rfl rfl
    rw [loadSge] at hField ⊢
    rw [hStored.load32_eq ⟨by omega, by omega⟩, hStored.load32_eq ⟨by omega, by omega⟩,
      hStored.load64_eq ⟨by omega, by omega⟩]
    exact hField
  rw [loadSendWqe, sendWqe, hWord, hLength, hKey, hAddress, hLocal, sqWord, sqOwner_eq, hOpcode]
  simp only [hSignaled, hOwner]

end Entries

section Layout

/-- The parts of one side of a queue pair. -/
inductive QueuePart where
  | ring
  | ids
  | head
  | tail
  | doorbell
  | cqes
  | consumer
  | cqDoorbell
deriving DecidableEq, Repr

/-- The bytes that are used of a work entry. -/
def entryBytes (sendCq : Bool) : Nat := if sendCq then kHnsRoceSqWqeBytes else kHnsRoceSgeBytes

namespace DeviceQp

def start (qp : DeviceQp) (sendCq : Bool) : QueuePart → Nat
  | .ring => (qp.descriptor.queue sendCq).bufferAddress.toNat
  | .ids => (qp.descriptor.queue sendCq).wrIdAddress.toNat
  | .head => (qp.descriptor.queue sendCq).headAddress.toNat
  | .tail => (qp.descriptor.queue sendCq).tailAddress.toNat
  | .doorbell => (qp.descriptor.queue sendCq).doorbellAddress.toNat
  | .cqes => (qp.descriptor.cq sendCq).bufferAddress.toNat
  | .consumer => (qp.descriptor.cq sendCq).consumerAddress.toNat
  | .cqDoorbell => (qp.descriptor.cq sendCq).doorbellAddress.toNat

def size (qp : DeviceQp) (sendCq : Bool) : QueuePart → Nat
  | .ring => (qp.descriptor.queue sendCq).entrySize.toNat * (qp.descriptor.queue sendCq).depth.toNat
  | .ids => 8 * (qp.descriptor.queue sendCq).depth.toNat
  | .doorbell => if sendCq then 8 else 4
  | .cqes => (qp.descriptor.cq sendCq).entrySize.toNat * (qp.descriptor.cq sendCq).depth.toNat
  | _ => 4

/-- The parts do not overlap, end within the address space, and have entries
that are long enough. -/
structure Laid (qp : DeviceQp) : Prop where
  entries : ∀ sendCq, entryBytes sendCq ≤ (qp.descriptor.queue sendCq).entrySize.toNat
  reports : ∀ sendCq, kHnsHwCqeBytes.toNat ≤ (qp.descriptor.cq sendCq).entrySize.toNat
  inside : ∀ sendCq part, qp.start sendCq part + qp.size sendCq part ≤ 2 ^ 64
  apart : ∀ sendCq part sendCq' part', (sendCq, part) ≠ (sendCq', part') →
    Apart (qp.start sendCq part) (qp.size sendCq part) (qp.start sendCq' part')
      (qp.size sendCq' part')

/-- Only bytes of the given parts have changed. -/
def Keeps (qp : DeviceQp) (touched : List (Bool × QueuePart)) (memory memory' : Memory) : Prop :=
  ∀ address count,
    (∀ sendCq part, (sendCq, part) ∈ touched →
      Apart (qp.start sendCq part) (qp.size sendCq part) address count) →
    SameOn address count memory memory'

variable {qp : DeviceQp} {touched wider : List (Bool × QueuePart)}
  {memory memory' memory'' : Memory} {sendCq : Bool} {part : QueuePart} {address : Nat}

namespace Keeps

theorem refl (qp : DeviceQp) (touched : List (Bool × QueuePart)) (memory : Memory) :
    qp.Keeps touched memory memory :=
  fun _ _ _ => SameOn.refl _ _ _

theorem trans (h : qp.Keeps touched memory memory') (hNext : qp.Keeps touched memory' memory'') :
    qp.Keeps touched memory memory'' :=
  fun address count hApart => (h address count hApart).trans (hNext address count hApart)

theorem widen (h : qp.Keeps touched memory memory') (hWider : touched ⊆ wider) :
    qp.Keeps wider memory memory' :=
  fun address count hApart => h address count fun sendCq part hTouched =>
    hApart sendCq part (hWider hTouched)

/-- A part that is not touched keeps its bytes. -/
theorem other (h : qp.Keeps touched memory memory') (hLaid : qp.Laid)
    (hPart : (sendCq, part) ∉ touched) :
    SameOn (qp.start sendCq part) (qp.size sendCq part) memory memory' :=
  h _ _ fun sendCq' part' hTouched => hLaid.apart sendCq' part' sendCq part
    fun hSame => hPart (hSame ▸ hTouched)

/-- A store within a part touches that part only. -/
theorem storeFields (sendCq : Bool) (part : QueuePart) {fields : List Buffer} (memory : Memory)
    (hTouched : (sendCq, part) ∈ touched)
    (hInner : qp.start sendCq part ≤ address ∧
      address + fields.flatten.length ≤ qp.start sendCq part + qp.size sendCq part) :
    qp.Keeps touched memory (storeFields memory address fields) :=
  fun _ _ hApart => storeFields_sameOn
    ((hApart sendCq part hTouched).part hInner ⟨Nat.le_refl _, Nat.le_refl _⟩)

theorem store32 (sendCq : Bool) (part : QueuePart) (memory : Memory) (value : UInt32)
    (hTouched : (sendCq, part) ∈ touched)
    (hInner : qp.start sendCq part ≤ address ∧
      address + 4 ≤ qp.start sendCq part + qp.size sendCq part) :
    qp.Keeps touched memory (store32 memory address value) :=
  fun _ _ hApart => store32_sameOn memory value
    ((hApart sendCq part hTouched).part hInner ⟨Nat.le_refl _, Nat.le_refl _⟩)

theorem store64 (sendCq : Bool) (part : QueuePart) (memory : Memory) (value : UInt64)
    (hTouched : (sendCq, part) ∈ touched)
    (hInner : qp.start sendCq part ≤ address ∧
      address + 8 ≤ qp.start sendCq part + qp.size sendCq part) :
    qp.Keeps touched memory (store64 memory address value) :=
  fun _ _ hApart => store64_sameOn memory value
    ((hApart sendCq part hTouched).part hInner ⟨Nat.le_refl _, Nat.le_refl _⟩)

end Keeps

end DeviceQp

end Layout

section Slots

variable {qp : DeviceQp} {sendCq : Bool} {base size bytes otherBytes slot other depth : Nat}

theorem slot_inside (hSlot : slot < depth) (hBytes : bytes ≤ size) :
    base ≤ base + size * slot ∧ base + size * slot + bytes ≤ base + size * depth := by
  have hNext : size * slot + size ≤ size * depth := by
    rw [← Nat.mul_succ]
    exact Nat.mul_le_mul_left _ hSlot
  omega

theorem slot_apart (hNe : slot ≠ other) (hBytes : bytes ≤ size) (hOther : otherBytes ≤ size) :
    Apart (base + size * slot) bytes (base + size * other) otherBytes := by
  unfold Apart
  rcases Nat.lt_or_gt_of_ne hNe with hLess | hMore
  · have hNext : size * slot + size ≤ size * other := by
      rw [← Nat.mul_succ]
      exact Nat.mul_le_mul_left _ hLess
    omega
  · have hNext : size * other + size ≤ size * slot := by
      rw [← Nat.mul_succ]
      exact Nat.mul_le_mul_left _ hMore
    omega

/-- The address of a slot does not wrap. -/
theorem slotAddress_eq (address : UInt64) (size index : UInt32)
    (h : address.toNat + size.toNat * index.toNat < 2 ^ 64) :
    (address + size.toUInt64 * index.toUInt64).toNat =
      address.toNat + size.toNat * index.toNat := by
  rw [UInt64.toNat_add, UInt64.toNat_mul, UInt32.toNat_toUInt64, UInt32.toNat_toUInt64,
    Nat.add_mod_mod, Nat.mod_eq_of_lt h]

theorem ringIndex_lt {depth : UInt32} (producer : UInt32) (hDepth : 0 < depth.toNat) :
    ringIndex producer depth < depth.toNat := by
  rw [ringIndex, UInt32.toNat_mod]
  exact Nat.mod_lt _ hDepth

theorem DeviceQp.Laid.entryAddress_eq (hLaid : qp.Laid) (producer : UInt32)
    (hDepth : 0 < (qp.descriptor.queue sendCq).depth.toNat) :
    ((qp.descriptor.queue sendCq).entryAddress producer).toNat =
      qp.start sendCq .ring + (qp.descriptor.queue sendCq).entrySize.toNat *
        ringIndex producer (qp.descriptor.queue sendCq).depth := by
  have hInside := hLaid.inside sendCq .ring
  have hSlot := ringIndex_lt producer hDepth
  have hEntry := hLaid.entries sendCq
  have hPositive : 0 < entryBytes sendCq := by
    cases sendCq <;> decide
  have hWithin := @slot_inside (qp.start sendCq .ring)
    (qp.descriptor.queue sendCq).entrySize.toNat (entryBytes sendCq) _ _ hSlot hEntry
  exact slotAddress_eq _ _ _ (by
    change qp.start sendCq .ring + _ * ringIndex producer _ < _
    change qp.start sendCq .ring + (qp.descriptor.queue sendCq).entrySize.toNat *
      (qp.descriptor.queue sendCq).depth.toNat ≤ _ at hInside
    omega)

theorem DeviceQp.Laid.idAddress_eq (hLaid : qp.Laid) (producer : UInt32)
    (hDepth : 0 < (qp.descriptor.queue sendCq).depth.toNat) :
    ((qp.descriptor.queue sendCq).idAddress producer).toNat =
      qp.start sendCq .ids + 8 * ringIndex producer (qp.descriptor.queue sendCq).depth := by
  have hInside := hLaid.inside sendCq .ids
  have hSlot := ringIndex_lt producer hDepth
  exact slotAddress_eq _ 8 _ (by
    change qp.start sendCq .ids + 8 * ringIndex producer _ < _
    change qp.start sendCq .ids + 8 * (qp.descriptor.queue sendCq).depth.toNat ≤ _ at hInside
    omega)

theorem DeviceQp.Laid.cqeAddress_eq (hLaid : qp.Laid) (consumer : UInt32)
    (hDepth : 0 < (qp.descriptor.cq sendCq).depth.toNat) :
    ((qp.descriptor.cq sendCq).entryAddress consumer).toNat =
      qp.start sendCq .cqes + (qp.descriptor.cq sendCq).entrySize.toNat *
        ringIndex consumer (qp.descriptor.cq sendCq).depth := by
  have hInside := hLaid.inside sendCq .cqes
  have hSlot := ringIndex_lt consumer hDepth
  have hEntry : 32 ≤ (qp.descriptor.cq sendCq).entrySize.toNat := hLaid.reports sendCq
  have hWithin := @slot_inside (qp.start sendCq .cqes)
    (qp.descriptor.cq sendCq).entrySize.toNat 32 _ _ hSlot hEntry
  exact slotAddress_eq _ _ _ (by
    change qp.start sendCq .cqes + _ * ringIndex consumer _ < _
    change qp.start sendCq .cqes + (qp.descriptor.cq sendCq).entrySize.toNat *
      (qp.descriptor.cq sendCq).depth.toNat ≤ _ at hInside
    omega)

end Slots

end NdsStorage.Client
