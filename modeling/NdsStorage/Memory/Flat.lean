import Mathlib.Data.List.GetD
import NdsStorage.Bytes.ByteOrder

/-! Memory as one array of bytes. A store changes its own range and nothing
else, the fields of a record are read back where they were stored, and words
are read least significant byte first. -/
namespace FlatMemory

open Bytes

abbrev Memory := Nat → UInt8

/-- The bytes of a range. -/
def load (memory : Memory) (address count : Nat) : Buffer :=
  (List.range count).map fun index => memory (address + index)

def store (memory : Memory) (address : Nat) (bytes : Buffer) : Memory := fun place =>
  if address ≤ place ∧ place < address + bytes.length then bytes.getD (place - address) 0
  else memory place

/-- The fields of a record, stored one after the other. -/
def storeFields (memory : Memory) (address : Nat) : List Buffer → Memory
  | [] => memory
  | field :: fields => storeFields (store memory address field) (address + field.length) fields

@[simp] theorem load_length (memory : Memory) (address count : Nat) :
    (load memory address count).length = count := by
  simp [load]

section Ranges

/-- Two ranges without a common byte. -/
def Apart (first firstCount second secondCount : Nat) : Prop :=
  first + firstCount ≤ second ∨ second + secondCount ≤ first

/-- Parts of ranges that are apart are apart. -/
theorem Apart.part {first firstCount second secondCount inner innerCount other otherCount : Nat}
    (h : Apart first firstCount second secondCount)
    (hInner : first ≤ inner ∧ inner + innerCount ≤ first + firstCount)
    (hOther : second ≤ other ∧ other + otherCount ≤ second + secondCount) :
    Apart inner innerCount other otherCount := by
  unfold Apart at h ⊢
  omega

/-- Two memories hold the same bytes in a range. -/
def SameOn (address count : Nat) (memory memory' : Memory) : Prop :=
  ∀ place, address ≤ place → place < address + count → memory' place = memory place

variable {memory memory' memory'' : Memory} {address count inner innerCount : Nat} {bytes : Buffer}

theorem SameOn.refl (address count : Nat) (memory : Memory) : SameOn address count memory memory :=
  fun _ _ _ => rfl

/-- Two stores that spare a range spare it together. -/
theorem SameOn.trans (h : SameOn address count memory memory')
    (hNext : SameOn address count memory' memory'') : SameOn address count memory memory'' :=
  fun place hFrom hTo => (hNext place hFrom hTo).trans (h place hFrom hTo)

/-- What is read from a range depends on its bytes only. -/
theorem SameOn.load_eq (h : SameOn address count memory memory')
    (hInner : address ≤ inner ∧ inner + innerCount ≤ address + count) :
    load memory' inner innerCount = load memory inner innerCount := by
  unfold load
  apply List.map_congr_left
  intro index hIndex
  have hInside := List.mem_range.mp hIndex
  exact h _ (by omega) (by omega)

/-- A store spares every range apart from its own. -/
theorem store_sameOn (memory : Memory) (h : Apart inner bytes.length address count) :
    SameOn address count memory (store memory inner bytes) := by
  intro place hFrom hTo
  unfold Apart at h
  unfold store
  rw [if_neg (by omega)]

/-- A record of fields spares what lies apart from it. -/
theorem storeFields_sameOn {fields : List Buffer}
    (h : Apart inner fields.flatten.length address count) :
    SameOn address count memory (storeFields memory inner fields) := by
  induction fields generalizing memory inner with
  | nil => exact SameOn.refl _ _ _
  | cons field rest ih =>
      rw [List.flatten_cons, List.length_append] at h
      unfold Apart at h
      have hField : SameOn address count memory (store memory inner field) :=
        store_sameOn memory (by unfold Apart; omega)
      exact hField.trans (ih (by unfold Apart; omega))

end Ranges

section Reading

variable {memory : Memory} {address : Nat}

theorem load_store_same (memory : Memory) (address : Nat) (bytes : Buffer) :
    load (store memory address bytes) address bytes.length = bytes := by
  apply List.ext_getElem
  · simp
  · intro index hLeft hRight
    simp [load, store, hRight]

/-- A field is read back where it was stored. -/
theorem load_storeFields (before : List Buffer) (field : Buffer) (after : List Buffer) :
    load (storeFields memory address (before ++ field :: after))
      (address + before.flatten.length) field.length = field := by
  induction before generalizing memory address with
  | nil =>
      have hAfter : SameOn address field.length (store memory address field)
          (storeFields (store memory address field) (address + field.length) after) :=
        storeFields_sameOn (.inr (Nat.le_refl _))
      change load (storeFields (store memory address field) _ after) address _ = _
      rw [hAfter.load_eq ⟨Nat.le_refl _, Nat.le_refl _⟩, load_store_same]
  | cons first rest ih =>
      rw [List.flatten_cons, List.length_append, ← Nat.add_assoc]
      exact ih

end Reading

section Words

variable {memory memory' : Memory} {address count place : Nat}

/-- The word whose bytes lie least significant first. -/
def word32 (bytes : Buffer) : UInt32 := swap32 (decode32 bytes)

def word64 (bytes : Buffer) : UInt64 := join64 (word32 (bytes.drop 4)) (word32 (bytes.take 4))

@[simp] theorem word32_memory32 (value : UInt32) : word32 (memory32 value) = value := by
  rw [word32, decode32_memory32, swap32_swap32]

@[simp] theorem word64_memory64 (value : UInt64) : word64 (memory64 value) = value := by
  have hHigh : (memory64 value).drop 4 = memory32 (value >>> 32).toUInt32 := rfl
  have hLow : (memory64 value).take 4 = memory32 value.toUInt32 := rfl
  rw [word64, hHigh, hLow, word32_memory32, word32_memory32, join64_halves]

def load32 (memory : Memory) (address : Nat) : UInt32 := word32 (load memory address 4)

def load64 (memory : Memory) (address : Nat) : UInt64 := word64 (load memory address 8)

def store32 (memory : Memory) (address : Nat) (value : UInt32) : Memory :=
  store memory address (memory32 value)

def store64 (memory : Memory) (address : Nat) (value : UInt64) : Memory :=
  store memory address (memory64 value)

theorem SameOn.load32_eq (h : SameOn address count memory memory')
    (hPlace : address ≤ place ∧ place + 4 ≤ address + count) :
    load32 memory' place = load32 memory place := by
  rw [load32, h.load_eq hPlace, load32]

theorem SameOn.load64_eq (h : SameOn address count memory memory')
    (hPlace : address ≤ place ∧ place + 8 ≤ address + count) :
    load64 memory' place = load64 memory place := by
  rw [load64, h.load_eq hPlace, load64]

theorem store32_sameOn (memory : Memory) (value : UInt32) (h : Apart place 4 address count) :
    SameOn address count memory (store32 memory place value) :=
  store_sameOn memory h

theorem store64_sameOn (memory : Memory) (value : UInt64) (h : Apart place 8 address count) :
    SameOn address count memory (store64 memory place value) :=
  store_sameOn memory h

@[simp] theorem load32_store32 (memory : Memory) (address : Nat) (value : UInt32) :
    load32 (store32 memory address value) address = value := by
  have hSame := load_store_same memory address (memory32 value)
  rw [memory32_length] at hSame
  rw [load32, store32, hSame, word32_memory32]

@[simp] theorem load64_store64 (memory : Memory) (address : Nat) (value : UInt64) :
    load64 (store64 memory address value) address = value := by
  have hSame := load_store_same memory address (memory64 value)
  rw [memory64_length] at hSame
  rw [load64, store64, hSame, word64_memory64]

/-- A word field is loaded from its place in the record. -/
theorem load32_storeFields {fields : List Buffer} (before : List Buffer) (value : UInt32)
    (after : List Buffer) (hFields : fields = before ++ memory32 value :: after)
    (hPlace : place = address + before.flatten.length) :
    load32 (storeFields memory address fields) place = value := by
  subst hFields
  have hField := @load_storeFields memory address before (memory32 value) after
  rw [memory32_length, ← hPlace] at hField
  rw [load32, hField, word32_memory32]

/-- A long field is loaded from its place in the record. -/
theorem load64_storeFields {fields : List Buffer} (before : List Buffer) (value : UInt64)
    (after : List Buffer) (hFields : fields = before ++ memory64 value :: after)
    (hPlace : place = address + before.flatten.length) :
    load64 (storeFields memory address fields) place = value := by
  subst hFields
  have hField := @load_storeFields memory address before (memory64 value) after
  rw [memory64_length, ← hPlace] at hField
  rw [load64, hField, word64_memory64]

end Words

end FlatMemory
