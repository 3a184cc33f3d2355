import Mathlib.Data.List.Basic
import Mathlib.Logic.Function.Basic
import Mathlib.Algebra.Group.Nat.Defs

/-! Rings whose entries carry a phase bit. The writer fills the slots in order
and turns the bit over on every pass, so that a reader who counts its entries
can tell a new one from one of the pass before. -/
namespace PhaseRing

/-- The bit of the entry at a position: it is set on even passes. -/
def passPhase (size position : Nat) : Bool := position / size % 2 = 0

/-- The slots hold the latest entry of each residue, and no slot of the first
pass has its bit set before it is written. -/
structure Phased {Item : Type} (size : Nat) (phase : Item → Bool) (written : List Item)
    (slots : Nat → Item) : Prop where
  phase_eq : ∀ position item, written[position]? = some item →
    phase item = passPhase size position
  latest : ∀ position item, written[position]? = some item →
    written.length ≤ position + size → slots (position % size) = item
  blank : ∀ slot, written.length ≤ slot → slot < size → phase (slots slot) = false

namespace Phased

variable {Item : Type} {size position : Nat} {phase : Item → Bool} {written : List Item}
  {slots : Nat → Item} {item : Item}

/-- A ring without a set phase bit holds nothing. -/
theorem empty (h : ∀ slot, phase (slots slot) = false) : Phased size phase [] slots where
  phase_eq := by
    intro position item hItem
    cases hItem
  latest := by
    intro position item hItem
    cases hItem
  blank := fun slot _ _ => h slot

/-- Positions less than a round apart have different slots. -/
theorem slot_ne (hOrder : position < written.length) (hTurn : written.length < position + size) :
    position % size ≠ written.length % size := by
  intro hSame
  have hZero := Nat.sub_mod_eq_zero_of_mod_eq hSame.symm
  rw [Nat.mod_eq_of_lt (by omega)] at hZero
  omega

/-- The next item goes behind those written so far. -/
theorem write (h : Phased size phase written slots)
    (hPhase : phase item = passPhase size written.length) :
    Phased size phase (written ++ [item])
      (Function.update slots (written.length % size) item) where
  phase_eq := by
    intro position other hOther
    rcases Nat.lt_trichotomy position written.length with hEarlier | rfl | hLater
    · rw [List.getElem?_append_left hEarlier] at hOther
      exact h.phase_eq position other hOther
    · rw [List.getElem?_concat_length] at hOther
      cases hOther
      exact hPhase
    · rw [List.getElem?_eq_none (by simp; omega)] at hOther
      cases hOther
  latest := by
    intro position other hOther hTurn
    rw [List.length_append, List.length_singleton] at hTurn
    rcases Nat.lt_trichotomy position written.length with hEarlier | rfl | hLater
    · rw [List.getElem?_append_left hEarlier] at hOther
      rw [Function.update_of_ne (slot_ne hEarlier (by omega))]
      exact h.latest position other hOther (by omega)
    · rw [List.getElem?_concat_length] at hOther
      cases hOther
      exact Function.update_self ..
    · rw [List.getElem?_eq_none (by simp; omega)] at hOther
      cases hOther
  blank := by
    intro slot hUnwritten hSlot
    rw [List.length_append, List.length_singleton] at hUnwritten
    have hOther : slot ≠ written.length % size := by
      rw [Nat.mod_eq_of_lt (by omega)]
      omega
    rw [Function.update_of_ne hOther]
    exact h.blank slot (by omega) hSlot

/-- An entry that has been written and not passed over is found with its bit. -/
theorem fresh (h : Phased size phase written slots) (hItem : written[position]? = some item)
    (hTurn : written.length ≤ position + size) :
    slots (position % size) = item ∧ phase (slots (position % size)) = passPhase size position := by
  have hSlot := h.latest position item hItem hTurn
  refine ⟨hSlot, ?_⟩
  rw [hSlot]
  exact h.phase_eq position item hItem

/-- The slot of the next entry still shows the opposite bit. -/
theorem stale (h : Phased size phase written slots) (hSize : 0 < size) :
    phase (slots (written.length % size)) = !passPhase size written.length := by
  by_cases hFirst : written.length < size
  · rw [Nat.mod_eq_of_lt hFirst, h.blank _ (Nat.le_refl _) hFirst, passPhase,
      Nat.div_eq_of_lt hFirst]
    rfl
  · obtain ⟨earlier, hEarlier⟩ := Nat.exists_eq_add_of_le (Nat.le_of_not_lt hFirst)
    have hInside : earlier < written.length := by omega
    have hPhase := h.fresh (List.getElem?_eq_getElem hInside) (by omega)
    rw [hEarlier, Nat.add_mod_left, hPhase.2, passPhase, passPhase, Nat.add_div_left _ hSize]
    rcases Nat.mod_two_eq_zero_or_one (earlier / size) with hEven | hOdd
    · have hNext : (earlier / size + 1) % 2 = 1 := by omega
      simp [hEven, hNext]
    · have hNext : (earlier / size + 1) % 2 = 0 := by omega
      simp [hOdd, hNext]

end Phased

end PhaseRing
