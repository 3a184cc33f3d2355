import Mathlib.Algebra.Ring.Nat
import Mathlib.Data.List.Nodup
import Mathlib.Order.Basic

/-! A 64-bit counter that never shows zero: after the largest value it goes on
with one, so a turn has `2 ^ 64 - 1` values. -/
namespace NdsStorage.SkipZero

def next (value : UInt64) : UInt64 := if value + 1 = 0 then 1 else value + 1

/-- The value that follows `count` steps. -/
def after (start : UInt64) : Nat → UInt64
  | 0 => start
  | count + 1 => next (after start count)

theorem next_toNat (value : UInt64) : (next value).toNat = value.toNat % (2 ^ 64 - 1) + 1 := by
  have hSmall := value.toNat_lt
  unfold next
  by_cases hWrap : value + 1 = 0
  · rw [if_pos hWrap]
    have hZero := congrArg UInt64.toNat hWrap
    simp only [UInt64.toNat_add, UInt64.toNat_one, UInt64.toNat_zero] at hZero ⊢
    omega
  · rw [if_neg hWrap]
    have hOpen : (value + 1).toNat ≠ 0 := fun hZero => hWrap (UInt64.toNat_inj.mp hZero)
    simp only [UInt64.toNat_add, UInt64.toNat_one] at hOpen ⊢
    omega

theorem after_add (start : UInt64) (first second : Nat) :
    after start (first + second) = after (after start first) second := by
  induction second with
  | zero => rfl
  | succ second ih => rw [← Nat.add_assoc, after, ih, after]

section Turn

variable {start : UInt64} (hStart : start ≠ 0)

include hStart

theorem after_toNat (count : Nat) :
    (after start count).toNat = (start.toNat - 1 + count) % (2 ^ 64 - 1) + 1 := by
  have hSmall := start.toNat_lt
  have hPositive : start.toNat ≠ 0 := fun hZero => hStart (UInt64.toNat_inj.mp hZero)
  induction count with
  | zero =>
      simp only [after]
      omega
  | succ count ih =>
      rw [after, next_toNat, ih]
      omega

theorem after_ne_zero (count : Nat) : after start count ≠ 0 := by
  intro hZero
  have hNat := after_toNat hStart count
  rw [hZero] at hNat
  simp at hNat

/-- Fewer than a full turn apart, values differ. -/
theorem after_inj {first second : Nat} (hFirst : first < 2 ^ 64 - 1)
    (hSecond : second < 2 ^ 64 - 1) (h : after start first = after start second) :
    first = second := by
  have hNat := congrArg UInt64.toNat h
  rw [after_toNat hStart, after_toNat hStart] at hNat
  omega

/-- The values of less than one round are distinct. -/
theorem after_nodup {count : Nat} (hCount : count < 2 ^ 64 - 1) :
    ((List.range count).map (after start)).Nodup := by
  apply List.Nodup.map_on _ List.nodup_range
  intro first hFirst second hSecond hSame
  rw [List.mem_range] at hFirst hSecond
  exact after_inj hStart (Nat.lt_trans hFirst hCount) (Nat.lt_trans hSecond hCount) hSame

end Turn

end NdsStorage.SkipZero
