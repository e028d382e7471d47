import Mathlib.Tactic.Common

/-! Reversing a part of an array in place: two places swap what they hold and move towards each
other until they meet. -/

namespace Gramado.Library.Reversal

variable {α : Type*}

def swap (a : Nat → α) (low high : Nat) : Nat → α :=
  Function.update (Function.update a low (a high)) high (a low)

def swapEnds : Nat → Nat → Nat → (Nat → α) → Nat → α
  | 0, _, _, a => a
  | fuel + 1, low, high, a =>
      if low < high then swapEnds fuel (low + 1) (high - 1) (swap a low high) else a

variable {low high : Nat}

theorem swap_low (a : Nat → α) (h : low < high) : swap a low high low = a high := by
  rw [swap, Function.update_of_ne (by omega), Function.update_self]

theorem swap_high (a : Nat → α) (low high : Nat) : swap a low high high = a low :=
  Function.update_self ..

theorem swap_of_ne (a : Nat → α) {i : Nat} (hlow : i ≠ low) (hhigh : i ≠ high) :
    swap a low high i = a i := by
  rw [swap, Function.update_of_ne hhigh, Function.update_of_ne hlow]

theorem swapEnds_apply {fuel : Nat} (a : Nat → α) (i : Nat) (h : high ≤ low + fuel) :
    swapEnds fuel low high a i = if low ≤ i ∧ i ≤ high then a (low + high - i) else a i := by
  induction fuel generalizing low high a with
  | zero =>
      rw [swapEnds]
      split
      · congr 1
        omega
      · rfl
  | succ fuel ih =>
      rw [swapEnds]
      by_cases hlt : low < high
      · rw [if_pos hlt, ih _ (by omega)]
        by_cases hinner : low + 1 ≤ i ∧ i ≤ high - 1
        · rw [if_pos hinner, if_pos (by omega), swap_of_ne a (by omega) (by omega)]
          congr 1
          omega
        rw [if_neg hinner]
        by_cases hends : low ≤ i ∧ i ≤ high
        · rw [if_pos hends]
          rcases (by omega : i = low ∨ i = high) with rfl | rfl
          · rw [swap_low a hlt, Nat.add_sub_cancel_left]
          · rw [swap_high, Nat.add_sub_cancel]
        · rw [if_neg hends, swap_of_ne a (by omega) (by omega)]
      · rw [if_neg hlt]
        split
        · congr 1
          omega
        · rfl

end Gramado.Library.Reversal
