import Mathlib.Algebra.BigOperators.Group.List.Basic
import Mathlib.Tactic.Ring

/-! Sums with an end-around carry: `m` is the word of ones only. -/

namespace Gramado.Library.OnesComplement

def add (m a b : Nat) : Nat :=
  if a + b ≤ m then a + b else a + b - m

def sum (m : Nat) (words : List Nat) : Nat :=
  words.foldr (add m) 0

variable {m : Nat}

variable {a b : Nat} {words : List Nat}

theorem add_le (ha : a ≤ m) (hb : b ≤ m) : add m a b ≤ m := by
  rw [add]
  split <;> omega

theorem add_mod (a b : Nat) : add m a b % m = (a + b) % m := by
  rw [add]
  split
  · rfl
  · rename_i h
    have hcarry : a + b = a + b - m + m := by omega
    rw [hcarry, Nat.add_mod_right, ← hcarry]

theorem add_pos (h : 0 < a + b) : 0 < add m a b := by
  rw [add]
  split <;> omega

theorem sum_le (h : ∀ w ∈ words, w ≤ m) : sum m words ≤ m := by
  induction words with
  | nil => exact Nat.zero_le m
  | cons w words ih =>
      exact add_le (h w List.mem_cons_self) (ih fun v hv => h v (List.mem_cons_of_mem w hv))

theorem sum_mod (words : List Nat) : sum m words % m = words.sum % m := by
  induction words with
  | nil => rfl
  | cons w words ih =>
      change add m w (sum m words) % m = _
      rw [add_mod, List.sum_cons, Nat.add_mod, ih, ← Nat.add_mod]

theorem sum_pos (h : 0 < words.sum) : 0 < sum m words := by
  induction words with
  | nil => exact h
  | cons w words ih =>
      rw [List.sum_cons] at h
      change 0 < add m w (sum m words)
      apply add_pos
      rcases Nat.eq_zero_or_pos words.sum with hzero | hpos
      · omega
      · have hrest := ih hpos
        omega

theorem sum_eq_ones (h : ∀ w ∈ words, w ≤ m) (hpos : 0 < words.sum) (hdvd : words.sum % m = 0) :
    sum m words = m := by
  have hle := sum_le h
  have hpos' : 0 < sum m words := sum_pos hpos
  have hmod : sum m words % m = 0 := by rw [sum_mod, hdvd]
  obtain ⟨k, hk⟩ := Nat.dvd_of_mod_eq_zero hmod
  rcases k with _ | _ | k
  · omega
  · omega
  · rw [hk] at hle hpos'
    rcases Nat.eq_zero_or_pos m with hzero | hm
    · rw [hzero] at hpos'
      omega
    · have : m * (k + 1 + 1) = m * k + 2 * m := by ring
      omega

theorem sum_eq_zero_iff : sum m words = 0 ↔ words.sum = 0 := by
  constructor
  · intro hsum
    by_contra hne
    have := sum_pos (m := m) (Nat.pos_of_ne_zero hne)
    omega
  · intro hsum
    induction words with
    | nil => rfl
    | cons w words ih =>
        rw [List.sum_cons] at hsum
        change add m w (sum m words) = 0
        rw [ih (by omega), add]
        split <;> omega

theorem eq_of_mod_eq (ha : a ≤ m) (hb : b ≤ m) (hmod : a % m = b % m) (hzero : a = 0 ↔ b = 0) :
    a = b := by
  rcases Nat.lt_or_ge a m with ha' | ha'
  · rcases Nat.lt_or_ge b m with hb' | hb'
    · rwa [Nat.mod_eq_of_lt ha', Nat.mod_eq_of_lt hb'] at hmod
    · obtain rfl : b = m := by omega
      rw [Nat.mod_self, Nat.mod_eq_of_lt ha'] at hmod
      omega
  · obtain rfl : a = m := by omega
    rcases Nat.lt_or_ge b a with hb' | hb'
    · rw [Nat.mod_self, Nat.mod_eq_of_lt hb'] at hmod
      omega
    · omega

end Gramado.Library.OnesComplement
