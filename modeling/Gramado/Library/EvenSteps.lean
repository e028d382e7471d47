import Mathlib.Algebra.Order.Field.Basic
import Mathlib.Tactic.FieldSimp
import Mathlib.Tactic.Linarith
import Mathlib.Tactic.Ring

/-! Moves spread evenly over a number of steps with an integer that holds the error. -/

namespace Gramado.Library.EvenSteps

/-- Of the `d` moves that `m` steps make, the first `k` steps have made `n`, with the error `e`. -/
structure Spread (m d k e n : Int) : Prop where
  balance : k * d + e = n * m + m / 2
  nonneg : 0 ≤ e
  lt : e < m

variable {m d k e n : Int}

theorem spread_start (hm : 0 < m) : Spread m d 0 (m / 2) 0 := by
  refine ⟨by simp, ?_, ?_⟩
  · omega
  · omega

theorem Spread.move (h : Spread m d k e n) (hd : d ≤ m) (he : e - d < 0) :
    Spread m d (k + 1) (e - d + m) (n + 1) := by
  have hbalance := h.balance
  have hnonneg := h.nonneg
  exact ⟨by linarith, by omega, by omega⟩

theorem Spread.stay (h : Spread m d k e n) (hd : 0 ≤ d) (he : 0 ≤ e - d) :
    Spread m d (k + 1) (e - d) n := by
  have hbalance := h.balance
  have hlt := h.lt
  exact ⟨by linarith, he, by omega⟩

theorem Spread.twice (h : Spread m d k e n) :
    -m ≤ 2 * (n * m - k * d) ∧ 2 * (n * m - k * d) < m := by
  obtain ⟨hbalance, hnonneg, hlt⟩ := h
  have hdiff : n * m - k * d = e - m / 2 := by linarith
  rw [hdiff]
  omega

theorem Spread.near (h : Spread m d k e n) :
    -(1 / 2 : ℚ) ≤ n - k * d / m ∧ (n - k * d / m : ℚ) < 1 / 2 := by
  have hm : (0 : ℚ) < m := by
    have hnonneg := h.nonneg
    have hlt := h.lt
    exact_mod_cast Int.lt_of_le_of_lt hnonneg hlt
  obtain ⟨hlow, hhigh⟩ := h.twice
  have hlow' : -(m : ℚ) ≤ 2 * (n * m - k * d) := by exact_mod_cast hlow
  have hhigh' : 2 * (n * m - k * d) < (m : ℚ) := by exact_mod_cast hhigh
  have hdiff : (n - k * d / m : ℚ) = (n * m - k * d) / m := by
    field_simp
  rw [hdiff, le_div_iff₀ hm, div_lt_iff₀ hm]
  constructor
  · linarith
  · linarith

theorem Spread.between (h : Spread m d k e n) (hd : 0 ≤ d) (hk : 0 ≤ k) (hkm : k ≤ m) :
    0 ≤ n ∧ n ≤ d := by
  obtain ⟨hlow, hhigh⟩ := h.twice
  have hm : 0 < m := Int.lt_of_le_of_lt h.nonneg h.lt
  have hkd : 0 ≤ k * d := Int.mul_nonneg hk hd
  have hmd : k * d ≤ m * d := Int.mul_le_mul_of_nonneg_right hkm hd
  constructor
  · by_contra hneg
    nlinarith
  · by_contra hlarge
    nlinarith

theorem Spread.last (h : Spread m d m e n) : n = d := by
  obtain ⟨hlow, hhigh⟩ := h.twice
  have hm : 0 < m := Int.lt_of_le_of_lt h.nonneg h.lt
  rcases Int.lt_trichotomy n d with hlt | heq | hgt
  · nlinarith
  · exact heq
  · nlinarith

end Gramado.Library.EvenSteps
