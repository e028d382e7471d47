import Mathlib.Order.Interval.Set.Defs
import Mathlib.Data.Set.Basic
import Mathlib.Tactic.Common

/-! Places that are numbered line by line, and runs of places that lie one line apart. -/

namespace Gramado.Library.Raster

def Runs (start pitch length n : ℕ) : Set ℕ :=
  {o | ∃ j < n, start + j * pitch ≤ o ∧ o < start + j * pitch + length}

def Block (pitch x1 x2 y1 y2 : ℕ) : Set ℕ :=
  {o | (x1 ≤ o % pitch ∧ o % pitch < x2) ∧ y1 ≤ o / pitch ∧ o / pitch < y2}

variable {start pitch length n x x1 x2 y y1 y2 : ℕ}

theorem mem_block (hx : x < pitch) :
    y * pitch + x ∈ Block pitch x1 x2 y1 y2 ↔ (x1 ≤ x ∧ x < x2) ∧ y1 ≤ y ∧ y < y2 := by
  have hdiv : (y * pitch + x) / pitch = y := by
    rw [Nat.mul_comm, Nat.mul_add_div (by omega), Nat.div_eq_of_lt hx, Nat.add_zero]
  have hmod : (y * pitch + x) % pitch = x := by
    rw [Nat.mul_comm, Nat.mul_add_mod, Nat.mod_eq_of_lt hx]
  change (x1 ≤ _ % _ ∧ _ % _ < x2) ∧ y1 ≤ _ / _ ∧ _ / _ < y2 ↔ _
  rw [hdiv, hmod]

theorem eq_line_column (o pitch : ℕ) : o = o / pitch * pitch + o % pitch := by
  rw [Nat.mul_comm]
  exact (Nat.div_add_mod o pitch).symm

theorem runs_eq_empty_iff : Runs start pitch length n = ∅ ↔ length = 0 ∨ n = 0 := by
  rw [Set.eq_empty_iff_forall_notMem]
  constructor
  · intro h
    by_contra hsome
    apply h start
    exact ⟨0, by omega, by omega, by omega⟩
  · rintro hnone o ⟨j, hj, hlow, hhigh⟩
    omega

theorem block_eq_empty_iff (hx2 : x2 ≤ pitch) :
    Block pitch x1 x2 y1 y2 = ∅ ↔ x2 ≤ x1 ∨ y2 ≤ y1 := by
  rw [Set.eq_empty_iff_forall_notMem]
  constructor
  · intro h
    by_contra hsome
    exact h _ ((mem_block (y := y1) (x := x1) (by omega)).mpr (by omega))
  · rintro hnone o ⟨hx, hy⟩
    omega

theorem runs_subset {length' n' : ℕ} (hlength : length ≤ length') (hn : n ≤ n') :
    Runs start pitch length n ⊆ Runs start pitch length' n' := by
  rintro o ⟨j, hj, hlow, hhigh⟩
  exact ⟨j, by omega, hlow, by omega⟩

theorem runs_succ (start pitch length n : ℕ) : Runs start pitch length (n + 1) =
    Set.Ico start (start + length) ∪ Runs (start + pitch) pitch length n := by
  ext o
  constructor
  · rintro ⟨_ | j, hj, hlow, hhigh⟩
    · exact .inl ⟨by omega, by omega⟩
    · rw [Nat.add_mul] at hlow hhigh
      exact .inr ⟨j, by omega, by omega, by omega⟩
  · rintro (⟨hlow, hhigh⟩ | ⟨j, hj, hlow, hhigh⟩)
    · exact ⟨0, by omega, by omega, by omega⟩
    · refine ⟨j + 1, by omega, ?_⟩
      rw [Nat.add_mul]
      omega

theorem runs_eq_block (hx : x + length ≤ pitch) :
    Runs (y * pitch + x) pitch length n = Block pitch x (x + length) y (y + n) := by
  ext o
  constructor
  · rintro ⟨j, hj, hlow, hhigh⟩
    have hline : o = (y + j) * pitch + (o - (y + j) * pitch) := by
      rw [Nat.add_mul]
      omega
    rw [hline, mem_block]
    · rw [Nat.add_mul]
      omega
    · rw [Nat.add_mul]
      omega
  · rintro ⟨hcolumn, hline⟩
    refine ⟨o / pitch - y, by omega, ?_⟩
    have ho := eq_line_column o pitch
    have hsplit : o / pitch * pitch = y * pitch + (o / pitch - y) * pitch := by
      rw [← Nat.add_mul]
      congr 1
      omega
    omega

theorem runs_eq_interval (hpitch : pitch ≤ length) :
    Runs start pitch length (n + 1) = Set.Ico start (start + n * pitch + length) := by
  induction n with
  | zero =>
      ext o
      constructor
      · rintro ⟨j, hj, hlow, hhigh⟩
        obtain rfl : j = 0 := by omega
        exact ⟨by omega, by omega⟩
      · rintro ⟨hlow, hhigh⟩
        exact ⟨0, by omega, by omega, by omega⟩
  | succ n ih =>
      have hnext : Runs start pitch length (n + 1 + 1) = Runs start pitch length (n + 1) ∪
          Set.Ico (start + (n + 1) * pitch) (start + (n + 1) * pitch + length) := by
        ext o
        constructor
        · rintro ⟨j, hj, hrun⟩
          rcases Nat.lt_succ_iff_lt_or_eq.mp hj with hj | rfl
          · exact .inl ⟨j, hj, hrun⟩
          · exact .inr hrun
        · rintro (⟨j, hj, hrun⟩ | hrun)
          · exact ⟨j, by omega, hrun⟩
          · exact ⟨n + 1, by omega, hrun⟩
      rw [hnext, ih]
      ext o
      simp only [Set.mem_union, Set.mem_Ico, Nat.add_mul, Nat.one_mul]
      omega

theorem block_full (hpitch : 0 < pitch) :
    Block pitch 0 pitch y1 y2 = Set.Ico (y1 * pitch) (y2 * pitch) := by
  ext o
  rw [Set.mem_Ico, ← Nat.le_div_iff_mul_le hpitch, ← Nat.div_lt_iff_lt_mul hpitch]
  constructor
  · exact fun h => h.2
  · exact fun h => ⟨⟨Nat.zero_le _, Nat.mod_lt o hpitch⟩, h⟩

theorem line_column_unique {c c' l l' : ℕ} (hc : c < pitch) (hc' : c' < pitch)
    (h : l * pitch + c = l' * pitch + c') : l = l' ∧ c = c' := by
  have hmem : l' * pitch + c' ∈ Block pitch c (c + 1) l (l + 1) := by
    rw [← h]
    exact (mem_block hc).mpr (by omega)
  have hsame := (mem_block hc').mp hmem
  omega

theorem runs_eq_block_iff (hx : x < x2) (hx2 : x2 ≤ pitch) (hy : y < y2) (hlength : 0 < length) :
    Runs (y * pitch + x) pitch length (n + 1) = Block pitch x x2 y y2 ↔
      (x + length = x2 ∧ y + (n + 1) = y2) ∨
        (x = 0 ∧ x2 = pitch) ∧ pitch < length ∧ n * pitch + length = (y2 - y) * pitch := by
  constructor
  · intro hsame
    obtain ⟨k, rfl⟩ : ∃ k, y2 = k + 1 := ⟨y2 - 1, by omega⟩
    have hlast : (y + n) * pitch + x + length = k * pitch + x2 := by
      apply Nat.le_antisymm
      · have hmem : (y + n) * pitch + x + length - 1 ∈ Block pitch x x2 y (k + 1) := by
          rw [← hsame]
          refine ⟨n, by omega, ?_⟩
          rw [Nat.add_mul]
          omega
        have ho := eq_line_column ((y + n) * pitch + x + length - 1) pitch
        have hline := Nat.mul_le_mul_right pitch (Nat.lt_succ_iff.mp hmem.2.2)
        have hcolumn := hmem.1.2
        omega
      · have hmem : k * pitch + (x2 - 1) ∈ Runs (y * pitch + x) pitch length (n + 1) := by
          rw [hsame]
          exact (mem_block (by omega)).mpr (by omega)
        obtain ⟨j, hj, _, hhigh⟩ := hmem
        have hrow := Nat.mul_le_mul_right pitch (Nat.lt_succ_iff.mp hj)
        rw [Nat.add_mul]
        omega
    rcases Nat.lt_or_ge pitch (x + length) with hlong | hshort
    · have hnext : (y + 1) * pitch + 0 ∈ Block pitch x x2 y (k + 1) := by
        rw [← hsame]
        refine ⟨0, by omega, ?_⟩
        rw [Nat.add_mul]
        omega
      have hend : y * pitch + (pitch - 1) ∈ Block pitch x x2 y (k + 1) := by
        rw [← hsame]
        exact ⟨0, by omega, by omega⟩
      rw [mem_block (by omega)] at hnext hend
      have hx0 : x = 0 := by omega
      have hx2 : x2 = pitch := by omega
      refine .inr ⟨⟨hx0, hx2⟩, by omega, ?_⟩
      rw [show k + 1 - y = (k - y) + 1 by omega]
      have hk : k * pitch = y * pitch + (k - y) * pitch := by
        rw [← Nat.add_mul]
        congr 1
        omega
      rw [Nat.add_mul] at hlast ⊢
      omega
    · left
      have hunique : y + n = k ∧ x + length - 1 = x2 - 1 := line_column_unique (by omega) (by omega)
          (show (y + n) * pitch + (x + length - 1) = k * pitch + (x2 - 1) by omega)
      omega
  · rintro (⟨rfl, rfl⟩ | ⟨⟨rfl, rfl⟩, hlong, hlines⟩)
    · exact runs_eq_block hx2
    · rw [runs_eq_interval hlong.le, block_full (by omega)]
      congr 1
      rw [Nat.add_zero, Nat.add_assoc, hlines, ← Nat.add_mul]
      congr 1
      omega

end Gramado.Library.Raster
