import Mathlib.Combinatorics.Pigeonhole

/-! The values that a function leads to, one after the other. -/

namespace Gramado.Library.Orbit

variable {α β : Type*} {f : α → α} {a : α}

variable {P : α → Prop}

theorem iterate_of_repeat {i j n : Nat} (h : f^[i] a = f^[j] a) (hj : j ≤ n) :
    f^[n - j + i] a = f^[n] a := by
  calc
    f^[n - j + i] a = f^[n - j] (f^[i] a) := Function.iterate_add_apply f (n - j) i a
    _ = f^[n - j] (f^[j] a) := by rw [h]
    _ = f^[n - j + j] a := (Function.iterate_add_apply f (n - j) j a).symm
    _ = f^[n] a := by rw [Nat.sub_add_cancel hj]

theorem exists_leaves [DecidableEq β] {code : α → β} (hcode : Function.Injective code)
    (s : Finset β) (hs : ∀ b, P b → code b ∈ s) (h : ∃ n, ¬ P (f^[n] a)) :
    ∃ n ≤ s.card, ¬ P (f^[n] a) ∧ ∀ m < n, P (f^[m] a) := by
  classical
  have hfirst : ∀ m < Nat.find h, P (f^[m] a) := fun m hm => not_not.mp (Nat.find_min h hm)
  refine ⟨Nat.find h, ?_, Nat.find_spec h, hfirst⟩
  by_contra hlarge
  have hmaps : ∀ m ∈ Finset.range (Nat.find h), code (f^[m] a) ∈ s :=
    fun m hm => hs _ (hfirst m (Finset.mem_range.mp hm))
  obtain ⟨i, hi, j, hj, hne, heq⟩ := Finset.exists_ne_map_eq_of_card_lt_of_maps_to
    (by rw [Finset.card_range]; omega) hmaps
  rw [Finset.mem_range] at hi hj
  have key : ∀ i j, i < j → j < Nat.find h → f^[i] a = f^[j] a → False := by
    intro i j hij hj hrepeat
    have hsame := iterate_of_repeat hrepeat (Nat.le_of_lt hj)
    exact Nat.find_spec h (hsame ▸ hfirst _ (by omega))
  rcases Nat.lt_or_gt_of_ne hne with hij | hji
  · exact key i j hij hj (hcode heq)
  · exact key j i hji hi (hcode heq).symm

theorem exists_run {R : α → α → Prop} (h : ∀ b, P b → ∃ c, R b c ∧ P c) (ha : P a) :
    ∃ run : Nat → α, run 0 = a ∧ ∀ n, R (run n) (run (n + 1)) := by
  choose next hnext using h
  let run : Nat → Subtype P := fun n =>
    n.rec ⟨a, ha⟩ fun _ b => ⟨next b b.2, (hnext b b.2).2⟩
  exact ⟨fun n => (run n).1, rfl, fun n => (hnext _ (run n).2).1⟩

end Gramado.Library.Orbit
