import Mathlib.Data.List.Basic
import Mathlib.Data.List.Induction

/-! Things that lie on top of each other, listed from the bottom to the top. -/

namespace Gramado.Library.Topmost

variable {α : Type*}

def topmost (p : α → Bool) (l : List α) : Option α :=
  l.foldl (fun found a => if p a = true then some a else found) none

/-- Of the things that a predicate holds of, nothing lies above `a`. -/
def IsTop (P : α → Prop) (l : List α) (a : α) : Prop :=
  ∃ below above, l = below ++ a :: above ∧ P a ∧ ∀ b ∈ above, ¬ P b

variable {p : α → Bool} {P Q : α → Prop} {l : List α} {a b : α}

theorem topmost_nil (p : α → Bool) : topmost p [] = none := rfl

theorem topmost_concat (p : α → Bool) (l : List α) (a : α) :
    topmost p (l ++ [a]) = if p a = true then some a else topmost p l := by
  rw [topmost, List.foldl_concat]
  rfl

theorem topmost_eq_none : topmost p l = none ↔ ∀ a ∈ l, ¬ p a = true := by
  induction l using List.reverseRecOn with
  | nil => simp [topmost_nil]
  | append_singleton l a ih =>
      rw [topmost_concat]
      by_cases ha : p a = true
      · simp [ha]
      · rw [if_neg ha, ih]
        simp only [List.mem_append, List.mem_singleton, or_imp, forall_and, forall_eq]
        exact (and_iff_left ha).symm

theorem IsTop.mem (h : IsTop P l a) : a ∈ l := by
  obtain ⟨below, above, rfl, _⟩ := h
  exact List.mem_append_right below List.mem_cons_self

theorem IsTop.holds (h : IsTop P l a) : P a := by
  obtain ⟨_, _, _, ha, _⟩ := h
  exact ha

theorem topmost_eq_some : topmost p l = some a ↔ IsTop (fun b => p b = true) l a := by
  induction l using List.reverseRecOn with
  | nil =>
      rw [topmost_nil]
      constructor
      · intro h
        cases h
      · intro h
        cases h.mem
  | append_singleton l b ih =>
      rw [topmost_concat]
      constructor
      · intro h
        by_cases hb : p b = true
        · rw [if_pos hb] at h
          obtain rfl := Option.some.inj h
          exact ⟨l, [], rfl, hb, fun _ hmem => (List.not_mem_nil hmem).elim⟩
        · rw [if_neg hb] at h
          obtain ⟨below, above, rfl, ha, habove⟩ := ih.mp h
          refine ⟨below, above ++ [b], by simp, ha, ?_⟩
          intro c hc
          rcases List.mem_append.mp hc with hc | hc
          · exact habove c hc
          · rw [List.mem_singleton.mp hc]
            exact hb
      · rintro ⟨below, above, heq, ha, habove⟩
        rcases List.eq_nil_or_concat' above with rfl | ⟨above, c, rfl⟩
        · obtain ⟨_, hlast⟩ := List.append_inj' heq rfl
          rw [List.cons.injEq] at hlast
          rw [hlast.1, if_pos ha]
        · rw [← List.cons_append, ← List.append_assoc] at heq
          obtain ⟨hfront, hlast⟩ := List.append_inj' heq rfl
          rw [List.cons.injEq] at hlast
          have hb : ¬ p b = true := by
            rw [hlast.1]
            exact habove c (List.mem_append_right above List.mem_cons_self)
          rw [if_neg hb]
          exact ih.mpr ⟨below, above, hfront, ha, fun d hd => habove d (List.mem_append_left _ hd)⟩

theorem isTop_congr (h : ∀ a ∈ l, P a ↔ Q a) : IsTop P l a ↔ IsTop Q l a := by
  constructor
  · rintro ⟨below, above, rfl, ha, habove⟩
    refine ⟨below, above, rfl, (h a (by simp)).mp ha, fun b hb hQ => habove b hb ?_⟩
    exact (h b (by simp [hb])).mpr hQ
  · rintro ⟨below, above, rfl, ha, habove⟩
    refine ⟨below, above, rfl, (h a (by simp)).mpr ha, fun b hb hP => habove b hb ?_⟩
    exact (h b (by simp [hb])).mp hP

theorem IsTop.unique (h : IsTop P l a) (h' : IsTop P l b) : a = b := by
  classical
  have ha : IsTop (fun c => decide (P c) = true) l a :=
    (isTop_congr fun c _ => (decide_eq_true_iff).symm).mp h
  have hb : IsTop (fun c => decide (P c) = true) l b :=
    (isTop_congr fun c _ => (decide_eq_true_iff).symm).mp h'
  have heq := topmost_eq_some.mpr ha
  rw [topmost_eq_some.mpr hb] at heq
  exact (Option.some.inj heq).symm

end Gramado.Library.Topmost
