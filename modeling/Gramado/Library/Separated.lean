import Mathlib.Data.List.DropRight

/-! The fields of a list: what stands between its separators. -/

namespace Gramado.Library.Separated

variable {α : Type*} {sep : α → Bool}

def fields (sep : α → Bool) (l : List α) : List (List α) :=
  (l.splitOnP sep).filter fun w => !w.isEmpty

@[simp] theorem fields_nil : fields sep ([] : List α) = [] := rfl

variable {s : α} {w seps : List α}

theorem fields_append_cons (l rest : List α) (hs : sep s = true) :
    fields sep (l ++ s :: rest) = fields sep l ++ fields sep rest := by
  rw [fields, List.splitOnP_append_cons l rest hs, List.filter_append]
  rfl

theorem fields_cons (rest : List α) (hs : sep s = true) :
    fields sep (s :: rest) = fields sep rest :=
  fields_append_cons [] rest hs

theorem fields_singleton (hw : w ≠ []) (h : ∀ x ∈ w, sep x = false) : fields sep w = [w] := by
  rw [fields, List.splitOnP_eq_singleton h]
  simp [hw]

theorem fields_of_all {l : List α} (h : ∀ x ∈ l, sep x = true) : fields sep l = [] := by
  induction l with
  | nil => rfl
  | cons s l ih =>
      rw [fields_cons l (h s (by simp)), ih fun x hx => h x (by simp [hx])]

theorem fields_append_of_all (l : List α) (h : ∀ x ∈ seps, sep x = true) :
    fields sep (l ++ seps) = fields sep l := by
  cases seps with
  | nil => rw [List.append_nil]
  | cons s seps =>
      have hseps := fields_of_all fun x hx => h x (List.mem_cons_of_mem s hx)
      rw [fields_append_cons l seps (h s (by simp)), hseps, List.append_nil]

theorem fields_all_append (h : ∀ x ∈ seps, sep x = true) (l : List α) :
    fields sep (seps ++ l) = fields sep l := by
  induction seps with
  | nil => rfl
  | cons s seps ih =>
      rw [List.cons_append, fields_cons _ (h s (by simp)), ih fun x hx => h x (by simp [hx])]

theorem fields_field_cons (hw : w ≠ []) (h : ∀ x ∈ w, sep x = false) (hs : sep s = true)
    (l : List α) : fields sep (w ++ s :: l) = w :: fields sep l := by
  rw [fields_append_cons w l hs, fields_singleton hw h, List.singleton_append]

/-- A list is what is in front of its last field, the field and the separators behind it. -/
structure LastField (sep : α → Bool) (l front w seps : List α) : Prop where
  eq : l = front ++ w ++ seps
  nonempty : w ≠ []
  free : ∀ x ∈ w, sep x = false
  all : ∀ x ∈ seps, sep x = true
  separated : ∀ h : front ≠ [], sep (front.getLast h) = true

theorem exists_lastField (l : List α) (h : ¬ ∀ x ∈ l, sep x = true) :
    ∃ front w seps, LastField sep l front w seps := by
  have hne : l.rdropWhile sep ≠ [] := fun heq => h (List.rdropWhile_eq_nil_iff.mp heq)
  refine ⟨(l.rdropWhile sep).rdropWhile (fun x => !sep x),
    (l.rdropWhile sep).rtakeWhile (fun x => !sep x), l.rtakeWhile sep, ?_⟩
  constructor
  · rw [List.rdropWhile_append_rtakeWhile, List.rdropWhile_append_rtakeWhile]
  · rw [Ne, List.rtakeWhile_eq_nil_iff]
    intro hlast
    have hsep := List.rdropWhile_last_not sep l hne
    exact hlast hne (by simpa using hsep)
  · intro x hx
    simpa using List.mem_rtakeWhile_imp hx
  · intro x hx
    exact List.mem_rtakeWhile_imp hx
  · intro hfront
    simpa using List.rdropWhile_last_not _ _ hfront

section LastField

variable {l front w seps : List α}

theorem LastField.fields_eq (h : LastField sep l front w seps) :
    fields sep l = fields sep front ++ [w] := by
  rw [h.eq, fields_append_of_all _ h.all]
  rcases List.eq_nil_or_concat front with rfl | ⟨before, s, rfl⟩
  · rw [List.nil_append, fields_singleton h.nonempty h.free]
    rfl
  · rw [List.concat_eq_append] at h ⊢
    have hs : sep s = true := by simpa using h.separated (by simp)
    rw [List.append_assoc, List.singleton_append, fields_append_cons before w hs,
      fields_append_cons before [] hs, fields_singleton h.nonempty h.free]
    simp

theorem LastField.rdropWhile_eq (h : LastField sep l front w seps) :
    l.rdropWhile sep = front ++ w := by
  have hdrop : ∀ seps : List α, (∀ x ∈ seps, sep x = true) →
      (front ++ w ++ seps).rdropWhile sep = (front ++ w).rdropWhile sep := by
    intro seps hseps
    induction seps using List.reverseRecOn with
    | nil => rw [List.append_nil]
    | append_singleton seps s ih =>
        rw [← List.append_assoc, List.rdropWhile_concat_pos _ _ _ (hseps s (by simp)),
          ih fun x hx => hseps x (by simp [hx])]
  rw [h.eq, hdrop seps h.all, List.rdropWhile_eq_self_iff]
  intro hne
  rw [List.getLast_append_of_ne_nil hne h.nonempty]
  simp [h.free _ (List.getLast_mem h.nonempty)]

theorem LastField.exists_separator_iff (h : LastField sep l front w seps) :
    (∃ s ∈ l.rdropWhile sep, sep s = true) ↔ front ≠ [] := by
  rw [h.rdropWhile_eq]
  constructor
  · rintro ⟨s, hs, hsep⟩ rfl
    simp [h.free s (by simpa using hs)] at hsep
  · intro hne
    exact ⟨front.getLast hne, by simp [List.getLast_mem hne], h.separated hne⟩

end LastField

theorem exists_separator_iff (l : List α) : (∃ s ∈ l.rdropWhile sep, sep s = true) ↔
      ∃ front w seps, LastField sep l front w seps ∧ front ≠ [] := by
  constructor
  · intro h
    have hall : ¬ ∀ x ∈ l, sep x = true := by
      intro hall
      rw [List.rdropWhile_eq_nil_iff.mpr hall] at h
      simp at h
    obtain ⟨front, w, seps, hlast⟩ := exists_lastField l hall
    exact ⟨front, w, seps, hlast, hlast.exists_separator_iff.mp h⟩
  · rintro ⟨front, w, seps, hlast, hne⟩
    exact hlast.exists_separator_iff.mpr hne

end Gramado.Library.Separated
