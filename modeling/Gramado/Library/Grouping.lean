import Mathlib.Data.List.SplitBy

/-! The maximal runs of a list that is extended at its end and shortened at its front by whole
runs. -/

namespace Gramado.Library.Grouping

variable {α : Type*} {r : α → α → Bool} {l : List α}

variable {a : α} {front : List (List α)} {g : List α}

theorem splitBy_concat_new (h : ∀ x ∈ l.getLast?, r x a = false) :
    (l ++ [a]).splitBy r = l.splitBy r ++ [[a]] :=
  List.splitBy_append_cons [] h

theorem splitBy_concat_join (h : l.splitBy r = front ++ [g])
    (hjoin : ∀ x ∈ g.getLast?, r x a = true) :
    (l ++ [a]).splitBy r = front ++ [g ++ [a]] := by
  obtain ⟨hflatten, hnil, hchain, hbreaks⟩ := List.splitBy_eq_iff.mp h
  rw [List.splitBy_eq_iff]
  have hg : g ≠ [] := by
    rintro rfl
    exact hnil (by simp)
  refine ⟨by simp [hflatten], ?_, ?_, ?_⟩
  · simp only [List.mem_append, List.mem_singleton, not_or] at hnil ⊢
    exact ⟨hnil.1, by simp⟩
  · intro g' hg'
    rcases List.mem_append.mp hg' with hfront | hlast
    · exact hchain g' (List.mem_append_left _ hfront)
    · rw [List.mem_singleton.mp hlast]
      refine (hchain g (by simp)).append (List.isChain_singleton a) ?_
      intro x hx y hy
      rw [List.head?_cons, Option.mem_some_iff] at hy
      exact hy ▸ hjoin x hx
  · rw [List.isChain_append] at hbreaks ⊢
    refine ⟨hbreaks.1, List.isChain_singleton _, ?_⟩
    intro x hx y hy
    rw [List.head?_cons, Option.mem_some_iff] at hy
    obtain ⟨hx', hg', hfalse⟩ := hbreaks.2.2 x hx g rfl
    refine ⟨hx', by rw [← hy]; simp, ?_⟩
    rw [← hfalse]
    congr 1
    simp only [← hy, List.head_append_of_ne_nil hg]

theorem splitBy_cons {rest : List (List α)} (h : l.splitBy r = g :: rest) :
    l = g ++ rest.flatten ∧ rest.flatten.splitBy r = rest := by
  obtain ⟨hflatten, hnil, hchain, hbreaks⟩ := List.splitBy_eq_iff.mp h
  rw [List.flatten_cons] at hflatten
  refine ⟨hflatten, ?_⟩
  apply List.splitBy_flatten
  · exact fun hmem => hnil (List.mem_cons_of_mem g hmem)
  · exact fun g' hg' => hchain g' (List.mem_cons_of_mem g hg')
  · exact hbreaks.tail

theorem splitBy_last (h : l.splitBy r = front ++ [g]) : l.getLast? = g.getLast? := by
  obtain ⟨hflatten, hnil, _, _⟩ := List.splitBy_eq_iff.mp h
  have hg : g ≠ [] := by
    rintro rfl
    exact hnil (by simp)
  rw [hflatten, List.flatten_append, List.flatten_singleton, List.getLast?_append_of_ne_nil _ hg]

end Gramado.Library.Grouping
