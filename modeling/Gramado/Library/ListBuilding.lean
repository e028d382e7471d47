import Gramado.Library.LinkedList
import Mathlib.Data.List.Nodup

/-! A loop over the cells of a table that threads a list through some of them. -/

namespace Gramado.Library.ListBuilding

open Library.LinkedList

variable {ι α : Type*}

structure Field (ι α : Type*) where
  next : α → Option ι
  setNext : Option ι → α → α
  next_setNext : ∀ n a, next (setNext n a) = n
  setNext_setNext : ∀ n m a, setNext n (setNext m a) = setNext n a
  setNext_next : ∀ a, setNext (next a) a = a

def Field.nextIn (F : Field ι α) (table : ι → Option α) (i : ι) : Option ι :=
  (table i).bind F.next

/-- What the loop has made of the table `before` once it has visited some cells: apart from the
pointers it has done `visit` to each of them, and it has linked those that are `chosen` behind
the cell `head`, up to `tail`. -/
structure Built (F : Field ι α) (visit : α → α) (chosen : ι → Bool) (head : ι)
    (before after : ι → Option α) (visited : List ι) (tail : ι) [DecidableEq ι] : Prop where
  untouched : ∀ j, j ≠ head → j ∉ visited → after j = before j
  touched : ∀ j a, before j = some a → j = head ∨ j ∈ visited →
    ∃ n, after j = some (F.setNext n (if j = head then a else visit a))
  absent : ∀ j, before j = none → after j = none
  last : ∃ front, head :: visited.filter chosen = front ++ [tail]
  linked : Linked (F.nextIn after) (head :: visited.filter chosen)

variable [DecidableEq ι] {F : Field ι α} {visit : α → α} {chosen : ι → Bool} {head tail i : ι}
  {before after after' : ι → Option α} {visited : List ι} {a c : α}

theorem built_begin (ha : before head = some a) :
    Built F visit chosen head before before [] head := by
  refine ⟨fun _ _ _ => rfl, ?_, fun _ h => h, ⟨[], rfl⟩, linked_singleton _ head⟩
  rintro j b hb (rfl | hj)
  · refine ⟨F.next b, ?_⟩
    rw [if_pos rfl, F.setNext_next]
    exact hb
  · cases hj

variable {b : ι}

theorem Built.mem (h : Built F visit chosen head before after visited tail) (hi : i ∉ visited)
    (hhead : i ≠ head) {front : List ι} (hfront : head :: visited.filter chosen = front ++ [tail])
    (hb : b ∈ front ++ [tail]) : (b = head ∨ b ∈ visited) ∧ b ≠ i := by
  rw [← hfront] at hb
  rcases List.mem_cons.mp hb with rfl | hb
  · exact ⟨.inl rfl, hhead.symm⟩
  · have hvisited := List.mem_of_mem_filter hb
    refine ⟨.inr hvisited, ?_⟩
    rintro rfl
    exact hi hvisited

theorem Built.cell (h : Built F visit chosen head before after visited tail)
    (hexists : ∀ b, b = head ∨ chosen b = true → ∃ a, before b = some a)
    (hb : b ∈ head :: visited.filter chosen) :
    ∃ a n, before b = some a ∧ after b = some (F.setNext n (if b = head then a else visit a)) := by
  have hmem : b = head ∨ b ∈ visited := (List.mem_cons.mp hb).imp_right List.mem_of_mem_filter
  obtain ⟨a, ha⟩ := hexists b ((List.mem_cons.mp hb).imp_right List.of_mem_filter)
  obtain ⟨n, hn⟩ := h.touched b a ha hmem
  exact ⟨a, n, ha, hn⟩

theorem built_absent (h : Built F visit chosen head before after visited tail)
    (hi : before i = none) (hnot : chosen i = false) :
    Built F visit chosen head before after (visited ++ [i]) tail := by
  have hfilter : (visited ++ [i]).filter chosen = visited.filter chosen := by
    simp [List.filter_append, hnot]
  constructor
  · intro j hj hvisited
    exact h.untouched j hj fun hmem => hvisited (List.mem_append_left _ hmem)
  · intro j b hb hmem
    have hne : j ≠ i := by
      rintro rfl
      rw [hi] at hb
      cases hb
    apply h.touched j b hb
    simpa [hne] using hmem
  · exact h.absent
  · rw [hfilter]
    exact h.last
  · rw [hfilter]
    exact h.linked

theorem built_skip (h : Built F visit chosen head before after visited tail)
    (ha : before i = some a) (hhead : i ≠ head) (hi : i ∉ visited) (hnot : chosen i = false)
    (hafter : after' = Function.update after i (some (visit a))) :
    Built F visit chosen head before after' (visited ++ [i]) tail := by
  have hfilter : (visited ++ [i]).filter chosen = visited.filter chosen := by
    simp [List.filter_append, hnot]
  constructor
  · intro j hj hvisited
    rw [List.mem_append, List.mem_singleton, not_or] at hvisited
    rw [hafter, Function.update_of_ne hvisited.2]
    exact h.untouched j hj hvisited.1
  · intro j b hb hmem
    rw [hafter]
    rcases eq_or_ne j i with rfl | hne
    · rw [ha] at hb
      cases hb
      refine ⟨F.next (visit a), ?_⟩
      rw [Function.update_self, if_neg hhead, F.setNext_next]
    · rw [Function.update_of_ne hne]
      apply h.touched j b hb
      simpa [hne] using hmem
  · intro j hj
    have hne : j ≠ i := by
      rintro rfl
      rw [ha] at hj
      cases hj
    rw [hafter, Function.update_of_ne hne]
    exact h.absent j hj
  · rw [hfilter]
    exact h.last
  · rw [hfilter]
    obtain ⟨front, hfront⟩ := h.last
    have hlinked := h.linked
    rw [hfront] at hlinked ⊢
    apply hlinked.congr
    intro b hb
    have hne := (h.mem hi hhead hfront (List.mem_append_left _ hb)).2
    rw [Field.nextIn, Field.nextIn, hafter, Function.update_of_ne hne]

theorem built_link (h : Built F visit chosen head before after visited tail)
    (hexists : ∀ b, b = head ∨ chosen b = true → ∃ a, before b = some a)
    (hnodup : (head :: visited).Nodup) (ha : before i = some a) (hhead : i ≠ head)
    (hi : i ∉ visited) (hchosen : chosen i = true) {n : Option ι}
    (hafter : after' = Function.update
      (Function.update after tail ((after tail).map (F.setNext (some i)))) i
      (some (F.setNext n (visit a)))) :
    Built F visit chosen head before after' (visited ++ [i]) i := by
  have hfilter : (visited ++ [i]).filter chosen = visited.filter chosen ++ [i] := by
    simp [List.filter_append, hchosen]
  obtain ⟨front, hfront⟩ := h.last
  obtain ⟨htail, htailne⟩ := h.mem hi hhead hfront (b := tail) (by simp)
  obtain ⟨t, m, ht, hm⟩ := h.cell hexists (b := tail) (by simp [hfront])
  rw [hm, Option.map_some, F.setNext_setNext] at hafter
  constructor
  · intro j hj hvisited
    rw [List.mem_append, List.mem_singleton, not_or] at hvisited
    have hjtail : j ≠ tail := by
      rintro rfl
      exact htail.elim hj hvisited.1
    rw [hafter, Function.update_of_ne hvisited.2, Function.update_of_ne hjtail]
    exact h.untouched j hj hvisited.1
  · intro j b hb hmem
    rw [hafter]
    rcases eq_or_ne j i with rfl | hne
    · rw [ha] at hb
      cases hb
      exact ⟨n, by rw [Function.update_self, if_neg hhead]⟩
    rw [Function.update_of_ne hne]
    rcases eq_or_ne j tail with rfl | hjtail
    · rw [ht] at hb
      cases hb
      exact ⟨some i, Function.update_self ..⟩
    · rw [Function.update_of_ne hjtail]
      apply h.touched j b hb
      simpa [hne] using hmem
  · intro j hj
    have hne : j ≠ i := by
      rintro rfl
      rw [ha] at hj
      cases hj
    have hjtail : j ≠ tail := by
      rintro rfl
      rw [ht] at hj
      cases hj
    rw [hafter, Function.update_of_ne hne, Function.update_of_ne hjtail]
    exact h.absent j hj
  · exact ⟨head :: visited.filter chosen, by rw [hfilter]; rfl⟩
  · have hlinked := h.linked
    have hlist : (front ++ [tail]).Nodup := by
      rw [← hfront]
      exact List.Nodup.sublist (List.Sublist.cons_cons head List.filter_sublist) hnodup
    rw [hfilter, ← List.cons_append, hfront]
    rw [hfront] at hlinked
    apply hlinked.append
    · intro b hb
      have hne := (h.mem hi hhead hfront (List.mem_append_left _ hb)).2
      have hbtail : b ≠ tail := by
        rintro rfl
        exact (List.nodup_append.mp hlist).2.2 _ hb b (by simp) rfl
      rw [Field.nextIn, Field.nextIn, hafter, Function.update_of_ne hne,
        Function.update_of_ne hbtail]
    · rw [Field.nextIn, hafter, Function.update_of_ne htailne, Function.update_self,
        Option.bind_some, F.next_setNext]

theorem built_follows (h : Built F visit chosen head before after visited tail)
    (hexists : ∀ b, b = head ∨ chosen b = true → ∃ a, before b = some a)
    (hnodup : (head :: visited).Nodup)
    (hafter : after' = Function.update after tail ((after tail).map (F.setNext none))) :
    Follows (F.nextIn after') (some head) (head :: visited.filter chosen) := by
  obtain ⟨front, hfront⟩ := h.last
  obtain ⟨t, m, _, hm⟩ := h.cell hexists (b := tail) (by simp [hfront])
  have hlinked := h.linked
  have hlist : (head :: visited.filter chosen).Nodup :=
    List.Nodup.sublist (List.Sublist.cons_cons head List.filter_sublist) hnodup
  have hstart : (front ++ [tail]).head? = some head := by
    rw [← hfront]
    rfl
  rw [hfront] at hlinked hlist ⊢
  rw [← hstart]
  apply Linked.follows
  · apply hlinked.congr
    intro b hb
    have hne : b ≠ tail := by
      rintro rfl
      exact (List.nodup_append.mp hlist).2.2 _ hb b (by simp) rfl
    rw [Field.nextIn, Field.nextIn, hafter, Function.update_of_ne hne]
  · rw [Field.nextIn, hafter, Function.update_self, hm, Option.map_some, Option.bind_some,
      F.next_setNext]

end Gramado.Library.ListBuilding
