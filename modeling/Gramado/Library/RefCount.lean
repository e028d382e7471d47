import Mathlib.Algebra.BigOperators.Group.Finset.Piecewise

/-! Reference counting: places that refer to objects, and a counter for each object. -/

namespace Gramado.Library.RefCount

variable {ι α : Type*} [DecidableEq α] {places : Finset ι}

def references (places : Finset ι) (table : ι → Option α) (a : α) : Nat :=
  (places.filter fun i => table i = some a).card

variable {table : ι → Option α} {i : ι} {a : α} {counter : α → Int}

theorem references_congr {table' : ι → Option α} (h : ∀ i ∈ places, table' i = table i) (a : α) :
    references places table' a = references places table a := by
  unfold references
  congr 1
  apply Finset.filter_congr
  intro i hi
  rw [h i hi]

theorem references_pos (hi : i ∈ places) (h : table i = some a) : 0 < references places table a :=
  Finset.card_pos.mpr ⟨i, Finset.mem_filter.mpr ⟨hi, h⟩⟩

theorem references_eq_zero : references places table a = 0 ↔ ∀ i ∈ places, table i ≠ some a := by
  rw [references, Finset.card_eq_zero, Finset.filter_eq_empty_iff]

theorem one_lt_references {j : ι} (hi : i ∈ places) (hj : j ∈ places) (hne : i ≠ j)
    (hia : table i = some a) (hja : table j = some a) :
    1 < references places table a :=
  Finset.one_lt_card.mpr ⟨i, Finset.mem_filter.mpr ⟨hi, hia⟩, j, Finset.mem_filter.mpr ⟨hj, hja⟩, hne⟩

def Counted (places : Finset ι) (table : ι → Option α) (counter : α → Int) : Prop :=
  ∀ a, counter a = references places table a

theorem Counted.iff_eq {counter' : α → Int} (h : Counted places table counter) :
    Counted places table counter' ↔ ∀ a, counter' a = counter a := by
  constructor
  · intro h' a
    rw [h' a, h a]
  · intro hsame a
    rw [hsame a, h a]

theorem Counted.pos (h : Counted places table counter) (hi : i ∈ places) (hia : table i = some a) :
    0 < counter a := by
  have hpos := references_pos hi hia
  rw [h a]
  omega

variable [DecidableEq ι]

theorem references_update (table : ι → Option α) (hi : i ∈ places) (x : Option α) (a : α) :
    references places (Function.update table i x) a + (if table i = some a then 1 else 0) =
      references places table a + (if x = some a then 1 else 0) := by
  have hrest : references (places.erase i) (Function.update table i x) a =
      references (places.erase i) table a :=
    references_congr (fun j hj => Function.update_of_ne (Finset.ne_of_mem_erase hj) _ _) a
  have hsplit : ∀ t : ι → Option α, references places t a =
      references (places.erase i) t a + if t i = some a then 1 else 0 := by
    intro t
    unfold references
    rw [Finset.card_filter, Finset.card_filter, ← Finset.sum_erase_add _ _ hi]
  rw [hsplit, hsplit table, hrest, Function.update_self]
  omega

theorem counted_share (h : Counted places table counter) (hi : i ∈ places)
    (hfree : table i = none) :
    Counted places (Function.update table i (some a))
      (Function.update counter a (counter a + 1)) := by
  intro b
  have hbefore := h b
  have hcount := references_update table hi (some a) b
  rw [hfree] at hcount
  rcases eq_or_ne b a with rfl | hne
  · rw [Function.update_self]
    simp only [reduceCtorEq, if_false, if_true] at hcount
    omega
  · rw [Function.update_of_ne hne]
    have hne' : (some a : Option α) ≠ some b := fun hab => hne (Option.some.inj hab).symm
    simp only [reduceCtorEq, if_false, hne'] at hcount
    omega

theorem counted_drop (h : Counted places table counter) (hi : i ∈ places)
    (hold : table i = some a) :
    Counted places (Function.update table i none)
      (Function.update counter a (counter a - 1)) := by
  intro b
  have hbefore := h b
  have hcount := references_update table hi none b
  rw [hold] at hcount
  rcases eq_or_ne b a with rfl | hne
  · rw [Function.update_self]
    simp only [reduceCtorEq, if_false, if_true] at hcount
    omega
  · rw [Function.update_of_ne hne]
    have hne' : (some a : Option α) ≠ some b := fun hab => hne (Option.some.inj hab).symm
    simp only [reduceCtorEq, if_false, hne'] at hcount
    omega

theorem not_counted_update {x : Option α} (h : Counted places table counter) (hi : i ∈ places)
    (hne : x ≠ table i) :
    ¬ Counted places (Function.update table i x) counter := by
  intro h'
  apply hne
  apply Option.ext
  intro a
  have hcount := references_update table hi x a
  have hbefore := h a
  have hafter := h' a
  have hsame : references places (Function.update table i x) a = references places table a := by
    omega
  rw [hsame] at hcount
  constructor
  · rintro rfl
    by_contra hold
    rw [if_pos rfl, if_neg hold] at hcount
    omega
  · intro hold
    by_contra hx
    rw [if_pos hold, if_neg hx] at hcount
    omega

end Gramado.Library.RefCount
