import Gramado.Mm.PagePool

/-! `__firstSlotForAList` with its restarts: the search ends, and finds the first free run. -/

namespace Gramado.Mm.FreeRun

open Mm.PagePool (Page FreeRun PAGE_COUNT_MAX firstSlotLoop newPage)

/-- The variables of the search: the slots from `base` to `i` have been counted. -/
structure Scan where
  i : Nat
  base : Nat
  count : Nat
  counted : base + count = i

def Scan.tryAgain (base : Nat) : Scan :=
  ⟨base, base, 0, Nat.add_zero base⟩

def Scan.next (s : Scan) : Scan :=
  ⟨s.i + 1, s.base, s.count + 1, by rw [← s.counted, Nat.add_assoc]⟩

@[simp] theorem tryAgain_i (base : Nat) : (Scan.tryAgain base).i = base := rfl
@[simp] theorem next_i (s : Scan) : s.next.i = s.i + 1 := rfl

/-- The rest of a search. A restart begins behind the occupied slot, as the count is right. -/
def search (list : Nat → Option Page) (size : Int) (s : Scan) : Int :=
  if s.i < PAGE_COUNT_MAX then
    if (list s.i).isSome then search list size (Scan.tryAgain (s.base + s.count + 1))
    else if size ≤ s.next.count then s.base
    else search list size s.next
  else -1
termination_by PAGE_COUNT_MAX - s.i
decreasing_by
  · have hcounted := s.counted
    simp only [tryAgain_i]
    omega
  · simp only [next_i]
    omega

def firstSlotForAList (list : Nat → Option Page) (size : Int) : Int :=
  search list size (Scan.tryAgain 0)

def IsFirstRun (list : Nat → Option Page) (n : Nat) (answer : Int) : Prop :=
  (∃ first : Nat, answer = first ∧ FreeRun list first n ∧ first + n ≤ PAGE_COUNT_MAX ∧
      ∀ j < first, ¬ FreeRun list j n) ∨
    answer = -1 ∧ ∀ j, FreeRun list j n → PAGE_COUNT_MAX < j + n

section Search

variable {list : Nat → Option Page} {size : Int}

theorem search_eq (s : Scan) : search list size s =
      match firstSlotLoop list size (PAGE_COUNT_MAX - s.i) s.i s.base s.count with
      | some first => first
      | none => -1 := by
  induction s using search.induct list size with
  | case1 s hlt hoccupied ih =>
      have hleft : PAGE_COUNT_MAX - s.i =
          PAGE_COUNT_MAX - (Scan.tryAgain (s.base + s.count + 1)).i + 1 := by
        have hcounted := s.counted
        rw [tryAgain_i]
        omega
      rw [search, if_pos hlt, if_pos hoccupied, ih, hleft, firstSlotLoop, if_pos hoccupied]
      simp [Scan.tryAgain]
  | case2 s hlt hfree hsize =>
      obtain ⟨left, hleft⟩ : ∃ left, PAGE_COUNT_MAX - s.i = left + 1 :=
        ⟨PAGE_COUNT_MAX - s.i - 1, by omega⟩
      rw [search, if_pos hlt, if_neg hfree, if_pos hsize, hleft, firstSlotLoop, if_neg hfree]
      dsimp only
      rw [if_pos (by exact_mod_cast hsize)]
  | case3 s hlt hfree hsize ih =>
      have hleft : PAGE_COUNT_MAX - s.i = PAGE_COUNT_MAX - s.next.i + 1 := by
        rw [next_i]
        omega
      rw [search, if_pos hlt, if_neg hfree, if_neg hsize, ih, hleft, firstSlotLoop, if_neg hfree]
      dsimp only
      rw [if_neg (by exact_mod_cast hsize)]
      rfl
  | case4 s hlt =>
      have hleft : PAGE_COUNT_MAX - s.i = 0 := by omega
      rw [search, if_neg hlt, hleft, firstSlotLoop]

theorem firstSlotLoop_max (k i base count : Nat) :
    firstSlotLoop list size k i base count = firstSlotLoop list (max size 1) k i base count := by
  induction k generalizing i base count with
  | zero => rfl
  | succ k ih =>
      have hsize : size ≤ ((count + 1 : Nat) : Int) ↔ max size 1 ≤ ((count + 1 : Nat) : Int) := by
        omega
      rw [firstSlotLoop, firstSlotLoop]
      dsimp only
      rw [ih, ih]
      simp only [hsize]

end Search

/-- The search returns the first run of free slots, of at least one slot. -/
theorem first_free_run (list : Nat → Option Page) (size : Int) :
    IsFirstRun list (max size 1).toNat (firstSlotForAList list size) := by
  have hcast : max size 1 = ((max size 1).toNat : Int) := by omega
  have hpos : 0 < (max size 1).toNat := by omega
  rw [firstSlotForAList, search_eq, firstSlotLoop_max, hcast, Int.toNat_natCast]
  generalize (max size 1).toNat = n at hpos
  simp only [Scan.tryAgain, Nat.sub_zero]
  have hfound := PagePool.firstSlot_found list hpos
  cases h : firstSlotLoop list n PAGE_COUNT_MAX 0 0 0 with
  | some first =>
      rw [h] at hfound
      exact .inl ⟨first, rfl, hfound⟩
  | none =>
      rw [h] at hfound
      exact .inr ⟨rfl, fun j hrun => hfound j hrun⟩

def bootList (slot : Nat) : Option Page :=
  if slot = 0 then some (newPage 0) else none

/-- No slots at all are free from the first one on, but the search looks for one. -/
theorem no_slots_at_once : ¬ IsFirstRun bootList 0 (firstSlotForAList bootList 0) := by
  have hanswer : firstSlotForAList bootList 0 = 1 := by
    rw [firstSlotForAList, search_eq]
    decide +kernel
  rw [hanswer]
  rintro (⟨first, hfirst, -, -, hbefore⟩ | ⟨hnone, -⟩)
  · exact hbefore 0 (by omega) fun m _ _ => by omega
  · cases hnone

end Gramado.Mm.FreeRun
