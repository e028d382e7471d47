import Mathlib.Data.List.Chain
import Mathlib.Data.Set.Basic

namespace Gramado.Library.LinkedList

variable {ι : Type*}

/-- The cells from a pointer on, up to the null pointer that ends their list. -/
inductive Follows (next : ι → Option ι) : Option ι → List ι → Prop where
  | nil : Follows next none []
  | cons (a : ι) (l : List ι) (h : Follows next (next a) l) : Follows next (some a) (a :: l)

variable {next next' : ι → Option ι} {start stop : Option ι} {l l' front : List ι} {n : Nat}
  {tail a b : ι} {barrier : Set ι}

theorem Follows.congr (h : Follows next start l) (hsame : ∀ a ∈ l, next' a = next a) :
    Follows next' start l := by
  induction h with
  | nil => exact .nil
  | cons a l _ ih =>
      have hrest := ih fun b hb => hsame b (List.mem_cons_of_mem a hb)
      rw [← hsame a List.mem_cons_self] at hrest
      exact .cons a l hrest

theorem Follows.unique (h : Follows next start l) (h' : Follows next start l') : l = l' := by
  induction h generalizing l' with
  | nil =>
      cases h'
      rfl
  | cons a l _ ih =>
      cases h' with
      | cons _ l' hrest => rw [ih hrest]

/-- The first `n` cells from a pointer on, or all of them if there are fewer. -/
def chain (next : ι → Option ι) : Nat → Option ι → List ι
  | 0, _ => []
  | _ + 1, none => []
  | n + 1, some a => a :: chain next n (next a)

theorem Follows.chain_eq (h : Follows next start l) (hn : l.length ≤ n) :
    chain next n start = l := by
  induction h generalizing n with
  | nil => cases n <;> rfl
  | cons a l _ ih =>
      cases n with
      | zero => cases hn
      | succ n =>
          rw [chain, ih]
          rw [List.length_cons] at hn
          omega

def Linked (next : ι → Option ι) (l : List ι) : Prop :=
  l.IsChain fun a b => next a = some b

theorem linked_singleton (next : ι → Option ι) (a : ι) : Linked next [a] := List.isChain_singleton a

theorem Linked.congr (h : Linked next (front ++ [tail])) (hsame : ∀ a ∈ front, next' a = next a) :
    Linked next' (front ++ [tail]) := by
  induction front with
  | nil => exact linked_singleton next' tail
  | cons a front ih =>
      have hfront := ih (List.IsChain.tail h) fun b hb => hsame b (List.mem_cons_of_mem _ hb)
      cases front with
      | nil =>
          have hlink := List.isChain_pair.mp h
          exact List.isChain_pair.mpr ((hsame a (by simp)).trans hlink)
      | cons b front =>
          obtain ⟨hlink, _⟩ := List.isChain_cons_cons.mp h
          exact List.isChain_cons_cons.mpr ⟨(hsame a (by simp)).trans hlink, hfront⟩

theorem Linked.append (h : Linked next (front ++ [tail])) (hsame : ∀ b ∈ front, next' b = next b)
    (hlink : next' tail = some a) : Linked next' (front ++ [tail] ++ [a]) := by
  rw [Linked, List.append_assoc, List.singleton_append, List.isChain_append_cons_cons]
  exact ⟨h.congr hsame, hlink, List.isChain_singleton a⟩

theorem Linked.follows (h : Linked next (front ++ [tail])) (hend : next tail = none) :
    Follows next (front ++ [tail]).head? (front ++ [tail]) := by
  induction front with
  | nil =>
      have hnil : Follows next (next tail) [] := by
        rw [hend]
        exact .nil
      exact .cons tail [] hnil
  | cons a front ih =>
      have hrest := ih (List.IsChain.tail h)
      have hlink : next a = (front ++ [tail]).head? := by
        cases front with
        | nil =>
            have hpair := List.isChain_pair.mp h
            exact hpair
        | cons b front =>
            obtain ⟨hpair, _⟩ := List.isChain_cons_cons.mp h
            exact hpair
      rw [← hlink] at hrest
      exact .cons a _ hrest

/-- The cells of `l`, one behind the other, lead from a pointer to another one. -/
def Reaches (next : ι → Option ι) : Option ι → List ι → Option ι → Prop
  | start, [], stop => start = stop
  | start, a :: l, stop => start = some a ∧ Reaches next (next a) l stop

theorem reaches_append : Reaches next start (l ++ l') stop ↔
      ∃ middle, Reaches next start l middle ∧ Reaches next middle l' stop := by
  induction l generalizing start with
  | nil => simp [Reaches]
  | cons a l ih =>
      rw [List.cons_append, Reaches, ih]
      simp only [Reaches, and_assoc, exists_and_left]

theorem follows_iff_reaches : Follows next start l ↔ Reaches next start l none := by
  constructor
  · intro h
    induction h with
    | nil => rfl
    | cons a l _ ih => exact ⟨rfl, ih⟩
  · intro h
    induction l generalizing start with
    | nil =>
        obtain rfl : start = none := h
        exact .nil
    | cons a l ih =>
        obtain ⟨rfl, hrest⟩ := h
        exact .cons a l (ih hrest)

theorem Reaches.congr (h : Reaches next start l stop) (hsame : ∀ a ∈ l, next' a = next a) :
    Reaches next' start l stop := by
  induction l generalizing start with
  | nil => exact h
  | cons a l ih =>
      obtain ⟨rfl, hrest⟩ := h
      refine ⟨rfl, ?_⟩
      rw [hsame a List.mem_cons_self]
      exact ih hrest fun b hb => hsame b (List.mem_cons_of_mem a hb)

theorem Follows.of_reaches {middle : Option ι} (h : Follows next start l)
    (hreach : Reaches next start front middle) :
    ∃ rest, l = front ++ rest ∧ Follows next middle rest := by
  induction front generalizing start l with
  | nil =>
      obtain rfl : start = middle := hreach
      exact ⟨l, rfl, h⟩
  | cons a front ih =>
      obtain ⟨rfl, hfront⟩ := hreach
      cases h with
      | cons _ l hrest =>
          obtain ⟨rest, rfl, hend⟩ := ih hrest hfront
          exact ⟨rest, rfl, hend⟩

theorem Follows.not_cyclic (h : Follows next start l) :
    ¬ Reaches next start (a :: front) start := by
  intro hreach
  obtain ⟨rest, rfl, hrest⟩ := h.of_reaches hreach
  have hlength := congrArg List.length (hrest.unique h)
  simp only [List.length_append, List.length_cons] at hlength
  omega

theorem Follows.nodup (h : Follows next start l) : l.Nodup := by
  induction h with
  | nil => exact List.nodup_nil
  | cons a l hrest ih =>
      refine List.nodup_cons.mpr ⟨fun ha => ?_, ih⟩
      obtain ⟨front, rest, rfl⟩ := List.append_of_mem ha
      obtain ⟨middle, hfront, hmiddle⟩ := reaches_append.mp (follows_iff_reaches.mp hrest)
      obtain ⟨rfl, _⟩ := hmiddle
      have hcycle : Reaches next (some a) (a :: front) (some a) := ⟨rfl, hfront⟩
      exact (Follows.cons a _ hrest).not_cyclic hcycle

/-- The cell that ends a list, looked for in at most `n` steps. -/
def lastCell (next : ι → Option ι) : Nat → ι → Option ι
  | 0, _ => none
  | n + 1, a =>
      match next a with
      | none => some a
      | some b => lastCell next n b

theorem Follows.lastCell_eq (h : Follows next (some a) l) (hn : l.length ≤ n) :
    lastCell next n a = l.getLast? := by
  induction n generalizing a l with
  | zero =>
      cases h with
      | cons _ l _ => cases hn
  | succ n ih =>
      cases h with
      | cons _ l hrest =>
          rw [lastCell]
          split
          · rename_i hnext
            rw [hnext] at hrest
            cases hrest
            rfl
          · rename_i b hnext
            rw [hnext] at hrest
            have hl : l ≠ [] := by
              rintro rfl
              cases hrest
            rw [ih hrest (by simpa using hn), List.getLast?_cons_of_ne_nil hl]

/-- All the cells from a pointer on, if the list ends within `n` cells. -/
def cells (next : ι → Option ι) : Nat → Option ι → Option (List ι)
  | _, none => some []
  | 0, some _ => none
  | n + 1, some a => (cells next n (next a)).map (a :: ·)

theorem Follows.cells_eq (h : Follows next start l) (hn : l.length ≤ n) :
    cells next n start = some l := by
  induction h generalizing n with
  | nil => cases n <;> rfl
  | cons a l _ ih =>
      cases n with
      | zero => cases hn
      | succ n =>
          rw [cells, ih (Nat.le_of_succ_le_succ hn)]
          rfl

/-- The first cell of a list that a predicate holds of, looked for in at most `n` steps. -/
def findCell (next : ι → Option ι) (p : ι → Bool) : Nat → Option ι → Option (Option ι)
  | _, none => some none
  | 0, some _ => none
  | n + 1, some a => if p a = true then some (some a) else findCell next p n (next a)

theorem Follows.findCell_eq {p : ι → Bool} (h : Follows next start l) (hn : l.length ≤ n) :
    findCell next p n start = some (l.find? p) := by
  induction h generalizing n with
  | nil => cases n <;> rfl
  | cons a l _ ih =>
      cases n with
      | zero => cases hn
      | succ n =>
          rw [findCell, List.find?_cons]
          by_cases ha : p a = true
          · rw [if_pos ha, ha]
          · rw [if_neg ha, ih (Nat.le_of_succ_le_succ hn)]
            rw [Bool.not_eq_true] at ha
            rw [ha]

theorem Follows.link [DecidableEq ι] (h : Follows next start l) (a w : ι) :
    ∃ l', Follows (Function.update (Function.update next a (some w)) w none) start l' := by
  have hw : Follows (Function.update (Function.update next a (some w)) w none) (some w) [w] := by
    refine .cons w [] ?_
    rw [Function.update_self]
    exact .nil
  induction h with
  | nil => exact ⟨[], .nil⟩
  | cons b l _ ih =>
      rcases eq_or_ne b w with rfl | hbw
      · exact ⟨[b], hw⟩
      · rcases eq_or_ne b a with rfl | hba
        · refine ⟨[b, w], .cons b [w] ?_⟩
          rw [Function.update_of_ne hbw, Function.update_self]
          exact hw
        · obtain ⟨l', hl'⟩ := ih
          refine ⟨b :: l', .cons b l' ?_⟩
          rw [Function.update_of_ne hbw, Function.update_of_ne hba]
          exact hl'

/-- The cells from a pointer on lead to a cell, through none of `barrier`. -/
inductive Leads (next : ι → Option ι) (barrier : Set ι) : Option ι → ι → Prop where
  | here (a : ι) : Leads next barrier (some a) a
  | through {a b : ι} (ha : a ∉ barrier) (h : Leads next barrier (next a) b) :
      Leads next barrier (some a) b

theorem Leads.mem {S : Set ι} (h : Leads next barrier start b)
    (hstart : ∀ a, start = some a → a ∈ S)
    (hnext : ∀ a ∈ S, a ∉ barrier → ∀ c, next a = some c → c ∈ S) : b ∈ S := by
  induction h with
  | here a => exact hstart a rfl
  | through ha _ ih => exact ih (hnext _ (hstart _ rfl) ha)

theorem Leads.step (h : Leads next barrier start a) (ha : a ∉ barrier) (hnext : next a = some b) :
    Leads next barrier start b := by
  induction h with
  | here a =>
      refine .through ha ?_
      rw [hnext]
      exact .here b
  | through hc _ ih => exact .through hc (ih ha hnext)

theorem Follows.leads (h : Follows next start l) (ha : a ∈ l) : Leads next ∅ start a := by
  induction h with
  | nil => cases ha
  | cons b l _ ih =>
      rcases List.mem_cons.mp ha with rfl | ha
      · exact .here a
      · exact .through (Set.notMem_empty b) (ih ha)

theorem follows_of_cells (h : cells next n start = some l) : Follows next start l := by
  induction n generalizing start l with
  | zero =>
      cases start with
      | none =>
          cases h
          exact .nil
      | some a => cases h
  | succ n ih =>
      cases start with
      | none =>
          cases h
          exact .nil
      | some a =>
          obtain ⟨rest, hrest, rfl⟩ := Option.map_eq_some_iff.mp h
          exact .cons a rest (ih hrest)

theorem leads_of_lastCell (h : lastCell next n a = some b) : Leads next ∅ (some a) b := by
  induction n generalizing a with
  | zero => cases h
  | succ n ih =>
      rw [lastCell] at h
      split at h
      · cases h
        exact .here _
      · rename_i c hc
        refine .through (Set.notMem_empty a) ?_
        rw [hc]
        exact ih h

theorem Leads.mono {barrier' : Set ι} (h : Leads next barrier start a) (hsub : barrier' ⊆ barrier) :
    Leads next barrier' start a := by
  induction h with
  | here a => exact .here a
  | through hc _ ih => exact .through (fun hc' => hc (hsub hc')) ih

end Gramado.Library.LinkedList
