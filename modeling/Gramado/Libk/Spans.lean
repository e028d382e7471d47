import Gramado.Library.CellArray
import Mathlib.Data.Int.NatAbs

/-! `strcspn` and `strspn`. -/

namespace Gramado.Libk.Spans

open Library.CheckedRead Library.CellArray

/-- The index of type `int` that looks for the end of the set. One step behind the largest value
it points in front of the set. -/
def setLength : Nat → Cells → Except Fault Nat
  | n, some c :: cells =>
      if c = 0 then .ok n
      else if n + 1 < 2 ^ 31 then setLength (n + 1) cells
      else .error .outside
  | _, _ => .error .outside

def anyOf (c : UInt8) : Nat → Cells → Except Fault Bool
  | 0, _ => .ok false
  | n + 1, some d :: set => if c ≠ d then anyOf c n set else .ok true
  | _ + 1, _ => .error .outside

/-- The outer loop, so many turns of it. Its condition is the assignment `result = 1`. The flag
`matched` is that of the turn before, and `stop` says for which flag a turn returns. -/
def turns (stop : Bool → Bool) (str set : Cells) (length : Nat) :
    Nat → Nat → Bool → Except Fault (Option Nat)
  | 0, _, _ => .ok none
  | fuel + 1, _, matched => do
      let result := 1
      let c ← readAt str result
      if c = 0 then return some result
      else
        let found ← anyOf c length set
        let matched := matched || found
        if stop matched = true then return some result
        else turns stop str set length fuel (result + 1) matched

/-- What both functions share. There is no result as long as the loop is in its first turns. -/
def span (stop : Bool → Bool) (str set : Cells) (fuel : Nat) : Except Fault (Option Nat) := do
  let length ← setLength 0 set
  turns stop str set length fuel 0 false

def strcspn (str reject : Cells) (fuel : Nat) : Except Fault (Option Nat) :=
  span (fun matched => matched) str reject fuel

def strspn (str accept : Cells) (fuel : Nat) : Except Fault (Option Nat) :=
  span (fun matched => !matched) str accept fuel

def Gives (call : Nat → Except Fault (Option Nat)) (n : Nat) : Prop :=
  ∃ fuel, call fuel = .ok (some n)

def prefixLength (P : UInt8 → Prop) [DecidablePred P] (s : List UInt8) : Nat :=
  (s.takeWhile fun c => decide (P c)).length

def OneLong (P : UInt8 → Prop) (s : List UInt8) : Prop :=
  ∃ c rest, s = c :: rest ∧ P c ∧ ∀ d ∈ rest.head?, ¬ P d

variable {c : UInt8}

section Lemmas

variable {s set : List UInt8} {spare spare' : Cells} {stop : Bool → Bool}

theorem setLength_eq (hzero : 0 ∉ set) {n : Nat} (hn : n < 2 ^ 31) :
    setLength n (stringCells set spare) =
      if n + set.length < 2 ^ 31 then .ok (n + set.length) else .error .outside := by
  induction set generalizing n with
  | nil =>
      rw [stringCells_nil, setLength, if_pos rfl, List.length_nil, Nat.add_zero, if_pos hn]
  | cons c set ih =>
      rw [List.mem_cons, not_or] at hzero
      rw [stringCells_cons, setLength, if_neg (Ne.symm hzero.1), List.length_cons]
      split
      · rename_i hnext
        rw [ih hzero.2 hnext, Nat.add_assoc, Nat.add_comm 1]
      · rw [if_neg (by omega)]

theorem anyOf_eq (c : UInt8) :
    anyOf c set.length (stringCells set spare) = .ok (decide (c ∈ set)) := by
  induction set with
  | nil => simp [anyOf]
  | cons d set ih =>
      rw [List.length_cons, stringCells_cons, anyOf]
      split
      · rename_i hne
        rw [ih]
        simp [hne]
      · rename_i heq
        rw [not_not] at heq
        simp [heq]

theorem turns_again {str cells : Cells} {length : Nat} {found : Bool} (hread : readAt str 1 = .ok c)
    (hc : c ≠ 0) (hfound : anyOf c length cells = .ok found) (hstop : stop found = false)
    (fuel result : Nat) {matched : Bool} (hmatched : matched = true → found = true) :
    turns stop str cells length fuel result matched = .ok none := by
  induction fuel generalizing result matched with
  | zero => rfl
  | succ fuel ih =>
      have hflag : (matched || found) = found := by
        cases matched with
        | false => rfl
        | true => rw [hmatched rfl, Bool.or_true]
      rw [turns]
      dsimp only
      rw [hread, ok_bind, if_neg hc, hfound, ok_bind, hflag, if_neg (by simp [hstop])]
      exact ih _ fun h => h

theorem span_gives (hset : 0 ∉ set) (str : Cells) (n : Nat) :
    Gives (span stop str (stringCells set spare')) n ↔ set.length < 2 ^ 31 ∧ n = 1 ∧
        ∃ c, readAt str 1 = .ok c ∧ (c = 0 ∨ stop (decide (c ∈ set)) = true) := by
  have hlength : setLength 0 (stringCells set spare') = _ := setLength_eq hset (by omega)
  rw [Nat.zero_add] at hlength
  constructor
  · rintro ⟨fuel, hcall⟩
    rw [span, hlength] at hcall
    split at hcall
    · rename_i hsmall
      refine ⟨hsmall, ?_⟩
      rw [ok_bind] at hcall
      cases fuel with
      | zero => cases hcall
      | succ fuel =>
          cases hread : readAt str 1 with
          | error e =>
              rw [turns] at hcall
              dsimp only at hcall
              rw [hread] at hcall
              cases hcall
          | ok c =>
              by_cases hreturns : c = 0 ∨ stop (decide (c ∈ set)) = true
              · refine ⟨?_, c, rfl, hreturns⟩
                rw [turns] at hcall
                dsimp only at hcall
                rw [hread, ok_bind] at hcall
                rcases hreturns with hc | hstop
                · rw [if_pos hc] at hcall
                  exact (Option.some.inj (Except.ok.inj hcall)).symm
                · split at hcall
                  · exact (Option.some.inj (Except.ok.inj hcall)).symm
                  · rw [anyOf_eq, ok_bind, Bool.false_or, if_pos hstop] at hcall
                    exact (Option.some.inj (Except.ok.inj hcall)).symm
              · rw [not_or, Bool.not_eq_true] at hreturns
                rw [turns_again hread hreturns.1 (anyOf_eq c) hreturns.2 _ _ (by simp)] at hcall
                cases hcall
    · cases hcall
  · rintro ⟨hsmall, rfl, c, hread, hreturns⟩
    refine ⟨1, ?_⟩
    rw [span, hlength, if_pos hsmall, ok_bind, turns]
    dsimp only
    rw [hread, ok_bind]
    split
    · rfl
    · rename_i hc
      rw [anyOf_eq, ok_bind, Bool.false_or, if_pos (hreturns.resolve_left hc)]
      rfl

theorem prefixLength_eq_one_iff (P : UInt8 → Prop) [DecidablePred P] (s : List UInt8) :
    prefixLength P s = 1 ↔ OneLong P s := by
  rcases s with - | ⟨c, - | ⟨d, rest⟩⟩
  · simp [prefixLength, OneLong]
  · by_cases hc : P c <;> simp [prefixLength, OneLong, hc]
  · by_cases hc : P c <;> by_cases hd : P d <;> simp [prefixLength, OneLong, hc, hd]

theorem readAt_second {rest : List UInt8} :
    readAt (stringCells (c :: rest) spare) 1 = .ok (rest.head?.getD 0) := by
  cases rest with
  | nil => rfl
  | cons d rest => rfl

theorem span_prefix (hs : 0 ∉ s) (hset : 0 ∉ set) (P : UInt8 → Prop) [DecidablePred P]
    (hstop : ∀ c, stop (decide (c ∈ set)) = true ↔ ¬ P c) :
    Gives (span stop (stringCells s spare) (stringCells set spare')) (prefixLength P s) ↔
      set.length < 2 ^ 31 ∧ OneLong P s := by
  rw [span_gives hset, prefixLength_eq_one_iff]
  simp only [hstop]
  constructor
  · rintro ⟨hsmall, hone, -⟩
    exact ⟨hsmall, hone⟩
  · rintro ⟨hsmall, hone⟩
    refine ⟨hsmall, hone, ?_⟩
    obtain ⟨c, rest, rfl, -, hbehind⟩ := hone
    refine ⟨_, readAt_second, ?_⟩
    cases rest with
    | nil => exact .inl rfl
    | cons d rest => exact .inr (hbehind d rfl)

theorem strcspn_eq (hs : 0 ∉ s) (hset : 0 ∉ set) :
    Gives (strcspn (stringCells s spare) (stringCells set spare'))
        (prefixLength (fun c => c ∉ set) s) ↔
      set.length < 2 ^ 31 ∧ OneLong (fun c => c ∉ set) s :=
  span_prefix hs hset _ fun c => by simp

theorem strspn_eq (hs : 0 ∉ s) (hset : 0 ∉ set) :
    Gives (strspn (stringCells s spare) (stringCells set spare'))
        (prefixLength (fun c => c ∈ set) s) ↔
      set.length < 2 ^ 31 ∧ OneLong (fun c => c ∈ set) s :=
  span_prefix hs hset _ fun c => by simp

end Lemmas

/-- Both functions return one or do not return, so they are right where the prefix is one
character long. -/
theorem spans_iff (s set : List UInt8) (spare spare' : Cells) (hs : 0 ∉ s) (hset : 0 ∉ set) :
    (Gives (strcspn (stringCells s spare) (stringCells set spare'))
        (prefixLength (fun c => c ∉ set) s) ↔
      set.length < 2 ^ 31 ∧ OneLong (fun c => c ∉ set) s) ∧
    (Gives (strspn (stringCells s spare) (stringCells set spare'))
        (prefixLength (fun c => c ∈ set) s) ↔
      set.length < 2 ^ 31 ∧ OneLong (fun c => c ∈ set) s) :=
  ⟨strcspn_eq hs hset, strspn_eq hs hset⟩

/-- The strings `ab` and `ba`, and the set of `b`. -/
theorem spans_of_b :
    Gives (strcspn (stringCells [97, 98] []) (stringCells [98] [])) 1 ∧
      Gives (strspn (stringCells [98, 97] []) (stringCells [98] [])) 1 :=
  ⟨(spans_iff [97, 98] [98] [] [] (by decide) (by decide)).1.mpr
      ⟨by decide, 97, [98], rfl, by decide, by simp⟩,
    (spans_iff [98, 97] [98] [] [] (by decide) (by decide)).2.mpr
      ⟨by decide, 98, [97], rfl, by decide, by simp⟩⟩

/-- In `ab` there is no `c`, but the search for one does not end; and the empty string has an
empty prefix, but the search begins behind it. -/
theorem spans_fail :
    ¬ Gives (strcspn (stringCells [97, 98] []) (stringCells [99] []))
        (prefixLength (fun c => c ∉ [99]) [97, 98]) ∧
      ¬ Gives (strspn (stringCells [] []) (stringCells [97] []))
        (prefixLength (fun c => c ∈ [97]) []) := by
  constructor
  · rw [strcspn_eq (by decide) (by decide), ← prefixLength_eq_one_iff]
    decide
  · rw [strspn_eq (by decide) (by decide), ← prefixLength_eq_one_iff]
    decide

end Gramado.Libk.Spans
