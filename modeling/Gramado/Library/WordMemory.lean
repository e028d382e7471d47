import Mathlib.Tactic.Common

/-! A memory of words of eight bytes, and the loops that fill an array in it. -/

namespace Gramado.Library.WordMemory

abbrev Memory := Nat → Nat

/-- Two memories agree but for the words at the addresses from `low` up to `high`. -/
def AgreeOutside (low high : Nat) (mem mem' : Memory) : Prop :=
  ∀ a, a < low ∨ high ≤ a → mem' a = mem a

theorem agreeOutside_refl (low high : Nat) (mem : Memory) : AgreeOutside low high mem mem :=
  fun _ _ => rfl

variable {low high : Nat} {mem mem' : Memory}

theorem AgreeOutside.trans {mem'' : Memory} (h : AgreeOutside low high mem mem')
    (h' : AgreeOutside low high mem' mem'') :
    AgreeOutside low high mem mem'' :=
  fun a ha => (h' a ha).trans (h a ha)

theorem AgreeOutside.mono {low' high' : Nat} (h : AgreeOutside low high mem mem')
    (hlow : low' ≤ low) (hhigh : high ≤ high') :
    AgreeOutside low' high' mem mem' := by
  intro a ha
  exact h a (by omega)

theorem agreeOutside_update (mem : Memory) {a : Nat} (v : Nat) (hlow : low ≤ a) (hhigh : a < high) :
    AgreeOutside low high mem (Function.update mem a v) := by
  intro b hb
  exact Function.update_of_ne (by omega) _ _

/-- The loop that stores the words of an array of `n` words at `base`, each computed from the
memory at that moment. -/
def storeLoop (word : Memory → Nat → Nat) (base : Nat) : Nat → Memory → Memory
  | 0, mem => mem
  | n + 1, mem => fun a =>
      if a = base + 8 * n then word (storeLoop word base n mem) n else storeLoop word base n mem a

theorem storeLoop_succ (word : Memory → Nat → Nat) (base n : Nat) (mem : Memory) :
    storeLoop word base (n + 1) mem = Function.update (storeLoop word base n mem) (base + 8 * n)
      (word (storeLoop word base n mem) n) := by
  funext a
  rw [storeLoop, Function.update_apply]

theorem storeLoop_agree (word : Memory → Nat → Nat) (base n : Nat) (mem : Memory) :
    AgreeOutside base (base + 8 * n) mem (storeLoop word base n mem) := by
  induction n with
  | zero => exact agreeOutside_refl _ _ _
  | succ n ih =>
      rw [storeLoop_succ]
      apply (ih.mono (Nat.le_refl _) (by omega)).trans
      exact agreeOutside_update _ _ (by omega) (by omega)

theorem storeLoop_word {word : Memory → Nat → Nat} {base n : Nat}
    (hword : ∀ mem' i, i < n → AgreeOutside base (base + 8 * n) mem mem' →
      word mem' i = word mem i) {i : Nat} (hi : i < n) :
    storeLoop word base n mem (base + 8 * i) = word mem i := by
  have hfirst : ∀ k ≤ n, ∀ i < k, storeLoop word base k mem (base + 8 * i) = word mem i := by
    intro k hk
    induction k with
    | zero =>
        intro i hi
        omega
    | succ k ih =>
        intro i hi
        rw [storeLoop_succ]
        rcases Nat.lt_succ_iff_lt_or_eq.mp hi with hlt | rfl
        · rw [Function.update_of_ne (by omega)]
          exact ih (by omega) i hlt
        · rw [Function.update_self]
          exact hword _ i (by omega)
            ((storeLoop_agree word base i mem).mono (Nat.le_refl _) (by omega))
  exact hfirst n (Nat.le_refl n) i hi

end Gramado.Library.WordMemory
