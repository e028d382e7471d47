import Gramado.Library.CheckedRead

/-! Loops that count up from zero, and what holds after them. -/

namespace Gramado.Library.Counting

open Library.CheckedRead

variable {ε σ : Type} {body : σ → Nat → Except ε σ} {n : Nat} {s : σ}

def count (n : Nat) (body : σ → Nat → Except ε σ) (s : σ) : Except ε σ :=
  (List.range n).foldlM body s

@[simp] theorem count_zero : count 0 body s = .ok s := rfl

theorem count_succ (n : Nat) : count (n + 1) body s = count n body s >>= fun s => body s n := by
  simp [count, List.range_succ, List.foldlM_append]

theorem ensures_count (Inv : Nat → σ → Prop) (hs : Inv 0 s)
    (hbody : ∀ i < n, ∀ s, Inv i s → Ensures (body s i) (Inv (i + 1))) :
    Ensures (count n body s) (Inv n) := by
  induction n with
  | zero => exact ensures_ok hs
  | succ n ih =>
      rw [count_succ]
      refine Ensures.bind (ih fun i hi => hbody i (Nat.lt_succ_of_lt hi)) ?_
      exact hbody n (Nat.lt_succ_self n)

theorem returns_count (Inv : Nat → σ → Prop) (hs : Inv 0 s)
    (hbody : ∀ i < n, ∀ s, Inv i s → Returns (body s i) (Inv (i + 1))) :
    Returns (count n body s) (Inv n) := by
  induction n with
  | zero => simpa using hs
  | succ n ih =>
      rw [count_succ, returns_bind]
      apply (ih fun i hi => hbody i (Nat.lt_succ_of_lt hi)).mono
      exact hbody n (Nat.lt_succ_self n)

end Gramado.Library.Counting
