import Mathlib.Order.Interval.Set.Basic
import Mathlib.Tactic.Common

/-! Copies from one part of a memory to another one in front of it. -/

namespace Gramado.Library.Copying

variable {α : Type*} {base distance : ℕ} {m m' m'' : ℕ → α} {S T : Set ℕ}

/-- The places of the set, counted from the base, have what was a distance behind them, and no
other place has changed. -/
structure Copied (base distance : ℕ) (S : Set ℕ) (m m' : ℕ → α) : Prop where
  copied : ∀ o ∈ S, m' (base + o) = m (base + distance + o)
  kept : ∀ a, (∀ o ∈ S, a ≠ base + o) → m' a = m a

theorem copied_empty (base distance : ℕ) (m : ℕ → α) : Copied base distance ∅ m m :=
  ⟨fun _ h => h.elim, fun _ _ => rfl⟩

theorem Copied.congr (h : Copied base distance S m m') (hset : S = T) :
    Copied base distance T m m' :=
  hset ▸ h

theorem Copied.trans (h : Copied base distance S m m') (h' : Copied base distance T m' m'')
    (hread : ∀ o ∈ T, o + distance ∉ S) : Copied base distance (S ∪ T) m m'' := by
  constructor
  · intro o ho
    by_cases hT : o ∈ T
    · rw [h'.copied o hT]
      apply h.kept
      rintro s hs heq
      apply hread o hT
      rwa [show o + distance = s by omega]
    · rw [h'.kept]
      · exact h.copied o (ho.resolve_right hT)
      · rintro t ht heq
        exact hT (by rwa [show o = t by omega])
  · intro a ha
    rw [h'.kept a fun o ho => ha o (.inr ho), h.kept a fun o ho => ha o (.inl ho)]

def copyCell (size dst src : ℕ) (m : ℕ → α) : ℕ → α :=
  fun a => if dst ≤ a ∧ a < dst + size then m (src + (a - dst)) else m a

def copyCells (size : ℕ) : ℕ → ℕ → ℕ → (ℕ → α) → ℕ → α
  | 0, _, _, m => m
  | n + 1, dst, src, m => copyCells size n (dst + size) (src + size) (copyCell size dst src m)

theorem copied_copyCell (size o : ℕ) (m : ℕ → α) : Copied base distance (Set.Ico o (o + size)) m
      (copyCell size (base + o) (base + distance + o) m) := by
  constructor
  · rintro k ⟨hlow, hhigh⟩
    rw [copyCell, if_pos (by omega)]
    congr 1
    omega
  · intro a ha
    rw [copyCell, if_neg]
    rintro ⟨hlow, hhigh⟩
    exact ha (a - base) ⟨by omega, by omega⟩ (by omega)

theorem copied_copyCells (size n o : ℕ) (m : ℕ → α) :
    Copied base distance (Set.Ico o (o + n * size)) m
      (copyCells size n (base + o) (base + distance + o) m) := by
  induction n generalizing o m with
  | zero =>
      apply (copied_empty base distance m).congr
      rw [Nat.zero_mul, Nat.add_zero, Set.Ico_self]
  | succ n ih =>
      have hrest : Copied base distance (Set.Ico (o + size) (o + size + n * size))
          (copyCell size (base + o) (base + distance + o) m)
          (copyCells size (n + 1) (base + o) (base + distance + o) m) := by
        rw [copyCells, Nat.add_assoc base o size, Nat.add_assoc (base + distance) o size]
        exact ih (o + size) _
      refine ((copied_copyCell size o m).trans hrest ?_).congr ?_
      · rintro k ⟨hlow, _⟩ ⟨_, hhigh⟩
        omega
      · ext k
        simp only [Set.mem_union, Set.mem_Ico, Nat.add_mul, Nat.one_mul]
        omega

end Gramado.Library.Copying
