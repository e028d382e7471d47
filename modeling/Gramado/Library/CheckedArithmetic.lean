import Mathlib.Tactic.Common

/-! Computations with words that remember whether a subtraction wrapped around. -/

namespace Gramado.Library.CheckedArithmetic

variable {α β : Type u}

/-- A value, and whether every subtraction on the way to it had a result. -/
structure Tracked (α : Type u) where
  value : α
  fits : Bool

namespace Tracked

instance : Monad Tracked where
  pure a := ⟨a, true⟩
  bind x f := ⟨(f x.value).value, x.fits && (f x.value).fits⟩

instance : LawfulMonad Tracked :=
  LawfulMonad.mk' Tracked
    (by intro _ x; simp [Functor.map])
    (by intro _ _ x f; simp [bind, pure])
    (by intro _ _ _ x f g; simp [bind, Bool.and_assoc])

def sub [Sub α] [LE α] [DecidableLE α] (a b : α) : Tracked α :=
  ⟨a - b, decide (b ≤ a)⟩

@[simp] theorem value_pure (a : α) : (pure a : Tracked α).value = a := by
  simp [pure]

@[simp] theorem fits_pure (a : α) : (pure a : Tracked α).fits = true := by
  simp [pure]

@[simp] theorem value_bind (x : Tracked α) (f : α → Tracked β) :
    (x >>= f).value = (f x.value).value := by
  simp [bind]

@[simp] theorem fits_bind (x : Tracked α) (f : α → Tracked β) :
    (x >>= f).fits = true ↔ x.fits = true ∧ (f x.value).fits = true := by
  simp [bind]

@[simp] theorem value_map (f : α → β) (x : Tracked α) : (f <$> x).value = f x.value := by
  rw [map_eq_pure_bind, value_bind, value_pure]

@[simp] theorem fits_map (f : α → β) (x : Tracked α) : (f <$> x).fits = x.fits := by
  rw [Bool.eq_iff_iff, map_eq_pure_bind, fits_bind]
  simp only [fits_pure, and_true]

@[simp] theorem value_sub [Sub α] [LE α] [DecidableLE α] (a b : α) : (sub a b).value = a - b := by
  simp [sub]

@[simp] theorem fits_sub [Sub α] [LE α] [DecidableLE α] (a b : α) :
    (sub a b).fits = true ↔ b ≤ a := by
  simp [sub]

theorem value_ite (c : Prop) [Decidable c] (x y : Tracked α) :
    (if c then x else y).value = if c then x.value else y.value :=
  apply_ite value c x y

end Tracked

end Gramado.Library.CheckedArithmetic
