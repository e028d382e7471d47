import Gramado.Library.Copying

/-! A copy of some places that is to show what their originals have. -/

namespace Gramado.Library.Mirror

open Library.Copying

variable {α : Type*} {base distance n : ℕ} {m m' m'' : ℕ → α} {S T : Set ℕ}

def Written (base : ℕ) (S : Set ℕ) (m m' : ℕ → α) : Prop :=
  ∀ a, (∀ o ∈ S, a ≠ base + o) → m' a = m a

theorem written_refl (base : ℕ) (S : Set ℕ) (m : ℕ → α) : Written base S m m := fun _ _ => rfl

theorem Written.trans (h : Written base S m m') (h' : Written base S m' m'') :
    Written base S m m'' :=
  fun a ha => (h' a ha).trans (h a ha)

theorem Written.mono (h : Written base S m m') (hST : S ⊆ T) : Written base T m m' :=
  fun a ha => h a fun o ho => ha o (hST ho)

/-- The first places from the base have what is a distance behind them, outside the set. -/
def Mirrors (base distance n : ℕ) (S : Set ℕ) (m : ℕ → α) : Prop :=
  ∀ o < n, o ∉ S → m (base + o) = m (base + distance + o)

theorem Mirrors.mono (h : Mirrors base distance n S m) (hST : ∀ o < n, o ∈ S → o ∈ T) :
    Mirrors base distance n T m :=
  fun o ho hout => h o ho fun hin => hout (hST o ho hin)

theorem Written.behind (h : Written base S m m') (hS : ∀ o ∈ S, o < distance) (o : ℕ) :
    m' (base + distance + o) = m (base + distance + o) := by
  apply h
  intro s hs heq
  have := hS s hs
  omega

theorem Written.outside (h : Written base S m m') {o : ℕ} (ho : o ∉ S) :
    m' (base + o) = m (base + o) := by
  apply h
  intro s hs heq
  exact ho (by rwa [show o = s by omega])

theorem Mirrors.written (h : Mirrors base distance n S m) (hwritten : Written base T m m')
    (hT : ∀ o ∈ T, o < distance) : Mirrors base distance n (S ∪ T) m' := by
  intro o ho hout
  rw [Set.mem_union, not_or] at hout
  rw [hwritten.outside hout.2, hwritten.behind hT, h o ho hout.1]

theorem Mirrors.copied (h : Mirrors base distance n S m) (hcopied : Copied base distance T m m')
    (hT : ∀ o ∈ T, o < distance) : Mirrors base distance n (S \ T) m' := by
  intro o ho hout
  have hwritten : Written base T m m' := hcopied.kept
  rw [hwritten.behind hT]
  by_cases hin : o ∈ T
  · exact hcopied.copied o hin
  · rw [hwritten.outside hin]
    exact h o ho fun hS => hout ⟨hS, hin⟩

end Gramado.Library.Mirror
