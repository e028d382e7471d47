import Gramado.Library.Run

/-! Runs of a program beside the runs of what it is meant to do. -/

namespace Gramado.Library.Refinement

open Library.Run

variable {σ τ ι ο ε : Type*}

/-- What a machine that never fails puts out for a list of inputs, and its last state. -/
def behaviour (spec : τ → ι → ο × τ) : τ → List ι → List ο × τ
  | a, [] => ([], a)
  | a, i :: is =>
      let rest := behaviour spec (spec a i).2 is
      ((spec a i).1 :: rest.1, rest.2)

variable {step : σ → ι → Except ε (ο × σ)} {spec : τ → ι → ο × τ} {guard : σ → ι → Prop}

theorem run_refines (R : σ → τ → Prop)
    (hstep : ∀ s a i, R s a → guard s i → ∃ t, step s i = .ok ((spec a i).1, t) ∧ R t (spec a i).2)
    {s : σ} {a : τ} {is : List ι} (hs : R s a) (hguard : Guarded step guard s is) :
    ∃ t, run step s is = .ok ((behaviour spec a is).1, t) ∧ R t (behaviour spec a is).2 := by
  induction is generalizing s a with
  | nil => exact ⟨s, rfl, hs⟩
  | cons i is ih =>
      obtain ⟨t, hst, ht⟩ := hstep s a i hs hguard.1
      obtain ⟨u, hrun, hu⟩ := ih ht (hguard.tail hst)
      refine ⟨u, ?_, hu⟩
      rw [run, hst]
      dsimp only
      rw [hrun]
      rfl

end Gramado.Library.Refinement
