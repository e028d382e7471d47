import Mathlib.Data.List.Forall2

namespace Gramado.Library.Run

variable {σ ι ο ε : Type*}

/-- Run a step function over a list of inputs. A run gives the outputs of its steps
and its last state, or the failure that stopped it. -/
def run (step : σ → ι → Except ε (ο × σ)) : σ → List ι → Except ε (List ο × σ)
  | s, [] => .ok ([], s)
  | s, i :: is =>
      match step s i with
      | .error e => .error e
      | .ok (o, t) =>
          match run step t is with
          | .error e => .error e
          | .ok (os, u) => .ok (o :: os, u)

/-- Every step that the run takes starts from a state and an input that satisfy `guard`. -/
def Guarded (step : σ → ι → Except ε (ο × σ)) (guard : σ → ι → Prop) : σ → List ι → Prop
  | _, [] => True
  | s, i :: is =>
      guard s i ∧
        match step s i with
        | .error _ => True
        | .ok (_, t) => Guarded step guard t is

variable {step : σ → ι → Except ε (ο × σ)}

variable {s u t : σ} {i : ι} {is : List ι} {os : List ο} {guard guard' : σ → ι → Prop} {o : ο}
  {α : Type*}

theorem run_cons_ok (h : run step s (i :: is) = .ok (os, u)) :
    ∃ o t os', step s i = .ok (o, t) ∧ run step t is = .ok (os', u) ∧ os = o :: os' := by
  rw [run] at h
  split at h
  · cases h
  · rename_i o t hstep
    split at h
    · cases h
    · rename_i os' u' hrun
      cases h
      exact ⟨o, t, os', hstep, hrun, rfl⟩

instance instDecidableGuarded {guard : σ → ι → Prop} [∀ s i, Decidable (guard s i)] :
    ∀ (s : σ) (is : List ι), Decidable (Guarded step guard s is)
  | _, [] => inferInstanceAs (Decidable True)
  | s, i :: is =>
      match hstep : step s i with
      | .error _ => decidable_of_iff (guard s i) (by simp only [Guarded, hstep, and_true])
      | .ok (_, t) =>
          have : Decidable (Guarded step guard t is) := instDecidableGuarded t is
          decidable_of_iff (guard s i ∧ Guarded step guard t is)
            (by simp only [Guarded, hstep])

theorem Guarded.tail (h : Guarded step guard s (i :: is)) (hstep : step s i = .ok (o, t)) :
    Guarded step guard t is := by
  have hrest := h.2
  rw [hstep] at hrest
  exact hrest

theorem guarded_nil (s : σ) : Guarded step guard s [] := trivial

theorem guarded_cons (hguard : guard s i) (hstep : step s i = .ok (o, t))
    (h : Guarded step guard t is) :
    Guarded step guard s (i :: is) := by
  rw [Guarded, hstep]
  exact ⟨hguard, h⟩

theorem guarded_singleton (h : guard s i) : Guarded step guard s [i] := by
  rw [Guarded]
  refine ⟨h, ?_⟩
  split
  · trivial
  · exact guarded_nil _

theorem guarded_true (s : σ) (is : List ι) : Guarded step (fun _ _ => True) s is := by
  induction is generalizing s with
  | nil => trivial
  | cons i is ih =>
      refine ⟨trivial, ?_⟩
      split
      · trivial
      · exact ih _

theorem guarded_of_forall (h : ∀ i ∈ is, ∀ s, guard s i) (s : σ) : Guarded step guard s is := by
  induction is generalizing s with
  | nil => trivial
  | cons i is ih =>
      refine ⟨h i List.mem_cons_self s, ?_⟩
      split
      · trivial
      · exact ih (fun j hj => h j (List.mem_cons_of_mem i hj)) _

theorem Guarded.imp (h : Guarded step guard s is) (himp : ∀ s i, guard s i → guard' s i) :
    Guarded step guard' s is := by
  induction is generalizing s with
  | nil => trivial
  | cons i is ih =>
      refine ⟨himp s i h.1, ?_⟩
      split
      · trivial
      · rename_i o t hstep
        exact ih (h.tail hstep)

theorem Guarded.and (h : Guarded step guard s is) (h' : Guarded step guard' s is) :
    Guarded step (fun s i => guard s i ∧ guard' s i) s is := by
  induction is generalizing s with
  | nil => trivial
  | cons i is ih =>
      refine ⟨⟨h.1, h'.1⟩, ?_⟩
      split
      · trivial
      · rename_i o t hstep
        exact ih (h.tail hstep) (h'.tail hstep)

theorem guarded_congr (Inv : σ → Prop) (hstep : ∀ s i o t, Inv s → step s i = .ok (o, t) → Inv t)
    (hiff : ∀ s i, Inv s → (guard s i ↔ guard' s i)) (hs : Inv s) (is : List ι) :
    Guarded step guard s is ↔ Guarded step guard' s is := by
  induction is generalizing s with
  | nil => exact Iff.rfl
  | cons i is ih =>
      rw [Guarded, Guarded]
      apply and_congr (hiff s i hs)
      split
      · exact Iff.rfl
      · rename_i o t hst
        exact ih (hstep s i o t hs hst)

theorem guarded_iff (Inv : σ → Prop) (hiff : ∀ s i, Inv s → (guard s i ↔ guard' s i))
    (hkeep : ∀ s i o t, Inv s → guard s i → step s i = .ok (o, t) → Inv t) (hs : Inv s)
    (is : List ι) :
    Guarded step guard s is ↔ Guarded step guard' s is := by
  induction is generalizing s with
  | nil => exact Iff.rfl
  | cons i is ih =>
      rw [Guarded, Guarded]
      have hhead := hiff s i hs
      constructor
      · rintro ⟨hguard, hrest⟩
        refine ⟨hhead.mp hguard, ?_⟩
        split
        · trivial
        · rename_i o t hst
          rw [hst] at hrest
          exact (ih (hkeep s i o t hs hguard hst)).mp hrest
      · rintro ⟨hguard, hrest⟩
        refine ⟨hhead.mpr hguard, ?_⟩
        split
        · trivial
        · rename_i o t hst
          rw [hst] at hrest
          exact (ih (hkeep s i o t hs (hhead.mpr hguard) hst)).mpr hrest

theorem guarded_iff_of_run (Inv : σ → Prop)
    (hiff : ∀ s i o t, Inv s → step s i = .ok (o, t) → (guard s i ↔ guard' s i))
    (hkeep : ∀ s i o t, Inv s → guard s i → step s i = .ok (o, t) → Inv t) (hs : Inv s)
    (hrun : run step s is = .ok (os, u)) :
    Guarded step guard s is ↔ Guarded step guard' s is := by
  induction is generalizing s os with
  | nil => exact Iff.rfl
  | cons i is ih =>
      obtain ⟨o, t, os', hst, htail, _⟩ := run_cons_ok hrun
      have hhead := hiff s i o t hs hst
      constructor
      · intro h
        have ht := hkeep s i o t hs h.1 hst
        exact guarded_cons (hhead.mp h.1) hst ((ih ht htail).mp (h.tail hst))
      · intro h
        have hguard := hhead.mpr h.1
        exact guarded_cons hguard hst ((ih (hkeep s i o t hs hguard hst) htail).mpr (h.tail hst))

theorem run_invariant (Inv : σ → Prop)
    (hstep : ∀ s i o t, Inv s → guard s i → step s i = .ok (o, t) → Inv t) (hs : Inv s)
    (hguard : Guarded step guard s is) (hrun : run step s is = .ok (os, u)) : Inv u := by
  induction is generalizing s os with
  | nil =>
      cases hrun
      exact hs
  | cons i is ih =>
      obtain ⟨o, t, os', hst, htail, _⟩ := run_cons_ok hrun
      exact ih (hstep s i o t hs hguard.1 hst) (hguard.tail hst) htail

theorem run_forall₂ (Inv : σ → Prop) (P : ι → ο → Prop)
    (hstep : ∀ s i o t, Inv s → guard s i → step s i = .ok (o, t) → P i o ∧ Inv t) (hs : Inv s)
    (hguard : Guarded step guard s is) (hrun : run step s is = .ok (os, u)) :
    List.Forall₂ P is os := by
  induction is generalizing s os with
  | nil =>
      cases hrun
      exact .nil
  | cons i is ih =>
      obtain ⟨o, t, os', hst, htail, rfl⟩ := run_cons_ok hrun
      obtain ⟨hP, ht⟩ := hstep s i o t hs hguard.1 hst
      exact .cons hP (ih ht (hguard.tail hst) htail)

theorem Guarded.of_invariant (Inv : σ → Prop)
    (hstep : ∀ s i o t, Inv s → guard s i → step s i = .ok (o, t) → Inv t)
    (himp : ∀ s i, Inv s → guard s i → guard' s i) (hs : Inv s) (hguard : Guarded step guard s is) :
    Guarded step guard' s is := by
  induction is generalizing s with
  | nil => trivial
  | cons i is ih =>
      refine ⟨himp s i hs hguard.1, ?_⟩
      split
      · trivial
      · rename_i o t hst
        exact ih (hstep s i o t hs hguard.1 hst) (hguard.tail hst)

theorem guarded_outputs {P : ο → Prop} (hrun : run step s is = .ok (os, u)) (hP : ∀ o ∈ os, P o) :
    Guarded step (fun s i => ∀ o t, step s i = .ok (o, t) → P o) s is := by
  induction is generalizing s os with
  | nil => exact guarded_nil s
  | cons i is ih =>
      obtain ⟨o, t, os', hst, htail, rfl⟩ := run_cons_ok hrun
      refine guarded_cons ?_ hst (ih htail fun o' ho' => hP o' (List.mem_cons_of_mem o ho'))
      intro o' t' hst'
      rw [hst] at hst'
      cases hst'
      exact hP o List.mem_cons_self

theorem reached_iff {P : σ → Prop} (s : σ) (is : List ι) :
    (∀ front, front <+: is → ∀ os t, run step s front = .ok (os, t) → P t) ↔
      P s ∧ Guarded step (fun s i => ∀ o t, step s i = .ok (o, t) → P t) s is := by
  induction is generalizing s with
  | nil =>
      constructor
      · intro h
        exact ⟨h [] List.prefix_rfl [] s rfl, guarded_nil s⟩
      · rintro ⟨hs, -⟩ front hfront os t hrun
        rw [List.prefix_nil.mp hfront] at hrun
        cases hrun
        exact hs
  | cons i is ih =>
      constructor
      · intro h
        refine ⟨h [] List.nil_prefix [] s rfl, ?_⟩
        have hnext : ∀ o t, step s i = .ok (o, t) →
            P t ∧ Guarded step (fun s i => ∀ o t, step s i = .ok (o, t) → P t) t is := by
          intro o t hst
          rw [← ih t]
          intro front hfront os u hrun
          refine h (i :: front) (List.prefix_cons_iff.mpr (.inr ⟨front, rfl, hfront⟩)) (o :: os) u ?_
          rw [run, hst]
          simp only [hrun]
        rw [Guarded]
        refine ⟨fun o t hst => (hnext o t hst).1, ?_⟩
        split
        · trivial
        · rename_i o t hst
          exact (hnext o t hst).2
      · rintro ⟨hs, hguard⟩ front hfront os u hrun
        rcases List.prefix_cons_iff.mp hfront with rfl | ⟨rest, rfl, hrest⟩
        · cases hrun
          exact hs
        · obtain ⟨o, t, os', hst, htail, -⟩ := run_cons_ok hrun
          exact (ih t).mpr ⟨hguard.1 o t hst, hguard.tail hst⟩ rest hrest os' u htail

theorem length_outputs (hrun : run step s is = .ok (os, u)) : is.length = os.length := by
  induction is generalizing s os with
  | nil =>
      cases hrun
      rfl
  | cons i is ih =>
      obtain ⟨o, t, os', _, htail, rfl⟩ := run_cons_ok hrun
      rw [List.length_cons, List.length_cons, ih htail]

theorem run_total (Inv : σ → Prop)
    (hstep : ∀ s i, Inv s → guard s i → ∃ o t, step s i = .ok (o, t) ∧ Inv t) (hs : Inv s)
    (hguard : Guarded step guard s is) :
    ∃ os u, run step s is = .ok (os, u) ∧ Inv u := by
  induction is generalizing s with
  | nil => exact ⟨[], s, rfl, hs⟩
  | cons i is ih =>
      obtain ⟨o, t, hst, ht⟩ := hstep s i hs hguard.1
      obtain ⟨os, u, hrun, hu⟩ := ih ht (hguard.tail hst)
      refine ⟨o :: os, u, ?_, hu⟩
      rw [run, hst]
      simp only [hrun]

/-- Everything that a run of inputs and outputs contributes, in the order of its steps. -/
def gather {α : Type*} (f : ι → ο → List α) (is : List ι) (os : List ο) : List α :=
  (List.zipWith f is os).flatten

@[simp] theorem gather_nil (f : ι → ο → List α) : gather f [] [] = [] := rfl

@[simp] theorem gather_cons (f : ι → ο → List α) (i : ι) (is : List ι) (o : ο) (os : List ο) :
    gather f (i :: is) (o :: os) = f i o ++ gather f is os := rfl

theorem forall₂_gather {β : Type*} {R : α → β → Prop} {f : ι → ο → List α} {g : ι → ο → List β}
    (h : List.Forall₂ (fun i o => List.Forall₂ R (f i o) (g i o)) is os) :
    List.Forall₂ R (gather f is os) (gather g is os) := by
  induction h with
  | nil => exact .nil
  | cons hstep _ ih =>
      rw [gather_cons, gather_cons]
      exact List.rel_append hstep ih

theorem gather_outputs {f : ο → List α} (h : is.length = os.length) :
    gather (fun _ o => f o) is os = (os.map f).flatten := by
  induction is generalizing os with
  | nil =>
      obtain rfl : os = [] := List.length_eq_zero_iff.mp h.symm
      rfl
  | cons i is ih =>
      cases os with
      | nil => cases h
      | cons o os =>
          rw [gather_cons, ih (Nat.succ.inj h)]
          rfl

theorem run_fifo (Inv : σ → Prop)
    (contents : σ → List α) (put taken : ι → ο → List α)
    (hstep : ∀ s i o t, Inv s → guard s i → step s i = .ok (o, t) →
      contents s ++ put i o = taken i o ++ contents t ∧ Inv t)
    (hs : Inv s)
    (hguard : Guarded step guard s is) (hrun : run step s is = .ok (os, u)) :
    contents s ++ gather put is os = gather taken is os ++ contents u := by
  induction is generalizing s os with
  | nil =>
      cases hrun
      simp
  | cons i is ih =>
      obtain ⟨o, t, os', hst, htail, rfl⟩ := run_cons_ok hrun
      obtain ⟨hqueue, ht⟩ := hstep s i o t hs hguard.1 hst
      have hrest := ih ht (hguard.tail hst) htail
      calc
        contents s ++ gather put (i :: is) (o :: os')
            = (contents s ++ put i o) ++ gather put is os' := by
              rw [gather_cons, List.append_assoc]
        _ = taken i o ++ (contents t ++ gather put is os') := by
              rw [hqueue, List.append_assoc]
        _ = gather taken (i :: is) (o :: os') ++ contents u := by
              rw [hrest, gather_cons, List.append_assoc]

theorem foldlM_invariant {visit : σ → ι → Except ε σ} (Inv : List ι → σ → Prop)
    (hvisit : ∀ visited i rest s, is = visited ++ i :: rest → Inv visited s →
      ∃ t, visit s i = .ok t ∧ Inv (visited ++ [i]) t)
    (hs : Inv [] s) : ∃ t, is.foldlM visit s = .ok t ∧ Inv is t := by
  suffices hrest : ∀ rest visited s, is = visited ++ rest → Inv visited s →
      ∃ t, rest.foldlM visit s = .ok t ∧ Inv is t from hrest is [] s rfl hs
  intro rest
  induction rest with
  | nil =>
      intro visited s his hinv
      rw [List.append_nil] at his
      rw [his]
      exact ⟨s, rfl, hinv⟩
  | cons i rest ih =>
      intro visited s his hinv
      obtain ⟨t, hstep, ht⟩ := hvisit visited i rest s his hinv
      obtain ⟨u, hloop, hu⟩ := ih (visited ++ [i]) t (by simp [his]) ht
      refine ⟨u, ?_, hu⟩
      rw [List.foldlM_cons, hstep]
      exact hloop

end Gramado.Library.Run
