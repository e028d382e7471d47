import Gramado.Ke.Passes

/-! Which threads the task switch dispatches once the quantum of the current one is over. -/

namespace Gramado.Ke.Dispatch

open Ke.Table Ke.RoundRobin Ke.Stages Ke.TaskSwitch Ke.Doomed Ke.Passes

def AliveAt (s : KernelState) (i : Nat) : Prop :=
  ∀ t, s.threads.threadList i = some t → ¬ IsDoomed t

def Selects (s : KernelState) (out : Switched) (u : KernelState) : Prop :=
  Each Kept s u ∧ ∃ i, out = .dispatched i ∧ AliveAt s i

variable {s u v : KernelState} {i q fuel : Nat} {out : Switched} {t : Thread} {tid : Int}

theorem AliveAt.passed (halive : AliveAt s i) (h : Each Passed s u) : AliveAt u i := by
  intro t' ht' hdoomed
  obtain ⟨t, ht, hpassed⟩ := h.to_some ht'
  exact halive t ht (hpassed.doomed hdoomed)

theorem AliveAt.of_kept (halive : AliveAt u i) (h : Each Kept s u) : AliveAt s i := by
  intro t ht hdoomed
  obtain ⟨t', ht', hkept⟩ := h.of_some ht
  exact halive t' ht' (hkept hdoomed).1

theorem each_kept_of_passed (h : Each Passed s u) : Each Kept s u :=
  h.mono fun _ _ hpassed => hpassed.kept

theorem each_kept_trans {t : KernelState} (hst : Each Kept s t) (htu : Each Kept t u) :
    Each Kept s u :=
  hst.trans (fun _ _ _ hab hbc => hab.trans hbc) htu

theorem Selects.of_kept {t : KernelState} (hst : Each Kept s t) (htu : Selects t out u) :
    Selects s out u := by
  obtain ⟨hkept, i, hout, halive⟩ := htu
  exact ⟨each_kept_trans hst hkept, i, hout, halive.of_kept hst⟩

theorem each_kept_modify {f : Thread → Thread} {hf : ∀ t, (f t).tid = t.tid}
    (halive : AliveAt s i) :
    Each Kept s (s.modify i f hf) :=
  Each.modify Kept.refl s i f hf fun t ht hdoomed => absurd hdoomed (halive t ht)

theorem selectProcess_ok {tgid : Int} (h : selectProcess s tgid = .ok u) :
    ∃ pid, u = { s with currentProcess := pid } := by
  unfold selectProcess at h
  split at h
  · cases h
  split at h
  · cases h
  split at h
  · cases h
  split at h
  · cases h
  split at h
  · cases h
  · cases h
    exact ⟨_, rfl⟩

theorem dispatcher_ok (h : dispatcher s = .ok (i, u)) :
    i = s.currentThread.toNat ∧ ∃ t, s.threads.threadList i = some t ∧ t.state = .ready ∧
      u = s.modify i runThread fun _ => rfl := by
  unfold dispatcher at h
  split at h
  · cases h
  dsimp only at h
  split at h
  · cases h
  rename_i t ht
  split at h
  · cases h
  split at h
  · cases h
  rename_i hready
  cases h
  exact ⟨rfl, t, ht, not_not.mp hready, rfl⟩

theorem dispatchTarget_ok {target : Nat} (h : dispatchTarget s i t = .ok (target, v)) :
    t.state = .ready ∧ target = i ∧ s = v ∨ t.state ≠ .ready ∧ s.initThread = some target ∧
        v = s.modify target readyInit fun _ => rfl := by
  unfold dispatchTarget at h
  split at h
  · rename_i hready
    cases h
    exact .inl ⟨hready, rfl, rfl⟩
  rename_i hready
  split at h
  · cases h
  rename_i init hinit
  cases h
  exact .inr ⟨hready, hinit, rfl⟩

theorem dispatchCurrent_nonneg (h : dispatchCurrent s = .ok (out, u)) : 0 ≤ s.currentThread := by
  unfold dispatchCurrent at h
  split at h
  · cases h
  rename_i hrange
  exact not_lt.mp fun hnegative => hrange (.inl hnegative)

theorem dispatchCurrent_cases (h : dispatchCurrent s = .ok (out, u)) :
    ∃ i t f, i = s.currentThread.toNat ∧ out = .dispatched i ∧
      s.threads.threadList i = some t ∧ t.Valid ∧
      (t.state = .ready ∧ f = id ∨ t.state ≠ .ready ∧ s.initThread = some i ∧ f = readyInit) ∧
      u.threads.threadList =
        Function.update s.threads.threadList i (some (runThread (clampMax (f t)))) := by
  unfold dispatchCurrent at h
  split at h
  · cases h
  split at h
  · cases h
  rename_i t ht
  split at h
  · cases h
  rename_i hvalid
  split at h
  · cases h
  rename_i target v htarget
  split at h
  · cases h
  split at h
  · cases h
  rename_i i w hdispatch
  split at h
  · cases h
  rename_i x hprocess
  cases h
  obtain ⟨hi, t', ht', hready, rfl⟩ := dispatcher_ok hdispatch
  obtain ⟨pid, rfl⟩ := selectProcess_ok hprocess
  have hself : s.threads.threadList =
      Function.update s.threads.threadList s.currentThread.toNat (some t) :=
    (Function.update_eq_self_iff.mpr ht.symm).symm
  rcases dispatchTarget_ok htarget with ⟨hready', rfl, rfl⟩ | ⟨hnot, hinit, rfl⟩
  · change i = s.currentThread.toNat at hi
    subst hi
    have hclamp := modify_update hself clampMax fun _ => rfl
    exact ⟨_, t, id, rfl, rfl, ht, not_not.mp hvalid, .inl ⟨hready', rfl⟩,
      modify_update hclamp runThread fun _ => rfl⟩
  · change i = s.currentThread.toNat at hi
    subst hi
    have htarget' : target = s.currentThread.toNat := by
      by_contra hne
      have hlist := (threadList_modify (s.modify target readyInit fun _ => rfl).threads target
        clampMax (fun _ => rfl) s.currentThread.toNat).symm.trans ht'
      rw [if_neg (Ne.symm hne)] at hlist
      have hlist' := (threadList_modify s.threads target readyInit (fun _ => rfl)
        s.currentThread.toNat).symm.trans hlist
      rw [if_neg (Ne.symm hne), ht] at hlist'
      cases hlist'
      exact hnot hready
    subst htarget'
    have hreadied := modify_update hself readyInit fun _ => rfl
    have hclamp := modify_update hreadied clampMax fun _ => rfl
    exact ⟨_, t, readyInit, rfl, rfl, ht, not_not.mp hvalid, .inr ⟨hnot, hinit, rfl⟩,
      modify_update hclamp runThread fun _ => rfl⟩

theorem dispatchCurrent_spec
    (halive : ∀ t, s.threads.threadList s.currentThread.toNat = some t → t.Valid →
      t.state = .ready ∨ s.initThread = some s.currentThread.toNat → ¬ IsDoomed t)
    (h : dispatchCurrent s = .ok (out, u)) : Selects s out u := by
  obtain ⟨i, t, f, rfl, rfl, ht, hvalid, hcase, hlist⟩ := dispatchCurrent_cases h
  have hlive : ¬ IsDoomed t := halive t ht hvalid (hcase.imp And.left fun hinit => hinit.2.1)
  refine ⟨?_, _, rfl, ?_⟩
  · apply Each.of_map Kept.refl (f := fun t => runThread (clampMax (f t)))
    · intro j
      rw [hlist, ht, Function.update_apply]
      rfl
    · intro t' ht' hdoomed
      cases ht.symm.trans ht'
      exact absurd hdoomed hlive
  · intro t' ht'
    cases ht.symm.trans ht'
    exact hlive

def NoExitingReady (s : KernelState) : Prop :=
  ∀ i t, s.threads.threadList i = some t → t.Valid → t.state = .ready →
    t.deferred.exitInProgress = false

def NextReady (s : KernelState) : Prop :=
  ∃ t, nextThread s = some t ∧ t.Valid ∧ t.state = .ready

/-- Condition for the selection of a thread that goes through the scheduler. -/
structure SafeFallback (s : KernelState) : Prop where
  responder : pendingResponder s = none
  pass : s.scheduler.isLocked = false → SafePass s
  init : ∀ i, s.initThread = some i → AliveAt s i
  queue : s.scheduler.isLocked = false ∧ s.scheduler.policy = .rr ∨ NoExitingReady s

structure SafeSelect (s : KernelState) : Prop where
  responder : ∀ i, pendingResponder s = some i → AliveAt s i
  next : pendingResponder s = none → NextAlive s
  fallback : pendingResponder s = none → ¬ NextReady s → SafeFallback s

theorem nextAlive_of_noExiting (h : NoExitingReady s) : NextAlive s := by
  intro t ht hvalid hready hdoomed
  obtain ⟨i, _, hi⟩ := Option.bind_eq_some_iff.mp ht
  rcases hdoomed with hzombie | hdead | hexit
  · exact absurd (hready.symm.trans hzombie) (by decide)
  · exact absurd (hready.symm.trans hdead) (by decide)
  · exact absurd (hexit.symm.trans (h i t hi hvalid hready)) (by decide)

theorem noExitingReady_of_passed (h : Each Passed s u) (hs : NoExitingReady s) :
    NoExitingReady u := by
  intro i t' ht' hvalid hready
  obtain ⟨t, ht, hpassed⟩ := h.to_some ht'
  rw [hpassed.exit]
  cases hexit : t.deferred.exitInProgress with
  | false => rfl
  | true =>
      have hstate := (hpassed.kept (.inr (.inr hexit))).2 (.inl hready)
      have hnot := hs i t ht (hpassed.valid hvalid) (hstate.symm.trans hready)
      exact absurd (hexit.symm.trans hnot) (by decide)

theorem pendingResponder_none (hcontrols : SameControls s u)
    (hthreads : Each (fun t t' => (t'.Valid → t.Valid) ∧
      t'.hasPendingEvent = t.hasPendingEvent) s u)
    (hs : pendingResponder s = none) : pendingResponder u = none := by
  unfold pendingResponder at hs ⊢
  rw [hcontrols.responder, hcontrols.responderThread]
  split
  · rename_i huse
    rw [if_pos huse] at hs
    rw [Option.filter_eq_none_iff] at hs ⊢
    intro i hi hpending
    apply hs i hi
    split at hpending
    · cases hpending
    · rename_i t' ht'
      obtain ⟨t, ht, hvalid, hsame⟩ := hthreads.to_some ht'
      rw [decide_eq_true_eq, hsame] at hpending
      rw [ht, decide_eq_true_eq]
      exact ⟨hvalid hpending.1, hpending.2⟩
  · rfl

theorem pendingResponder_passed (h : PassStep s u) (hs : pendingResponder s = none) :
    pendingResponder u = none := by
  apply pendingResponder_none h.controls _ hs
  exact h.threads.mono fun _ _ hpassed => ⟨hpassed.valid, hpassed.pending⟩

theorem SafeSelect.of_fallback (h : SafeFallback s) (hs : NextAlive s) : SafeSelect s where
  responder i hi := by
    rw [h.responder] at hi
    cases hi
  next _ := hs
  fallback _ _ := h

theorem safeSelect_pass {init : Nat} (h : SafeFallback s) (hpass : SchedulerPass s u) :
    SafeSelect { u with currentThread := init } := by
  have hqueue : u.scheduler.isLocked = false ∧ u.scheduler.policy = .rr ∨ NoExitingReady u := by
    rw [hpass.pass.controls.locked, hpass.pass.controls.policy]
    exact h.queue.imp_right (noExitingReady_of_passed hpass.pass.threads)
  have hnone : pendingResponder u = none := pendingResponder_passed hpass.pass h.responder
  apply SafeSelect.of_fallback
  · refine ⟨hnone, fun _ => hpass.safe, ?_, hqueue⟩
    intro i hi
    rw [hpass.pass.controls.initThread] at hi
    exact (h.init i hi).passed hpass.pass.threads
  · rcases hqueue with ⟨_, hpolicy⟩ | hexiting
    · rw [hpass.pass.controls.policy] at hpolicy
      exact hpass.next hpolicy
    · exact nextAlive_of_noExiting hexiting

theorem readyTarget_some (h : readyTarget s = some tid) :
    ∃ q t, s.currentq = some q ∧ s.threads.threadList q = some t ∧ t.Valid ∧
      t.state = .ready ∧ tid = q := by
  unfold readyTarget at h
  split at h
  · cases h
  rename_i q hq
  split at h
  · cases h
  rename_i t ht
  split at h
  · rename_i hready
    cases h
    exact ⟨q, t, hq, ht, hready.1, hready.2, s.threads.tid_eq q t ht⟩
  · cases h

theorem readyTarget_none (hq : s.currentq = some q) (h : readyTarget s = none)
    (ht : s.threads.threadList q = some t) :
    ¬ (t.Valid ∧ t.state = .ready) := by
  intro hready
  unfold readyTarget at h
  rw [hq] at h
  dsimp only at h
  rw [ht] at h
  dsimp only at h
  rw [if_pos hready] at h
  cases h

theorem dispatchReady_spec (ht : s.threads.threadList q = some t) (halive : ¬ IsDoomed t)
    (h : dispatchCurrent { s with currentThread := q } = .ok (out, u)) : Selects s out u := by
  apply dispatchCurrent_spec (s := { s with currentThread := q }) _ h
  intro t' ht' _ _
  dsimp only at ht'
  rw [Int.toNat_natCast, ht] at ht'
  cases ht'
  exact halive

theorem selectNext_cases {selection : Selection} (h : selectNext s = .ok selection) :
    (∃ i, pendingResponder s = some i ∧ selection =
      .goAhead { s.modify i respondNow fun _ => rfl with currentq := some i }) ∨
    pendingResponder s = none ∧ ((∃ q i, s.currentq = some q ∧ nextOf s q = some i ∧
        selection = .goAhead { s with currentq := some i }) ∨
      (∃ q tid u, s.currentq = some q ∧ nextOf s q = none ∧ psScheduler s = .ok (tid, u) ∧
        selection = .dispatchCurrent { u with currentThread := tid })) := by
  unfold selectNext at h
  split at h
  · cases h
  split at h
  · rename_i i hi
    cases h
    exact .inl ⟨i, hi, rfl⟩
  rename_i hnone
  refine .inr ⟨hnone, ?_⟩
  split at h
  · cases h
  rename_i q hq
  split at h
  · cases h
  rename_i t ht
  have hnext : nextOf s q = t.next := by
    rw [nextOf, ht, Option.bind_some]
  split at h
  · rename_i i hi
    cases h
    exact .inl ⟨q, i, hq, hnext.trans hi, rfl⟩
  rename_i hend
  split at h
  · cases h
  rename_i tid u hsched
  cases h
  exact .inr ⟨q, tid, u, hq, hnext.trans hend, hsched, rfl⟩

theorem pendingResponder_valid (h : pendingResponder s = some i) :
    ∃ t, s.threads.threadList i = some t ∧ t.Valid ∧ t.hasPendingEvent = true := by
  unfold pendingResponder at h
  split at h
  · obtain ⟨_, hpending⟩ := Option.filter_eq_some_iff.mp h
    split at hpending
    · cases hpending
    · rename_i t ht
      rw [decide_eq_true_eq] at hpending
      exact ⟨t, ht, hpending⟩
  · cases h

theorem respondNow_spec (hi : pendingResponder s = some i) :
    ∃ t, s.threads.threadList i = some t ∧ t.Valid ∧
      (s.modify i respondNow fun _ => rfl).threads.threadList i = some (respondNow t) := by
  obtain ⟨t, ht, hvalid, _⟩ := pendingResponder_valid hi
  have hlist := threadList_modify s.threads i respondNow (fun _ => rfl) i
  rw [if_pos rfl, ht] at hlist
  exact ⟨t, ht, hvalid, hlist⟩

theorem respondNow_alive (halive : ¬ IsDoomed t) : ¬ IsDoomed (respondNow t) := by
  rintro (hzombie | hdead | hexit)
  · cases hzombie
  · cases hdead
  · exact halive (.inr (.inr hexit))

theorem nextThread_eq (hq : s.currentq = some q) (hi : nextOf s q = some i) :
    nextThread s = s.threads.threadList i := by
  rw [nextThread, hq, Option.bind_some, hi, Option.bind_some]

theorem endOfQueue_spec (hs : SafeFallback s) (hsched : psScheduler s = .ok (tid, v))
    (h : dispatchCurrent { v with currentThread := tid } = .ok (out, u)) : Selects s out u := by
  cases hlocked : s.scheduler.isLocked with
  | true =>
      obtain ⟨rfl, rfl⟩ := psScheduler_locked hlocked hsched
      have hnonneg : (0 : Int) ≤ -1 := dispatchCurrent_nonneg h
      exact absurd hnonneg (by decide)
  | false =>
      obtain ⟨init, hinit, rfl, hpass⟩ := psScheduler_unlocked hlocked (hs.pass hlocked) hsched
      have halive : AliveAt v init := (hs.init init hinit).passed hpass.pass.threads
      apply Selects.of_kept (each_kept_of_passed hpass.pass.threads)
      apply dispatchCurrent_spec (s := { v with currentThread := init }) _ h
      intro t ht _ _
      exact halive t ht

theorem safeSelect_psScheduler (hs : SafeFallback s) (hsched : psScheduler s = .ok (tid, v)) :
    Each Passed s v ∧ SafeSelect { v with currentThread := tid } := by
  cases hlocked : s.scheduler.isLocked with
  | true =>
      obtain ⟨rfl, rfl⟩ := psScheduler_locked hlocked hsched
      refine ⟨Each.of_eq Passed.refl rfl, SafeSelect.of_fallback ?_ ?_⟩
      · exact ⟨hs.responder, hs.pass, hs.init, hs.queue⟩
      · rcases hs.queue with ⟨hunlocked, _⟩ | hexiting
        · exact absurd (hlocked.symm.trans hunlocked) (by decide)
        · exact nextAlive_of_noExiting hexiting
  | false =>
      obtain ⟨init, _, rfl, hpass⟩ := psScheduler_unlocked hlocked (hs.pass hlocked) hsched
      exact ⟨hpass.pass.threads, safeSelect_pass hs hpass⟩

/-- What one turn of `zeroGravity` does when it returns. -/
inductive Turn (fuel : Nat) (s : KernelState) (out : Switched) (u : KernelState) : Prop
  | responder (i : Nat) (hi : pendingResponder s = some i)
      (h : dispatchCurrent { s.modify i respondNow fun _ => rfl with
        currentq := some i, currentThread := i } = .ok (out, u))
  | next (q i : Nat) (t : Thread) (hnone : pendingResponder s = none) (hq : s.currentq = some q)
      (hi : nextOf s q = some i) (ht : s.threads.threadList i = some t) (hvalid : t.Valid)
      (hready : t.state = .ready)
      (h : dispatchCurrent { s with currentq := some i, currentThread := i } = .ok (out, u))
  | endOfQueue (q : Nat) (tid : Int) (v : KernelState) (hnone : pendingResponder s = none)
      (hq : s.currentq = some q) (hnext : nextOf s q = none) (hsched : psScheduler s = .ok (tid, v))
      (h : dispatchCurrent { v with currentThread := tid } = .ok (out, u))
  | again (q i : Nat) (tid : Int) (v : KernelState) (hnone : pendingResponder s = none)
      (hq : s.currentq = some q) (hi : nextOf s q = some i)
      (hnot : ∀ t, s.threads.threadList i = some t → ¬ (t.Valid ∧ t.state = .ready))
      (hsched : psScheduler { s with currentq := some i } = .ok (tid, v))
      (h : zeroGravity fuel { v with currentThread := tid } = .ok (out, u))

theorem zeroGravity_turn (h : zeroGravity (fuel + 1) s = .ok (out, u)) : Turn fuel s out u := by
  rw [zeroGravity] at h
  split at h
  · cases h
  · rename_i v hselect
    rcases selectNext_cases hselect with ⟨_, _, hgo⟩ | ⟨hnone, ⟨_, _, _, _, hgo⟩ | hend⟩
    · cases hgo
    · cases hgo
    obtain ⟨q, tid, w, hq, hnext, hsched, hgo⟩ := hend
    cases hgo
    exact .endOfQueue q tid w hnone hq hnext hsched h
  · rename_i v hselect
    rcases selectNext_cases hselect with
      ⟨i, hi, hgo⟩ | ⟨hnone, ⟨q, i, hq, hi, hgo⟩ | ⟨_, _, _, _, _, _, hgo⟩⟩
    · cases hgo
      obtain ⟨t, _, hvalid, ht⟩ := respondNow_spec hi
      split at h
      · rename_i tid htarget
        obtain ⟨_, _, hq, _, _, _, rfl⟩ := readyTarget_some htarget
        cases hq
        exact .responder i hi h
      · rename_i htarget
        exact absurd ⟨hvalid, rfl⟩ (readyTarget_none
          (s := { s.modify i respondNow fun _ => rfl with currentq := some i }) rfl htarget ht)
    · cases hgo
      split at h
      · rename_i tid htarget
        obtain ⟨_, t, hq', ht, hvalid, hready, rfl⟩ := readyTarget_some htarget
        cases hq'
        exact .next q i t hnone hq hi ht hvalid hready h
      · rename_i htarget
        split at h
        · cases h
        rename_i tid w hsched
        exact .again q i tid w hnone hq hi
          (fun _ => readyTarget_none (s := { s with currentq := some i }) rfl htarget) hsched h
    · cases hgo

theorem zeroGravity_rule {K : KernelState → Prop} {Q : Switched → KernelState → Prop}
    (hpass : ∀ s u tid, K s → psScheduler s = .ok (tid, u) → K u)
    (hcurrent : ∀ s tid, K s → K { s with currentThread := tid })
    (hqueue : ∀ s q, K s → K { s with currentq := q })
    (hrespond : ∀ s i, K s → pendingResponder s = some i → K (s.modify i respondNow fun _ => rfl))
    (hdispatch : ∀ s out u, K s → dispatchCurrent s = .ok (out, u) → Q out u)
    (hs : K s)
    (h : zeroGravity fuel s = .ok (out, u)) : Q out u := by
  induction fuel generalizing s with
  | zero => cases h
  | succ fuel ih =>
      cases zeroGravity_turn h with
      | responder i hi h =>
          have hv := hqueue _ (some i) (hrespond s i hs hi)
          exact hdispatch _ out u (hcurrent _ i hv) h
      | next q i t _ _ _ _ _ _ h =>
          exact hdispatch _ out u (hcurrent _ i (hqueue s (some i) hs)) h
      | endOfQueue q tid v _ _ _ hsched h =>
          exact hdispatch _ out u (hcurrent v tid (hpass s v tid hs hsched)) h
      | again q i tid v _ _ _ _ hsched h =>
          have hv := hqueue s (some i) hs
          exact ih (hcurrent v tid (hpass _ v tid hv hsched)) h

theorem zeroGravity_spec (hs : SafeSelect s) (h : zeroGravity fuel s = .ok (out, u)) :
    Selects s out u := by
  induction fuel generalizing s with
  | zero => cases h
  | succ fuel ih =>
      cases zeroGravity_turn h with
      | responder i hi h =>
          have halive := hs.responder i hi
          obtain ⟨t, ht, _, hlist⟩ := respondNow_spec hi
          have hkept : Each Kept s (s.modify i respondNow fun _ => rfl) := each_kept_modify halive
          have hrest := dispatchReady_spec
            (s := { s.modify i respondNow fun _ => rfl with currentq := some i }) hlist
            (respondNow_alive (halive t ht)) h
          exact Selects.of_kept hkept hrest
      | next q i t hnone hq hi ht hvalid hready h =>
          have halive := hs.next hnone t ((nextThread_eq hq hi).trans ht) hvalid hready
          exact dispatchReady_spec (s := { s with currentq := some i }) ht halive h
      | endOfQueue q tid v hnone hq hnext hsched h =>
          have hnot : ¬ NextReady s := by
            rintro ⟨t, ht, _⟩
            rw [nextThread, hq, Option.bind_some, hnext] at ht
            cases ht
          exact endOfQueue_spec (hs.fallback hnone hnot) hsched h
      | again q i tid v hnone hq hi hnot hsched h =>
          have hnext : ¬ NextReady s := by
            rintro ⟨t, ht, hready⟩
            exact hnot t ((nextThread_eq hq hi).symm.trans ht) hready
          have hfallback := hs.fallback hnone hnext
          obtain ⟨hpassed, hsafe⟩ := safeSelect_psScheduler
            (s := { s with currentq := some i })
            ⟨hfallback.responder, hfallback.pass, hfallback.init, hfallback.queue⟩ hsched
          have hrest := ih hsafe h
          exact Selects.of_kept (each_kept_of_passed hpassed) hrest

end Gramado.Ke.Dispatch
