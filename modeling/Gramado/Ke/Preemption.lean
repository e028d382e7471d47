import Gramado.Ke.Dispatch

/-! The task switch as a whole: the current thread is preempted, and another one runs. -/

namespace Gramado.Ke.Preemption

open Ke.Table Ke.RoundRobin Ke.Stages Ke.TaskSwitch Ke.Doomed Ke.Passes Ke.Dispatch

def Runnable (s : KernelState) (t : Thread) : Prop :=
  t.state = .ready ∨ t.state = .running ∧ t.tid = s.currentThread

instance (s : KernelState) (t : Thread) : Decidable (Runnable s t) :=
  inferInstanceAs (Decidable (_ ∨ _))

variable {s u v : KernelState} {t t' : Thread} {i fuel : Nat} {out : Switched}

theorem nextOf_eq (h : Each (fun t t' => t'.next = t.next) s u) : nextOf u = nextOf s := by
  funext i
  have hi := h i
  unfold nextOf
  generalize s.threads.threadList i = a at hi
  generalize u.threads.threadList i = b at hi
  cases hi with
  | none => rfl
  | some hnext => exact hnext

/-- What the end of its quantum makes of a thread of the table. -/
structure Ticked (s : KernelState) (t t' : Thread) : Prop where
  valid : t'.Valid ↔ t.Valid
  state : t'.state = t.state ∨ t.state = .running ∧ t'.state = .ready
  ready : t'.state = .ready ↔ Runnable s t
  exit : t'.deferred.exitInProgress = t.deferred.exitInProgress
  pending : t'.hasPendingEvent = t.hasPendingEvent
  next : t'.next = t.next
  msgctl : t'.msgctl = t.msgctl
  waitReason : t'.waitReason = t.waitReason
  wakeJiffy : t'.wakeJiffy = t.wakeJiffy

theorem Ticked.state_iff (h : Ticked s t t') (state : ThreadState) (hrunning : state ≠ .running)
    (hready : state ≠ .ready) :
    t'.state = state ↔ t.state = state := by
  rcases h.state with heq | ⟨hrun, hrdy⟩
  · rw [heq]
  · rw [hrun, hrdy]
    exact ⟨fun h => absurd h.symm hready, fun h => absurd h.symm hrunning⟩

theorem Ticked.doomed (h : Ticked s t t') : IsDoomed t' ↔ IsDoomed t := by
  rw [IsDoomed, IsDoomed, h.state_iff .zombie (by decide) (by decide),
    h.state_iff .dead (by decide) (by decide), h.exit]

/-- The kernel once the current thread has been preempted. -/
structure AfterTick (s u : KernelState) : Prop where
  controls : SameControls s u
  currentq : u.currentq = s.currentq
  threads : Each (Ticked s) s u

theorem AfterTick.alive (h : AfterTick s u) : AliveAt u i ↔ AliveAt s i := by
  constructor
  · intro halive t ht hdoomed
    obtain ⟨t', ht', hticked⟩ := h.threads.of_some ht
    exact halive t' ht' (hticked.doomed.mpr hdoomed)
  · intro halive t' ht' hdoomed
    obtain ⟨t, ht, hticked⟩ := h.threads.to_some ht'
    exact halive t ht (hticked.doomed.mp hdoomed)

theorem AfterTick.firstStandby (h : AfterTick s u) : firstStandby u = firstStandby s := by
  unfold TaskSwitch.firstStandby
  congr 1
  funext i
  have hi := h.threads i
  generalize s.threads.threadList i = a at hi
  generalize u.threads.threadList i = b at hi
  cases hi with
  | none => rfl
  | some hticked =>
      have hstate := hticked.state_iff .standby (by decide) (by decide)
      simp [hticked.valid, hstate]

theorem AfterTick.pendingResponder (h : AfterTick s u) :
    pendingResponder u = pendingResponder s := by
  unfold TaskSwitch.pendingResponder
  rw [h.controls.responder, h.controls.responderThread]
  split
  · congr 1
    funext i
    have hi := h.threads i
    generalize s.threads.threadList i = a at hi
    generalize u.threads.threadList i = b at hi
    cases hi with
    | none => rfl
    | some hticked => simp [hticked.valid, hticked.pending]
  · rfl

theorem AfterTick.links (h : AfterTick s u) : nextOf u = nextOf s :=
  nextOf_eq (h.threads.mono fun _ _ hticked => hticked.next)

theorem AfterTick.nextThread (h : AfterTick s u) :
    Option.Rel (Ticked s) (nextThread s) (nextThread u) := by
  have hnext := h.links
  unfold Passes.nextThread
  rw [h.currentq, hnext]
  cases s.currentq.bind (nextOf s) with
  | none => exact .none
  | some i => exact h.threads i

theorem Ticked.safeRound (h : Ticked s t t') (hs : SafeRound t) : SafeRound t' := by
  intro hvalid
  rw [h.msgctl, h.waitReason, h.exit, h.state_iff .waiting (by decide) (by decide),
    h.state_iff .blocked (by decide) (by decide), h.state_iff .zombie (by decide) (by decide),
    h.state_iff .dead (by decide) (by decide)]
  exact hs (h.valid.mp hvalid)

theorem Ticked.safeStage {jiffies : UInt64} (h : Ticked s t t') (hs : SafeStage jiffies t) :
    SafeStage jiffies t' := by
  intro hvalid
  rw [h.wakeJiffy, h.exit, h.state_iff .waiting (by decide) (by decide)]
  exact hs (h.valid.mp hvalid)

theorem AfterTick.safePass (h : AfterTick s u) (hs : SafePass s) : SafePass u := by
  unfold SafePass at hs ⊢
  rw [h.controls.policy]
  split at hs
  · constructor
    · intro t' ht' hdoomed
      obtain ⟨t, ht, hticked⟩ := h.threads.to_some ht'
      exact hticked.ready.mpr (.inl (hs.1 t ht (hticked.doomed.mp hdoomed)))
    · intro i t' hi ht'
      obtain ⟨t, ht, hticked⟩ := h.threads.to_some ht'
      exact hticked.safeRound (hs.2 i t hi ht)
  · intro i t' hi ht'
    obtain ⟨t, ht, hticked⟩ := h.threads.to_some ht'
    rw [h.controls.jiffies]
    exact hticked.safeStage (hs i t hi ht)
  · trivial

/-- Condition for a task switch that goes through the scheduler. -/
structure SafeReschedule (s : KernelState) : Prop where
  pass : s.scheduler.isLocked = false → SafePass s
  init : ∀ i, s.initThread = some i → AliveAt s i
  queue : s.scheduler.isLocked = false ∧ s.scheduler.policy = .rr ∨
    ∀ i t, s.threads.threadList i = some t → t.Valid → Runnable s t →
      t.deferred.exitInProgress = false

/-- Condition for a task switch that finds no thread that stands by and no event. -/
structure SafeQueue (s : KernelState) : Prop where
  next : ∀ t, nextThread s = some t → t.Valid → Runnable s t → ¬ IsDoomed t
  reschedule : (∀ t, nextThread s = some t → t.Valid → ¬ Runnable s t) → SafeReschedule s

structure SafeQuantumEnd (s : KernelState) : Prop where
  standby : ∀ i, firstStandby s = some i → AliveAt s i
  responder : firstStandby s = none → ∀ i, pendingResponder s = some i → AliveAt s i
  queue : firstStandby s = none → pendingResponder s = none → SafeQueue s

theorem AfterTick.noExiting (h : AfterTick s u)
    (hs : ∀ i t, s.threads.threadList i = some t → t.Valid → Runnable s t →
      t.deferred.exitInProgress = false) : NoExitingReady u := by
  intro i t' ht' hvalid hready
  obtain ⟨t, ht, hticked⟩ := h.threads.to_some ht'
  rw [hticked.exit]
  exact hs i t ht (hticked.valid.mp hvalid) (hticked.ready.mp hready)

theorem AfterTick.safeFallback (h : AfterTick s u) (hnone : Ke.TaskSwitch.pendingResponder s = none)
    (hs : SafeReschedule s) :
    SafeFallback u := by
  constructor
  · rw [h.pendingResponder, hnone]
  · rw [h.controls.locked]
    exact fun hlocked => h.safePass (hs.pass hlocked)
  · intro i hi
    rw [h.controls.initThread] at hi
    exact h.alive.mpr (hs.init i hi)
  · rw [h.controls.locked, h.controls.policy]
    exact hs.queue.imp_right h.noExiting

theorem AfterTick.safeSelect (h : AfterTick s u) (hs : SafeQuantumEnd s)
    (hnone : Ke.TaskSwitch.firstStandby s = none) : SafeSelect u := by
  have hnext := h.nextThread
  constructor
  · intro i hi
    rw [h.pendingResponder] at hi
    exact h.alive.mpr (hs.responder hnone i hi)
  · intro hresponder t' ht' hvalid hready
    rw [h.pendingResponder] at hresponder
    rw [ht'] at hnext
    generalize hs' : Passes.nextThread s = o at hnext
    cases hnext with
    | some hticked =>
        rw [hticked.doomed]
        exact (hs.queue hnone hresponder).next _ hs' (hticked.valid.mp hvalid)
          (hticked.ready.mp hready)
  · intro hresponder hnot
    rw [h.pendingResponder] at hresponder
    apply h.safeFallback hresponder
    apply (hs.queue hnone hresponder).reschedule
    intro t ht hvalid hrunnable
    rw [ht] at hnext
    generalize hu : Passes.nextThread u = o at hnext
    cases hnext with
    | some hticked =>
        exact hnot ⟨_, hu, hticked.valid.mpr hvalid, hticked.ready.mpr hrunnable⟩

/-- A doomed thread stays doomed, and is `READY` or `RUNNING` only if it was: it is not put
back, though it may be preempted while it runs. -/
def Lasting (t t' : Thread) : Prop :=
  IsDoomed t → IsDoomed t' ∧
    (Live t'.state → t'.state = t.state ∨ t.state = .running ∧ t'.state = .ready)

theorem lasting_of_kept (h : Kept t t') : Lasting t t' := by
  intro hdoomed
  obtain ⟨hdoomed', hlive⟩ := h hdoomed
  exact ⟨hdoomed', fun h => .inl (hlive h)⟩

theorem Ticked.lasting (h : Ticked s t t') : Lasting t t' :=
  fun hdoomed => ⟨h.doomed.mpr hdoomed, fun _ => h.state⟩

theorem Lasting.trans {u v : Thread} (htu : Lasting t u) (huv : Lasting u v) : Lasting t v := by
  intro hdoomed
  obtain ⟨hu, hlive⟩ := htu hdoomed
  obtain ⟨hv, hlive'⟩ := huv hu
  refine ⟨hv, ?_⟩
  intro hl
  rcases hlive' hl with heq | ⟨hrunning, hready⟩
  · rw [heq] at hl ⊢
    exact hlive hl
  · rcases hlive (.inr hrunning) with heq | ⟨_, hready'⟩
    · exact .inr ⟨heq.symm.trans hrunning, hready⟩
    · exact absurd (hrunning.symm.trans hready') (by decide)

def interrupt (t : Thread) : Thread :=
  preempt (saveContext (countTick t))

theorem preempt_tid (t : Thread) : (preempt t).tid = t.tid := by
  unfold preempt
  split <;> rfl

theorem interrupt_ticked (ht : t.tid = s.currentThread) : Ticked s t (interrupt t) := by
  unfold interrupt preempt
  split
  · rename_i hrunning
    have hrun : t.state = .running := hrunning
    refine ⟨Iff.rfl, .inr ⟨hrun, rfl⟩, ?_, rfl, rfl, rfl, rfl, rfl, rfl⟩
    exact ⟨fun _ => .inr ⟨hrun, ht⟩, fun _ => rfl⟩
  · rename_i hrunning
    refine ⟨Iff.rfl, .inl rfl, ?_, rfl, rfl, rfl, rfl, rfl, rfl⟩
    constructor
    · exact fun hready => .inl hready
    · rintro (hready | ⟨hrun, _⟩)
      · exact hready
      · exact absurd hrun hrunning

theorem ticked_other (ht : t.tid ≠ s.currentThread) : Ticked s t t := by
  refine ⟨Iff.rfl, .inl rfl, ?_, rfl, rfl, rfl, rfl, rfl, rfl⟩
  constructor
  · exact fun hready => .inl hready
  · rintro (hready | ⟨_, htid⟩)
    · exact hready
    · exact absurd htid ht

theorem afterTick_preempt (hcurrent : 0 ≤ s.currentThread)
    (hcontrols : SameControls s v) (hqueue : v.currentq = s.currentq)
    (hlist : ∀ j, v.threads.threadList j =
      if j = s.currentThread.toNat then (s.threads.threadList j).map interrupt
      else s.threads.threadList j) : AfterTick s v := by
  refine ⟨hcontrols, hqueue, ?_⟩
  intro j
  rw [hlist j]
  have htid := s.threads.tid_eq j
  split
  · rename_i hj
    cases ht : s.threads.threadList j with
    | none => exact .none
    | some t =>
        have := htid t ht
        exact .some (interrupt_ticked (by omega))
  · rename_i hj
    cases ht : s.threads.threadList j with
    | none => exact .none
    | some t =>
        have := htid t ht
        exact .some (ticked_other (by omega))

def SameState (t t' : Thread) : Prop :=
  t'.state = t.state ∧ t'.deferred.exitInProgress = t.deferred.exitInProgress

theorem SameState.refl (t : Thread) : SameState t t := ⟨rfl, rfl⟩

theorem SameState.trans {u v : Thread} (htu : SameState t u) (huv : SameState u v) :
    SameState t v :=
  ⟨huv.1.trans htu.1, huv.2.trans htu.2⟩

theorem SameState.kept (h : SameState t t') : Kept t t' := by
  intro hdoomed
  refine ⟨?_, fun _ => h.1⟩
  rw [IsDoomed, h.1, h.2]
  exact hdoomed

theorem sameState_modify {f : Thread → Thread} {hf : ∀ t, (f t).tid = t.tid}
    (h : ∀ t, SameState t (f t)) :
    Each SameState s (s.modify i f hf) :=
  Each.modify SameState.refl s i f hf fun t _ => h t

theorem sameState_trans {t : KernelState} (hst : Each SameState s t) (htu : Each SameState t u) :
    Each SameState s u :=
  hst.trans (fun _ _ _ hab hbc => hab.trans hbc) htu

theorem each_kept_of_sameState (h : Each SameState s u) : Each Kept s u :=
  h.mono fun _ _ hsame => hsame.kept

theorem yieldQuantum_sameState (t : Thread) : SameState t (yieldQuantum t) := by
  unfold yieldQuantum
  split <;> exact ⟨rfl, rfl⟩

theorem callBack_sameState (t : Thread) : SameState t (callBack t) := by
  unfold callBack
  split <;> exact ⟨rfl, rfl⟩

theorem waitUntil_kept (jiffy : UInt64) (hrunning : t.state = .running) :
    Kept t (t.waitUntil jiffy) := by
  rintro (hzombie | hdead | hexit)
  · exact absurd (hrunning.symm.trans hzombie) (by decide)
  · exact absurd (hrunning.symm.trans hdead) (by decide)
  · refine ⟨.inr (.inr hexit), ?_⟩
    rintro (hlive | hlive) <;> cases hlive

theorem doThreadWaiting_kept (ms : UInt64)
    (h : ∀ t, s.threads.threadList i = some t → t.state = .running) :
    Each Kept s { s with threads := doThreadWaiting s.threads s.jiffies i ms } := by
  apply Each.modifyTid Kept.refl
  intro t ht
  split
  · exact waitUntil_kept _ (h t ht)
  · exact Kept.refl t

theorem sleepThread_kept (htid : t.tid = i)
    (hstate : ∀ t', s.threads.threadList i = some t' → t'.state = t.state) :
    Each Kept s (sleepThread s i t) := by
  unfold sleepThread
  split
  · rename_i hsleep
    have hexhaust : Each SameState s (s.modify i exhaustQuantum fun _ => rfl) :=
      sameState_modify fun _ => ⟨rfl, rfl⟩
    have hrunning : ∀ t', (s.modify i exhaustQuantum fun _ => rfl).threads.threadList i =
        some t' → t'.state = .running := by
      intro t' ht'
      obtain ⟨t'', ht'', hsame⟩ := hexhaust.to_some ht'
      rw [hsame.1, hstate t'' ht'']
      exact hsleep.1
    dsimp only
    rw [htid]
    exact each_kept_trans (each_kept_trans (each_kept_of_sameState hexhaust)
      (doThreadWaiting_kept _ hrunning))
      (each_kept_of_sameState (sameState_modify fun _ => ⟨rfl, rfl⟩))
  · exact Each.of_eq Kept.refl rfl

theorem stayInQuantum_kept (htid : t.tid = i)
    (hstate : ∀ t', s.threads.threadList i = some t' → t'.state = t.state) :
    Each Kept s (stayInQuantum s i t) := by
  have hyield : Each SameState s (s.modify i yieldQuantum fun t => by
      unfold yieldQuantum
      split <;> rfl) := sameState_modify yieldQuantum_sameState
  apply each_kept_trans (each_kept_of_sameState hyield)
  apply sleepThread_kept htid
  intro t' ht'
  obtain ⟨t'', ht'', hsame⟩ := hyield.to_some ht'
  rw [hsame.1, hstate t'' ht'']

/-- The quantum of the current thread is over, and the task switch is not locked. -/
def QuantumOver (s : KernelState) : Prop :=
  s.taskSwitchStatus = .unlocked ∧ ∃ t,
    s.threads.threadList s.currentThread.toNat = some t ∧ ¬ t.runningCount + 1 < t.quantum

def PreemptsDoomed (s : KernelState) : Prop :=
  QuantumOver s ∧ ∃ t, s.threads.threadList s.currentThread.toNat = some t ∧
    t.state = .running ∧ t.deferred.exitInProgress = true

structure SafeSwitched (s : KernelState) (out : Switched) (u : KernelState) : Prop where
  lasting : Each Lasting s u
  kept : ¬ PreemptsDoomed s → Each Kept s u
  runs : ∀ i, out = .dispatched i ∨ out = .spawned i → AliveAt s i

theorem safeSwitched_of_kept (h : Each Kept s u)
    (hruns : ∀ i, out = .dispatched i ∨ out = .spawned i → AliveAt s i) :
    SafeSwitched s out u :=
  ⟨h.mono fun _ _ => lasting_of_kept, fun _ => h, hruns⟩

theorem SafeSwitched.sameState (h : SafeSwitched s out u) (hsame : Each SameState u v) :
    SafeSwitched s out v where
  lasting := h.lasting.trans (fun _ _ _ hab hbc => hab.trans hbc)
    ((each_kept_of_sameState hsame).mono fun _ _ => lasting_of_kept)
  kept hnot := each_kept_trans (h.kept hnot) (each_kept_of_sameState hsame)
  runs := h.runs

theorem AfterTick.kept (h : AfterTick s v) (hover : QuantumOver s) (hnot : ¬ PreemptsDoomed s) :
    Each Kept s v := by
  intro j
  have hj := h.threads j
  have htid := s.threads.tid_eq j
  cases ht : s.threads.threadList j with
  | none =>
      rw [ht] at hj
      generalize v.threads.threadList j = o at hj
      cases hj
      exact .none
  | some t =>
      rw [ht] at hj
      generalize v.threads.threadList j = o at hj
      cases hj with
      | some hticked =>
          constructor
          intro hdoomed
          refine ⟨hticked.doomed.mpr hdoomed, ?_⟩
          intro _
          rcases hticked.state with heq | ⟨hrunning, hready⟩
          · exact heq
          · exfalso
            rcases hticked.ready.mp hready with hready' | ⟨_, hcurrent⟩
            · exact absurd (hrunning.symm.trans hready') (by decide)
            have hplace : s.currentThread.toNat = j := by
              have := htid t ht
              omega
            rcases hdoomed with hzombie | hdead | hexit
            · exact absurd (hrunning.symm.trans hzombie) (by decide)
            · exact absurd (hrunning.symm.trans hdead) (by decide)
            · exact hnot ⟨hover, t, hplace ▸ ht, hrunning, hexit⟩

theorem AfterTick.switched (h : AfterTick s v) (hover : QuantumOver s) (hkept : Each Kept v u)
    (hruns : ∀ i, out = .dispatched i ∨ out = .spawned i → AliveAt v i) :
    SafeSwitched s out u where
  lasting := by
    have hticked : Each Lasting s v := h.threads.mono fun _ _ => Ticked.lasting
    exact hticked.trans (fun _ _ _ hab hbc => hab.trans hbc)
      (hkept.mono fun _ _ => lasting_of_kept)
  kept hnot := each_kept_trans (h.kept hover hnot) hkept
  runs i hi := h.alive.mp (hruns i hi)

theorem firstStandby_some (h : firstStandby s = some i) :
    ∃ t, s.threads.threadList i = some t ∧ t.state = .standby := by
  unfold firstStandby at h
  have hfound := List.find?_some h
  split at hfound
  · cases hfound
  · rename_i t ht
    rw [decide_eq_true_eq] at hfound
    exact ⟨t, ht, hfound.2⟩

/-- The kernel in which the thread `t` at the place `i` has been spawned. -/
theorem startThread_tid (s : KernelState) (t : Thread) : (startThread s.initThread t).tid = t.tid :=
  rfl

def spawnedKernel (s : KernelState) (i : Nat) (t : Thread) : KernelState :=
  { s.modify i (startThread s.initThread) (startThread_tid s) with
    taskSwitchStatus := .unlocked
    scheduler := { s.scheduler with isLocked := false }
    currentProcess := t.tgid
    currentThread := t.tid }

theorem spawnThread_ok (h : spawnThread s i t = .ok u) : u = spawnedKernel s i t := by
  unfold spawnThread at h
  split at h
  · cases h
  split at h
  · cases h
  split at h
  · cases h
  · cases h
    rfl

theorem endOfQuantum_cases (h : endOfQuantum fuel s i = .ok (out, u)) :
    (firstStandby (s.modify i preempt preempt_tid) = none ∧
      zeroGravity fuel (s.modify i preempt preempt_tid) = .ok (out, u)) ∨
    ∃ j t, firstStandby (s.modify i preempt preempt_tid) = some j ∧
      (s.modify i preempt preempt_tid).threads.threadList j = some t ∧ out = .spawned j ∧
      u = spawnedKernel (s.modify i preempt preempt_tid) j t := by
  unfold endOfQuantum at h
  dsimp only at h
  split at h
  · rename_i hnone
    exact .inl ⟨hnone, h⟩
  · rename_i j hstandby
    split at h
    · cases h
    rename_i t ht
    split at h
    · cases h
    rename_i w hspawn
    cases h
    exact .inr ⟨j, t, hstandby, ht, rfl, spawnThread_ok hspawn⟩

theorem endOfQuantum_spec (hafter : AfterTick s (v.modify i preempt preempt_tid))
    (hover : QuantumOver s) (hs : SafeQuantumEnd s) (h : endOfQuantum fuel v i = .ok (out, u)) :
    SafeSwitched s out u := by
  obtain ⟨hnone, hgravity⟩ | ⟨j, t, hstandby, _, rfl, rfl⟩ := endOfQuantum_cases h
  · rw [hafter.firstStandby] at hnone
    obtain ⟨hkept, j, rfl, halive⟩ := zeroGravity_spec (hafter.safeSelect hs hnone) hgravity
    apply hafter.switched hover hkept
    rintro j' (hj | hj)
    · cases hj
      exact halive
    · cases hj
  · rw [hafter.firstStandby] at hstandby
    have halive := hafter.alive.mpr (hs.standby j hstandby)
    apply hafter.switched hover
    · have hkept : Each Kept _ ((v.modify i preempt preempt_tid).modify j
          (startThread v.initThread) fun _ => rfl) := each_kept_modify halive
      exact hkept
    · rintro j' (hj | hj)
      · cases hj
      · cases hj
        exact halive

theorem ownerProcess_ok {tgid : Int} (h : ownerProcess s tgid = .ok v) :
    v = { s with currentProcess := tgid } := by
  unfold ownerProcess at h
  split at h
  · cases h
  split at h
  · cases h
  split at h
  · cases h
  split at h
  · cases h
  · cases h
    rfl

def SafeSwitch (s : KernelState) : Prop :=
  QuantumOver s → SafeQuantumEnd s

theorem countTick_tid (t : Thread) : (countTick t).tid = t.tid := rfl

theorem saveContext_tid (t : Thread) : (saveContext t).tid = t.tid := rfl

def tickedKernel (s : KernelState) (tgid : Int) (i : Nat) : KernelState :=
  ({ s with currentProcess := tgid }.modify i countTick countTick_tid).modify i saveContext
    saveContext_tid

theorem tickedKernel_sameState (s : KernelState) (tgid : Int) (i : Nat) :
    Each SameState s (tickedKernel s tgid i) := by
  have hcount : Each SameState s
      ({ s with currentProcess := tgid }.modify i countTick fun _ => rfl) :=
    sameState_modify fun _ => ⟨rfl, rfl⟩
  have hsave : Each SameState ({ s with currentProcess := tgid }.modify i countTick fun _ => rfl)
      (tickedKernel s tgid i) := sameState_modify fun _ => ⟨rfl, rfl⟩
  exact sameState_trans hcount hsave

theorem tickedKernel_afterTick (tgid : Int) (hcurrent : 0 ≤ s.currentThread) :
    AfterTick s ((tickedKernel s tgid s.currentThread.toNat).modify s.currentThread.toNat
      preempt preempt_tid) := by
  apply afterTick_preempt hcurrent
  · exact ⟨rfl, rfl, rfl, rfl, rfl, rfl⟩
  · rfl
  · intro j
    generalize s.currentThread.toNat = i
    have hcount := threadList_modify s.threads i countTick (fun _ => rfl) j
    have hsave := threadList_modify (s.threads.modify i countTick fun _ => rfl) i saveContext
      (fun _ => rfl) j
    have hpreempt := threadList_modify (tickedKernel s tgid i).threads i preempt preempt_tid j
    rcases eq_or_ne j i with rfl | hne
    · rw [if_pos rfl] at hcount hsave hpreempt ⊢
      rw [hcount, Option.map_map] at hsave
      exact hpreempt.trans ((congrArg (Option.map preempt) hsave).trans (Option.map_map ..))
    · rw [if_neg hne] at hcount hsave hpreempt ⊢
      exact hpreempt.trans (hsave.trans hcount)

theorem taskSwitch_cases (h : taskSwitch fuel s = .ok (out, u)) :
    0 ≤ s.currentThread ∧ ∃ t, s.threads.threadList s.currentThread.toNat = some t ∧ t.Valid ∧
      (s.taskSwitchStatus = .locked ∧ out = .same ∧
          u = { s with currentProcess := t.tgid }.modify s.currentThread.toNat countTick
            (fun _ => rfl) ∨
        (s.taskSwitchStatus = .unlocked ∧ t.runningCount + 1 < t.quantum) ∧ out = .same ∧
          u = stayInQuantum (tickedKernel s t.tgid s.currentThread.toNat)
            s.currentThread.toNat t ∨
        QuantumOver s ∧ endOfQuantum fuel (tickedKernel s t.tgid s.currentThread.toNat)
          s.currentThread.toNat = .ok (out, u)) := by
  unfold taskSwitch at h
  split at h
  · cases h
  rename_i hcurrent
  dsimp only at h
  split at h
  · cases h
  rename_i t ht
  split at h
  · cases h
  rename_i hvalid
  refine ⟨by omega, t, ht, not_not.mp hvalid, ?_⟩
  split at h
  · cases h
  rename_i v howner
  have hv := ownerProcess_ok howner
  subst hv
  split at h
  · rename_i hlocked
    cases h
    exact .inl ⟨hlocked, rfl, rfl⟩
  unfold switchThread at h
  split at h
  · cases h
  rename_i hunlocked
  split at h
  · cases h
  dsimp only at h
  split at h
  · rename_i hquantum
    cases h
    exact .inr (.inl ⟨⟨not_not.mp hunlocked, hquantum⟩, rfl, rfl⟩)
  · rename_i hquantum
    exact .inr (.inr ⟨⟨not_not.mp hunlocked, t, ht, hquantum⟩, h⟩)

theorem callBack_tid (t : Thread) : (callBack t).tid = t.tid := by
  unfold callBack
  split <;> rfl

theorem tsTaskSwitch_cases (h : tsTaskSwitch fuel s = .ok (out, u)) :
    ∃ v, taskSwitch fuel s = .ok (out, v) ∧
      (u = v ∨ u = v.modify v.currentThread.toNat callBack callBack_tid) := by
  unfold tsTaskSwitch at h
  split at h
  · cases h
  split at h
  · cases h
  split at h
  · cases h
  · rename_i hswitch
    cases h
    exact ⟨_, hswitch, .inl rfl⟩
  · rename_i hswitch
    split at h
    · cases h
    · cases h
      exact ⟨_, hswitch, .inr rfl⟩

theorem taskSwitch_spec (hs : SafeSwitch s) (h : taskSwitch fuel s = .ok (out, u)) :
    SafeSwitched s out u := by
  obtain ⟨hcurrent, t, ht, _, ⟨_, rfl, rfl⟩ | ⟨_, rfl, rfl⟩ | ⟨hover, hend⟩⟩ := taskSwitch_cases h
  · apply safeSwitched_of_kept
    · exact each_kept_of_sameState (sameState_modify fun _ => ⟨rfl, rfl⟩)
    · rintro i (hi | hi) <;> cases hi
  · have hticked := tickedKernel_sameState s t.tgid s.currentThread.toNat
    apply safeSwitched_of_kept
    · apply each_kept_trans (each_kept_of_sameState hticked)
      apply stayInQuantum_kept (s.threads.tid_eq _ t ht)
      intro t' ht'
      obtain ⟨t'', ht'', hstate, _⟩ := hticked.to_some ht'
      rw [ht] at ht''
      cases ht''
      exact hstate
    · rintro i (hi | hi) <;> cases hi
  · exact endOfQuantum_spec (tickedKernel_afterTick t.tgid hcurrent) hover (hs hover) hend

theorem tsTaskSwitch_spec (hs : SafeSwitch s) (h : tsTaskSwitch fuel s = .ok (out, u)) :
    SafeSwitched s out u := by
  obtain ⟨v, hswitch, rfl | rfl⟩ := tsTaskSwitch_cases h
  · exact taskSwitch_spec hs hswitch
  · exact (taskSwitch_spec hs hswitch).sameState (sameState_modify callBack_sameState)

end Gramado.Ke.Preemption
