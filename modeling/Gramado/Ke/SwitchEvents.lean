import Gramado.Ke.Fairness

/-! Under the priority interleaving every task switch is a run of the events of
`Gramado.Ke.Fairness`, so that what holds of their runs holds of runs of the task switch. -/

namespace Gramado.Ke.SwitchEvents

open Library.Run Ke.Table Ke.RoundRobin Ke.Stages Ke.TaskSwitch Ke.Doomed Ke.Dispatch Ke.Preemption
open Ke.StageQueue Ke.Fairness

def Events (s u : KernelState) : Prop :=
  ∃ events outs, Guarded priorityStep Meets s events ∧
    run priorityStep s events = .ok (outs, u)

theorem Events.refl (s : KernelState) : Events s s := ⟨[], [], trivial, rfl⟩

variable {s t u : KernelState} {i fuel : Nat} {out : Switched}

theorem Events.step (event : PriorityEvent) {out : Option StageCall} (hmeets : Meets s event)
    (hstep : priorityStep s event = .ok (out, t)) (h : Events t u) :
    Events s u := by
  obtain ⟨events, outs, hguard, hrun⟩ := h
  refine ⟨event :: events, out :: outs, guarded_cons hmeets hstep hguard, ?_⟩
  rw [run, hstep]
  dsimp only
  rw [hrun]

theorem Events.trans (hst : Events s t) (htu : Events t u) : Events s u := by
  obtain ⟨events, outs, hguard, hrun⟩ := hst
  induction events generalizing s outs with
  | nil =>
      cases hrun
      exact htu
  | cons event events ih =>
      obtain ⟨out, v, outs', hstep, htail, _⟩ := run_cons_ok hrun
      exact Events.step event hguard.1 hstep (ih outs' (hguard.tail hstep) htail)

theorem Events.inv (h : Events s u) (hs : PriorityInv s) : PriorityInv u := by
  obtain ⟨events, outs, hguard, hrun⟩ := h
  exact (run_rounds hs hguard hrun).1

theorem Events.quiet (h : Quiet s u) : Events s u := Events.step (.other u) h rfl (Events.refl u)

theorem quiet_of_each (h : Each SamePriority s u) (hinit : u.initThread = s.initThread)
    (hstage : u.scheduler.stage = s.scheduler.stage)
    (hmax : u.scheduler.maxStage = s.scheduler.maxStage) : Quiet s u := by
  refine ⟨hinit, hstage, hmax, ?_⟩
  intro i t' ht' _
  obtain ⟨t, ht, hsame⟩ := h.to_some ht'
  exact .inl ⟨t, ht, hsame⟩

theorem events_of_threads (hthreads : u.threads = s.threads) (hinit : u.initThread = s.initThread)
    (hstage : u.scheduler.stage = s.scheduler.stage)
    (hmax : u.scheduler.maxStage = s.scheduler.maxStage) : Events s u :=
  .quiet (quiet_of_each (Each.of_eq SamePriority.refl hthreads) hinit hstage hmax)

theorem events_modify {f : Thread → Thread} {hf : ∀ t, (f t).tid = t.tid}
    (h : ∀ t, SamePriority t (f t)) :
    Events s (s.modify i f hf) :=
  .quiet (quiet_of_each (Each.modify SamePriority.refl s i f hf fun t _ => h t) rfl rfl rfl)

theorem samePriority_preempt (t : Thread) : SamePriority t (preempt t) := by
  unfold preempt
  split <;> exact ⟨Iff.rfl, rfl, rfl⟩

theorem samePriority_yieldQuantum (t : Thread) : SamePriority t (yieldQuantum t) := by
  unfold yieldQuantum
  split <;> exact ⟨Iff.rfl, rfl, rfl⟩

theorem samePriority_callBack (t : Thread) : SamePriority t (callBack t) := by
  unfold callBack
  split <;> exact ⟨Iff.rfl, rfl, rfl⟩

theorem sleepThread_events (s : KernelState) (i : Nat) (t : Thread) (htid : t.tid = i) :
    Events s (sleepThread s i t) := by
  unfold sleepThread
  split
  · have hexhaust : Events s (s.modify i exhaustQuantum fun _ => rfl) :=
      events_modify fun _ => ⟨Iff.rfl, rfl, rfl⟩
    apply hexhaust.trans
    dsimp only
    rw [htid]
    generalize (s.modify i exhaustQuantum fun _ => rfl) = v
    have heach : Each SamePriority v { v with
        threads := doThreadWaiting v.threads v.jiffies i t.deferred.desiredSleepMs } := by
      apply Each.modifyTid SamePriority.refl
      intro t' _
      split <;> exact ⟨Iff.rfl, rfl, rfl⟩
    have hwait := Events.quiet (quiet_of_each heach rfl rfl rfl)
    exact hwait.trans (events_modify fun _ => ⟨Iff.rfl, rfl, rfl⟩)
  · exact Events.refl s

theorem stayInQuantum_events (s : KernelState) (i : Nat) (t : Thread) (htid : t.tid = i) :
    Events s (stayInQuantum s i t) :=
  (events_modify samePriority_yieldQuantum).trans (sleepThread_events _ i t htid)

theorem dispatchCurrent_events (h : dispatchCurrent s = .ok (out, u)) : Events s u := by
  unfold dispatchCurrent at h
  split at h
  · cases h
  split at h
  · cases h
  split at h
  · cases h
  split at h
  · cases h
  rename_i target v htarget
  split at h
  · cases h
  split at h
  · cases h
  rename_i i w hdispatch
  split at h
  · cases h
  rename_i x hprocess
  cases h
  have hready : Events s v := by
    rcases dispatchTarget_ok htarget with ⟨_, _, rfl⟩ | ⟨_, _, rfl⟩
    · exact Events.refl s
    · exact events_modify fun _ => ⟨Iff.rfl, rfl, rfl⟩
  obtain ⟨_, _, _, _, rfl⟩ := dispatcher_ok hdispatch
  obtain ⟨_, rfl⟩ := selectProcess_ok hprocess
  apply hready.trans
  apply Events.step (.clampMax target) trivial rfl
  exact Events.step (.runThread i) trivial rfl (events_of_threads rfl rfl rfl rfl)

theorem psScheduler_events {tid : Int} (hinv : PriorityInv s)
    (hpolicy : s.scheduler.policy = .priorityInterleaving) (h : psScheduler s = .ok (tid, u)) :
    Events s u ∧ u.scheduler.policy = .priorityInterleaving := by
  unfold psScheduler at h
  split at h
  · cases h
    exact ⟨Events.refl s, hpolicy⟩
  split at h
  · cases h
  unfold scheduler at h
  split at h
  · cases h
  dsimp only at h
  split at h
  · cases h
  split at h
  · cases h
  rw [hpolicy] at h
  dsimp only at h
  split at h
  · cases h
  rename_i first v hcall
  obtain ⟨_, rfl⟩ := Passes.checkFirst_ok h
  have hbegin : Events s { s with systemState := .scheduling } := events_of_threads rfl rfl rfl rfl
  have hend : Events v { v with systemState := .running } := events_of_threads rfl rfl rfl rfl
  have hinv' := hbegin.inv hinv
  obtain ⟨_, hcalled⟩ := schedulerPriorityinterleaving_called hinv'.initThread hinv'.maxStage
    hinv'.low hinv'.high hcall
  have hstep : priorityStep { s with systemState := .scheduling } .schedule =
      .ok (some ⟨({ s with systemState := .scheduling } : KernelState), first, v⟩, v) := by
    rw [priorityStep, hcall]
  refine ⟨hbegin.trans (Events.step .schedule trivial hstep hend), ?_⟩
  change v.scheduler.policy = _
  rw [hcalled.scheduler]
  exact hpolicy

theorem zeroGravity_events (hinv : PriorityInv s)
    (hpolicy : s.scheduler.policy = .priorityInterleaving) (h : zeroGravity fuel s = .ok (out, u)) :
    Events s u := by
  induction fuel generalizing s with
  | zero => cases h
  | succ fuel ih =>
      have hcurrent : ∀ (v : KernelState) (tid : Int), Events v { v with currentThread := tid } :=
        fun _ _ => events_of_threads rfl rfl rfl rfl
      cases zeroGravity_turn h with
      | responder i _ h =>
          have hqueue : Events (s.modify i respondNow fun _ => rfl)
              { s.modify i respondNow fun _ => rfl with currentq := some i } :=
            events_of_threads rfl rfl rfl rfl
          have hrespond := Events.step (.respondNow i) trivial rfl hqueue
          exact (hrespond.trans (hcurrent _ _)).trans (dispatchCurrent_events h)
      | next q i t _ _ _ _ _ _ h =>
          have hqueue : Events s { s with currentq := some i } := events_of_threads rfl rfl rfl rfl
          exact (hqueue.trans (hcurrent _ _)).trans (dispatchCurrent_events h)
      | endOfQueue q tid v _ _ _ hsched h =>
          exact ((psScheduler_events hinv hpolicy hsched).1.trans (hcurrent _ _)).trans
            (dispatchCurrent_events h)
      | again q i tid v _ _ _ _ hsched h =>
          have hqueue : Events s { s with currentq := some i } := events_of_threads rfl rfl rfl rfl
          obtain ⟨hpass, hpolicy'⟩ := psScheduler_events (hqueue.inv hinv) hpolicy hsched
          have hturn := (hqueue.trans hpass).trans (hcurrent v tid)
          exact hturn.trans (ih (hturn.inv hinv) hpolicy' h)

theorem endOfQuantum_events (hinv : PriorityInv s)
    (hpolicy : s.scheduler.policy = .priorityInterleaving)
    (h : endOfQuantum fuel s i = .ok (out, u)) : Events s u := by
  have hpreempt : Events s (s.modify i preempt preempt_tid) := events_modify samePriority_preempt
  obtain ⟨_, hgravity⟩ | ⟨j, t, _, _, _, rfl⟩ := endOfQuantum_cases h
  · exact hpreempt.trans (zeroGravity_events (hpreempt.inv hinv) hpolicy hgravity)
  · apply hpreempt.trans
    apply Events.quiet
    refine quiet_of_each ?_ rfl rfl rfl
    exact Each.modify SamePriority.refl _ _ (startThread s.initThread) (fun _ => rfl)
      fun _ _ => ⟨Iff.rfl, rfl, rfl⟩

theorem taskSwitch_events (hinv : PriorityInv s)
    (hpolicy : s.scheduler.policy = .priorityInterleaving) (h : taskSwitch fuel s = .ok (out, u)) :
    Events s u := by
  have hcount : ∀ tgid i, Events s ({ s with currentProcess := tgid }.modify i countTick
      fun _ => rfl) := by
    intro tgid i
    have hprocess : Events s { s with currentProcess := tgid } := events_of_threads rfl rfl rfl rfl
    exact hprocess.trans (events_modify fun _ => ⟨Iff.rfl, rfl, rfl⟩)
  have hsave : ∀ tgid i, Events s (tickedKernel s tgid i) := by
    intro tgid i
    exact (hcount tgid i).trans (events_modify fun _ => ⟨Iff.rfl, rfl, rfl⟩)
  obtain ⟨_, t, ht, _, ⟨_, _, rfl⟩ | ⟨_, _, rfl⟩ | ⟨_, hend⟩⟩ := taskSwitch_cases h
  · exact hcount _ _
  · exact (hsave _ _).trans (stayInQuantum_events _ _ t (s.threads.tid_eq _ t ht))
  · exact (hsave _ _).trans (endOfQuantum_events ((hsave _ _).inv hinv) hpolicy hend)

theorem tsTaskSwitch_events (hinv : PriorityInv s)
    (hpolicy : s.scheduler.policy = .priorityInterleaving)
    (h : tsTaskSwitch fuel s = .ok (out, u)) :
    Events s u := by
  obtain ⟨v, hswitch, rfl | rfl⟩ := tsTaskSwitch_cases h
  · exact taskSwitch_events hinv hpolicy hswitch
  · exact (taskSwitch_events hinv hpolicy hswitch).trans (events_modify samePriority_callBack)

/-- A timer interrupt, or what happens to the priorities between two of them. -/
inductive KernelEvent where
  | taskSwitch (fuel : Nat)
  | between (event : PriorityEvent)

def kernelStep (s : KernelState) : KernelEvent → Except String (Option Switched × KernelState)
  | .taskSwitch fuel =>
      match tsTaskSwitch fuel s with
      | .error e => .error e
      | .ok (out, u) => .ok (some out, u)
  | .between event =>
      match priorityStep s event with
      | .error e => .error e
      | .ok (_, u) => .ok (none, u)

def Allowed (s : KernelState) : KernelEvent → Prop
  | .taskSwitch _ => s.scheduler.policy = .priorityInterleaving
  | .between event => Meets s event

theorem kernelStep_events {event : KernelEvent} {out : Option Switched} (hs : PriorityInv s)
    (hallowed : Allowed s event) (h : kernelStep s event = .ok (out, u)) : Events s u := by
  cases event with
  | taskSwitch fuel =>
      rw [kernelStep] at h
      split at h
      · cases h
      · rename_i hswitch
        cases h
        exact tsTaskSwitch_events hs hallowed hswitch
  | between event =>
      rw [kernelStep] at h
      split at h
      · cases h
      · rename_i hstep
        cases h
        exact Events.step event hallowed hstep (Events.refl _)

/-- Under the priority interleaving every run of timer interrupts, with changes of the priorities
between them, is a run of the events. No stage leaves its range, and no priority. -/
theorem kernel_run_events {s u : KernelState} {events : List KernelEvent}
    {outs : List (Option Switched)} (hs : PriorityInv s)
    (hallowed : Guarded kernelStep Allowed s events)
    (hrun : run kernelStep s events = .ok (outs, u)) : Events s u ∧ PriorityInv u := by
  apply run_invariant (fun t => Events s t ∧ PriorityInv t) _ ⟨Events.refl s, hs⟩ hallowed hrun
  rintro t event out w ⟨ht, hinv⟩ hallowed hstep
  have hw := kernelStep_events hinv hallowed hstep
  exact ⟨ht.trans hw, hw.inv hinv⟩

theorem kernel_run_events_twoThreads : ∃ outs u,
    run kernelStep twoThreads [.taskSwitch 2] = .ok (outs, u) ∧ Events twoThreads u ∧
      PriorityInv u := by
  have hok : (run kernelStep twoThreads [.taskSwitch 2]).isOk = true := by decide +kernel
  cases hrun : run kernelStep twoThreads [.taskSwitch 2] with
  | error e =>
      rw [hrun] at hok
      cases hok
  | ok r =>
      have hallowed : Guarded kernelStep Allowed twoThreads [.taskSwitch 2] := guarded_singleton rfl
      exact ⟨r.1, r.2, rfl, kernel_run_events twoThreads_ready.inv hallowed hrun⟩

end Gramado.Ke.SwitchEvents
