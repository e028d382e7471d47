import Gramado.Ke.WakeUps

/-! When a task switch, which may call the scheduler several times, ends the wait of a
thread. -/

namespace Gramado.Ke.SwitchWakeUps

open Ke.Table Ke.RoundRobin Ke.Stages Ke.TaskSwitch Ke.Doomed Ke.Passes Ke.Dispatch Ke.Preemption
open Ke.WakeUps

variable {s u : KernelState} {out : Switched} {fuel i : Nat} {jiffies : UInt64} {t t' : Thread}
  {policy : Policy}

theorem dispatchCurrent_at (h : dispatchCurrent s = .ok (out, u)) (i : Nat) :
    ∃ j t, out = .dispatched j ∧ s.threads.threadList j = some t ∧
      (t.state = .ready ∨ s.initThread = some j) ∧
      (i = j → ∃ t', u.threads.threadList i = some t' ∧ t'.state = .running) ∧
      (i ≠ j → u.threads.threadList i = s.threads.threadList i) := by
  obtain ⟨j, t, f, _, hout, ht, _, hcase, hlist⟩ := dispatchCurrent_cases h
  refine ⟨j, t, hout, ht, hcase.imp And.left fun hinit => hinit.2.1, ?_, ?_⟩
  · rintro rfl
    exact ⟨_, by rw [hlist, Function.update_self], rfl⟩
  · intro hne
    rw [hlist, Function.update_of_ne hne]

theorem zeroGravity_stillWaits (h : zeroGravity fuel s = .ok (out, u)) (i : Nat) :
    At StillWaits s u i := by
  apply zeroGravity_rule (K := fun v => At StillWaits s v i)
    (Q := fun _ w => At StillWaits s w i) _ (fun _ _ hv => hv) (fun _ _ hv => hv) _ _ _ h
  · intro v w tid hv hsched
    exact hv.trans (fun _ _ _ hab hbc => hab.trans hbc.stillWaits)
      ((psScheduler_passedBy hsched).2 i)
  · intro v j hv _
    apply stillWaits_trans hv
    apply At.of_each
    exact Each.modify StillWaits.refl v j respondNow (fun _ => rfl) fun t _ =>
      StillWaits.of_not (by simp [respondNow])
  · intro v out w hv hdispatch
    obtain ⟨j, _, _, _, _, hself, hother⟩ := dispatchCurrent_at hdispatch i
    apply stillWaits_trans hv
    rcases eq_or_ne i j with heq | hne
    · obtain ⟨t', ht', hrunning⟩ := hself heq
      exact fun _ _ => ⟨t', ht', StillWaits.of_not (by simp [hrunning])⟩
    · exact At.of_eq StillWaits.refl (hother hne)
  · exact At.of_eq StillWaits.refl rfl

/-- The thread at the place `i` is dormant, and not the init thread. -/
def DormantAt (i : Nat) (jiffies : UInt64) (s : KernelState) : Prop :=
  s.jiffies = jiffies ∧ s.initThread ≠ some i ∧
    ∃ t, s.threads.threadList i = some t ∧ Dormant jiffies t

theorem zeroGravity_dormant (hi : i ≠ 0) (hs : DormantAt i jiffies s)
    (h : zeroGravity fuel s = .ok (out, u)) :
    ∃ t, u.threads.threadList i = some t ∧ ¬ Live t.state := by
  apply zeroGravity_rule (K := DormantAt i jiffies)
    (Q := fun _ w => ∃ t, w.threads.threadList i = some t ∧ ¬ Live t.state)
    _ (fun _ _ hv => hv) (fun _ _ hv => hv) _ _ hs h
  · rintro v w tid ⟨rfl, hinit, t, ht, hdormant⟩ hsched
    obtain ⟨hcontrols, hthreads⟩ := psScheduler_passedBy hsched
    obtain ⟨t', ht', hpassed⟩ := hthreads i t ht
    refine ⟨hcontrols.jiffies, ?_, t', ht', hpassed.dormant hi hdormant⟩
    rw [hcontrols.initThread]
    exact hinit
  · rintro v j ⟨hjiffies, hinit, t, ht, hdormant⟩ hj
    refine ⟨hjiffies, hinit, t, ?_, hdormant⟩
    have hne : i ≠ j := by
      rintro rfl
      obtain ⟨t', ht', _, hpending⟩ := pendingResponder_valid hj
      rw [ht] at ht'
      cases ht'
      exact absurd (hpending.symm.trans hdormant.pending) (by decide)
    have hlist := threadList_modify v.threads j respondNow (fun _ => rfl) i
    rw [if_neg hne] at hlist
    exact hlist.trans ht
  · rintro v out w ⟨_, hinit, t, ht, hdormant⟩ hdispatch
    obtain ⟨j, t', _, ht', hcase, _, hother⟩ := dispatchCurrent_at hdispatch i
    have hne : i ≠ j := by
      rintro rfl
      rw [ht] at ht'
      cases ht'
      exact hcase.elim (fun hready => hdormant.live (.inl hready)) hinit
    exact ⟨t, (hother hne).trans ht, hdormant.live⟩

/-- The thread at the place `i` is awake: it is ready to run, or has been chosen to. -/
def AwakeAt (i : Nat) (out : Switched) (u : KernelState) : Prop :=
  ∃ t, u.threads.threadList i = some t ∧
    (t.state = .ready ∨ t.state = .running ∧ out = .dispatched i)

/-- The thread at the place `i` is ready to run and stays so in the next passes. -/
def ReadyFor (i : Nat) (policy : Policy) (s : KernelState) : Prop :=
  s.scheduler.policy = policy ∧
    ∃ t, s.threads.threadList i = some t ∧ t.state = .ready ∧ Reaches policy i t

theorem psScheduler_readyFor {tid : Int} (ht : s.threads.threadList i = some t)
    (hreaches : Reaches s.scheduler.policy i t)
    (hready : t.state = .ready ∨ Walks s ∧ Due s.jiffies t) (h : psScheduler s = .ok (tid, u)) :
    ReadyFor i s.scheduler.policy u := by
  obtain ⟨hcontrols, hthreads⟩ := psScheduler_passedBy h
  obtain ⟨t', ht', hpassed⟩ := hthreads i t ht
  obtain ⟨hstate, hreaches'⟩ := hpassed.awake hreaches hready
  exact ⟨hcontrols.policy, t', ht', hstate, hreaches'⟩

theorem dispatchCurrent_awake (hs : ReadyFor i policy s) (h : dispatchCurrent s = .ok (out, u)) :
    AwakeAt i out u := by
  obtain ⟨_, t, ht, hready, _⟩ := hs
  obtain ⟨j, _, hout, _, _, hself, hother⟩ := dispatchCurrent_at h i
  rcases eq_or_ne i j with rfl | hne
  · obtain ⟨t', ht', hrunning⟩ := hself rfl
    exact ⟨t', ht', .inr ⟨hrunning, hout⟩⟩
  · exact ⟨t, (hother hne).trans ht, .inl hready⟩

theorem reaches_respondNow (h : Reaches policy i t) : Reaches policy i (respondNow t) := by
  cases policy <;> exact h

theorem zeroGravity_awake (hs : ReadyFor i policy s) (h : zeroGravity fuel s = .ok (out, u)) :
    AwakeAt i out u := by
  apply zeroGravity_rule (K := ReadyFor i policy) (Q := AwakeAt i)
    _ (fun _ _ hv => hv) (fun _ _ hv => hv) _ (fun _ _ _ hv => dispatchCurrent_awake hv) hs h
  · rintro v w tid ⟨rfl, t, ht, hready, hreaches⟩ hsched
    exact psScheduler_readyFor ht hreaches (.inl hready) hsched
  · rintro v j ⟨hpolicy, t, ht, hready, hreaches⟩ _
    have hlist := threadList_modify v.threads j respondNow (fun _ => rfl) i
    refine ⟨hpolicy, ?_⟩
    rcases eq_or_ne i j with rfl | hne
    · rw [if_pos rfl, ht] at hlist
      exact ⟨_, hlist, rfl, reaches_respondNow hreaches⟩
    · rw [if_neg hne] at hlist
      exact ⟨t, hlist.trans ht, hready, hreaches⟩

theorem zeroGravity_wakes (hnone : pendingResponder s = none) (hnext : ¬ NextReady s)
    (hwalks : Walks s) (ht : s.threads.threadList i = some t) (hdue : Due s.jiffies t)
    (hreaches : Reaches s.scheduler.policy i t) (h : zeroGravity fuel s = .ok (out, u)) :
    AwakeAt i out u := by
  cases fuel with
  | zero => cases h
  | succ fuel =>
      cases zeroGravity_turn h with
      | responder j hj _ =>
          rw [hnone] at hj
          cases hj
      | next q j t' _ hq hj ht' hvalid hready _ =>
          exact absurd ⟨t', (nextThread_eq hq hj).trans ht', hvalid, hready⟩ hnext
      | endOfQueue q tid v _ _ _ hsched h =>
          have hready := psScheduler_readyFor ht hreaches (.inr ⟨hwalks, hdue⟩) hsched
          exact dispatchCurrent_awake (s := { v with currentThread := tid }) hready h
      | again q j tid v _ _ _ _ hsched h =>
          have hready := psScheduler_readyFor (s := { s with currentq := some j }) ht hreaches
            (.inr ⟨hwalks, hdue⟩) hsched
          exact zeroGravity_awake (s := { v with currentThread := tid }) hready h

def wakeTime (jiffies ms : UInt64) : UInt64 :=
  jiffies + if ms = 0 then 1 else ms

/-- The time to wake up that the task switch sets for the thread at the place `i`, if that is the
current thread and has asked to sleep. -/
def sleepServed (s : KernelState) (i : Nat) : Option UInt64 :=
  match s.threads.threadList i with
  | none => none
  | some t =>
      if t.tid = s.currentThread ∧ s.taskSwitchStatus = .unlocked ∧
          t.runningCount + 1 < t.quantum ∧ t.state = .running ∧
          t.deferred.sleepInProgress = true then
        some (wakeTime s.jiffies t.deferred.desiredSleepMs)
      else none

theorem sleepThread_update {L : Nat → Option Thread}
    (h : s.threads.threadList = Function.update L i (some t')) (htid : t.tid = t'.tid)
    (hvalid : t'.Valid) (hsleep : t.state = .running ∧ t.deferred.sleepInProgress = true) :
    (sleepThread s i t).threads.threadList = Function.update L i (some (endSleepRequest
      ((exhaustQuantum t').waitUntil (wakeTime s.jiffies t.deferred.desiredSleepMs)))) := by
  have hexhaust := modify_update h exhaustQuantum fun _ => rfl
  have hwait := modifyTid_update hexhaust
    (Thread.waitUntil (wakeTime s.jiffies t.deferred.desiredSleepMs)) fun _ => rfl
  have hvalid' : (exhaustQuantum t').Valid := hvalid
  rw [if_pos hvalid'] at hwait
  rw [sleepThread, if_pos hsleep]
  dsimp only
  rw [htid]
  exact modify_update hwait endSleepRequest fun _ => rfl

def steadyThread (t : Thread) : Thread :=
  yieldQuantum (saveContext (countTick t))

theorem sameWait_yieldQuantum (t : Thread) : SameWait t (yieldQuantum t) := by
  unfold yieldQuantum
  split <;> exact ⟨Iff.rfl, rfl, rfl, rfl, rfl, rfl⟩

theorem sameWait_steadyThread (t : Thread) : SameWait t (steadyThread t) := by
  have hcount : SameWait t (saveContext (countTick t)) := ⟨Iff.rfl, rfl, rfl, rfl, rfl, rfl⟩
  exact hcount.trans (sameWait_yieldQuantum _)

theorem steadyThread_tid (t : Thread) : (steadyThread t).tid = t.tid := by
  unfold steadyThread yieldQuantum
  split <;> rfl

theorem stayInQuantum_threads {tgid : Int} (ht : s.threads.threadList i = some t)
    (hvalid : t.Valid) :
    (stayInQuantum (tickedKernel s tgid i) i t).threads.threadList =
      Function.update s.threads.threadList i (some
        (if t.state = .running ∧ t.deferred.sleepInProgress = true then
          endSleepRequest ((exhaustQuantum (steadyThread t)).waitUntil
            (wakeTime s.jiffies t.deferred.desiredSleepMs))
        else steadyThread t)) := by
  have hself : s.threads.threadList = Function.update s.threads.threadList i (some t) :=
    (Function.update_eq_self_iff.mpr ht.symm).symm
  have hcount := modify_update hself countTick fun _ => rfl
  have hsave := modify_update hcount saveContext fun _ => rfl
  have hyield := modify_update hsave yieldQuantum fun t => by
    unfold yieldQuantum
    split <;> rfl
  unfold stayInQuantum
  dsimp only
  split
  · rename_i hsleep
    have hvalid' : (steadyThread t).Valid := (sameWait_steadyThread t).valid.mpr hvalid
    apply sleepThread_update _ (steadyThread_tid t).symm hvalid' hsleep
    exact hyield
  · rename_i hnot
    rw [sleepThread, if_neg hnot]
    exact hyield

/-- What a task switch comes to: it is locked, it goes on with the current thread, it spawns a
thread that stands by, or it selects another one. -/
inductive SwitchedBy (fuel : Nat) (s : KernelState) (out : Switched) (u : KernelState) : Prop where
  | locked (hlocked : s.taskSwitchStatus = .locked) (h : Each SameWait s u)
  | steady (t : Thread) (hcurrent : 0 ≤ s.currentThread)
      (ht : s.threads.threadList s.currentThread.toNat = some t) (hvalid : t.Valid)
      (hunlocked : s.taskSwitchStatus = .unlocked)
      (hquantum : t.runningCount + 1 < t.quantum)
      (hthreads : u.threads.threadList =
        (stayInQuantum (tickedKernel s t.tgid s.currentThread.toNat)
          s.currentThread.toNat t).threads.threadList)
  | spawned (v : KernelState) (hover : QuantumOver s) (hafter : AfterTick s v) (j : Nat)
      (hj : firstStandby s = some j)
      (hthreads : u.threads = (v.modify j (startThread v.initThread) fun _ => rfl).threads)
  | selected (v : KernelState) (hover : QuantumOver s) (hafter : AfterTick s v)
      (hscheduler : v.scheduler = s.scheduler) (h : zeroGravity fuel v = .ok (out, u))

theorem taskSwitch_switchedBy (h : taskSwitch fuel s = .ok (out, u)) : SwitchedBy fuel s out u := by
  obtain ⟨hcurrent, t, ht, hvalid, ⟨hlocked, _, rfl⟩ | ⟨⟨hunlocked, hquantum⟩, _, rfl⟩ |
    ⟨hover, hend⟩⟩ := taskSwitch_cases h
  · apply SwitchedBy.locked hlocked
    have hprocess : Each SameWait s { s with currentProcess := t.tgid } :=
      Each.of_eq SameWait.refl rfl
    exact sameWait_trans hprocess (sameWait_modify fun _ => ⟨Iff.rfl, rfl, rfl, rfl, rfl, rfl⟩)
  · exact .steady t hcurrent ht hvalid hunlocked hquantum rfl
  · have hafter := tickedKernel_afterTick (s := s) t.tgid hcurrent
    obtain ⟨_, hgravity⟩ | ⟨j, t', hstandby, _, _, rfl⟩ := endOfQuantum_cases hend
    · exact .selected _ hover hafter rfl hgravity
    · rw [hafter.firstStandby] at hstandby
      exact .spawned _ hover hafter j hstandby rfl

theorem tsTaskSwitch_of_taskSwitch {R : Thread → Prop} (hR : ∀ a b, R a → SameWait a b → R b)
    (hswitch : ∀ v, SwitchedBy fuel s out v → ∃ t, v.threads.threadList i = some t ∧ R t)
    (h : tsTaskSwitch fuel s = .ok (out, u)) :
    ∃ t, u.threads.threadList i = some t ∧ R t := by
  obtain ⟨v, hcall, rfl | rfl⟩ := tsTaskSwitch_cases h
  · exact hswitch _ (taskSwitch_switchedBy hcall)
  · obtain ⟨t, ht, hRt⟩ := hswitch v (taskSwitch_switchedBy hcall)
    have hcallBack : Each SameWait v (v.modify v.currentThread.toNat callBack callBack_tid) := by
      apply sameWait_modify
      intro t
      unfold callBack
      split <;> exact ⟨Iff.rfl, rfl, rfl, rfl, rfl, rfl⟩
    obtain ⟨t', ht', hsame⟩ := hcallBack.of_some ht
    exact ⟨t', ht', hR t t' hRt hsame⟩

theorem ticked_stillWaits (h : Ticked s t t') : StillWaits t t' :=
  fun hwaiting => ⟨(h.state_iff .waiting (by decide) (by decide)).mp hwaiting, h.wakeJiffy,
    h.valid.mpr⟩

theorem tsTaskSwitch_stillWaits (hnone : sleepServed s i = none)
    (h : tsTaskSwitch fuel s = .ok (out, u)) :
    At StillWaits s u i := by
  intro t ht
  apply tsTaskSwitch_of_taskSwitch (R := StillWaits t) _ _ h
  · exact fun _ _ hwaits hsame => hwaits.trans (StillWaits.of_sameWait hsame)
  intro v hv
  cases hv with
  | locked _ hsame =>
      obtain ⟨t', ht', hsame⟩ := hsame.of_some ht
      exact ⟨t', ht', StillWaits.of_sameWait hsame⟩
  | steady t' hcurrent ht' hvalid hunlocked hquantum hthreads =>
      rw [hthreads, stayInQuantum_threads ht' hvalid]
      rcases eq_or_ne i s.currentThread.toNat with rfl | hne
      · rw [ht] at ht'
        cases ht'
        rw [Function.update_self]
        refine ⟨_, rfl, ?_⟩
        split
        · rename_i hsleep
          have htid := s.threads.tid_eq _ t ht
          rw [sleepServed, ht] at hnone
          dsimp only at hnone
          rw [if_pos ⟨by omega, hunlocked, hquantum, hsleep⟩] at hnone
          cases hnone
        · exact StillWaits.of_sameWait (sameWait_steadyThread t)
      · rw [Function.update_of_ne hne]
        exact ⟨t, ht, StillWaits.refl t⟩
  | spawned w _ hafter j _ hthreads =>
      obtain ⟨t', ht', hticked⟩ := hafter.threads.of_some ht
      have hstart : Each StillWaits w (w.modify j (startThread w.initThread) fun _ => rfl) :=
        Each.modify StillWaits.refl w j (startThread w.initThread) (fun _ => rfl)
          fun t _ => StillWaits.of_not (by simp [startThread])
      obtain ⟨t'', ht'', hwaits⟩ := hstart.of_some ht'
      rw [hthreads]
      exact ⟨t'', ht'', (ticked_stillWaits hticked).trans hwaits⟩
  | selected w _ hafter _ hgravity =>
      obtain ⟨t', ht', hticked⟩ := hafter.threads.of_some ht
      obtain ⟨t'', ht'', hwaits⟩ := zeroGravity_stillWaits hgravity i t' ht'
      exact ⟨t'', ht'', (ticked_stillWaits hticked).trans hwaits⟩

theorem tsTaskSwitch_sleeps {jiffy : UInt64} (hserved : sleepServed s i = some jiffy)
    (h : tsTaskSwitch fuel s = .ok (out, u)) :
    ∃ t, u.threads.threadList i = some t ∧ t.Valid ∧ t.state = .waiting ∧ t.wakeJiffy = jiffy := by
  unfold sleepServed at hserved
  split at hserved
  · cases hserved
  rename_i t ht
  split at hserved
  · rename_i hserves
    cases hserved
    obtain ⟨htid, hunlocked, hquantum, hsleep⟩ := hserves
    have hi := s.threads.tid_eq i t ht
    obtain rfl : i = s.currentThread.toNat := by omega
    apply tsTaskSwitch_of_taskSwitch _ _ h
    · rintro a b ⟨hvalid, hstate, hwake⟩ hsame
      exact ⟨hsame.valid.mpr hvalid, hsame.state.trans hstate, hsame.wakeJiffy.trans hwake⟩
    intro v hv
    have hnot : ¬ QuantumOver s := by
      rintro ⟨_, t', ht', hover⟩
      rw [ht] at ht'
      cases ht'
      exact hover hquantum
    cases hv with
    | locked hlocked _ => exact absurd (hlocked.symm.trans hunlocked) (by decide)
    | steady t' _ ht' hvalid _ _ hthreads =>
        rw [ht] at ht'
        cases ht'
        rw [hthreads, stayInQuantum_threads ht hvalid, Function.update_self, if_pos hsleep]
        exact ⟨_, rfl, (sameWait_steadyThread t).valid.mpr hvalid, rfl, rfl⟩
    | spawned _ hover _ _ _ _ => exact absurd hover hnot
    | selected _ hover _ _ _ => exact absurd hover hnot
  · cases hserved

theorem ticked_dormant (h : Ticked s t t') (ht : Dormant jiffies t) : Dormant jiffies t' := by
  have hstate : t'.state = t.state := h.state.resolve_right fun hrun => ht.live (.inr hrun.1)
  refine ⟨?_, h.pending.trans ht.pending, ?_, ?_, ?_⟩
  · rw [h.msgctl]
    exact ht.event
  · rw [hstate]
    exact ht.live
  · rw [hstate]
    exact ht.standby
  · rw [hstate, h.wakeJiffy]
    exact ht.due

theorem tsTaskSwitch_dormant (hi : i ≠ 0) (hinit : s.initThread ≠ some i)
    (ht : s.threads.threadList i = some t) (hdormant : Dormant s.jiffies t)
    (h : tsTaskSwitch fuel s = .ok (out, u)) :
    ∃ t', u.threads.threadList i = some t' ∧ ¬ Live t'.state := by
  apply tsTaskSwitch_of_taskSwitch _ _ h
  · intro a b hlive hsame
    rw [hsame.state]
    exact hlive
  intro v hv
  cases hv with
  | locked _ hsame =>
      obtain ⟨t', ht', hsame⟩ := hsame.of_some ht
      exact ⟨t', ht', (hdormant.of_sameWait hsame).live⟩
  | steady t' _ ht' hvalid _ _ hthreads =>
      rw [hthreads, stayInQuantum_threads ht' hvalid]
      rcases eq_or_ne i s.currentThread.toNat with rfl | hne
      · rw [ht] at ht'
        cases ht'
        rw [Function.update_self, if_neg fun hsleep => hdormant.live (.inr hsleep.1)]
        exact ⟨_, rfl, (hdormant.of_sameWait (sameWait_steadyThread t)).live⟩
      · rw [Function.update_of_ne hne]
        exact ⟨t, ht, hdormant.live⟩
  | spawned w _ hafter j hj hthreads =>
      obtain ⟨t', ht', hticked⟩ := hafter.threads.of_some ht
      have hne : i ≠ j := by
        rintro rfl
        obtain ⟨t'', ht'', hstandby⟩ := firstStandby_some hj
        rw [ht] at ht''
        cases ht''
        exact hdormant.standby hstandby
      have hlist := threadList_modify w.threads j (startThread w.initThread) (fun _ => rfl) i
      rw [if_neg hne, ht'] at hlist
      rw [hthreads]
      exact ⟨t', hlist, (ticked_dormant hticked hdormant).live⟩
  | selected w _ hafter _ hgravity =>
      obtain ⟨t', ht', hticked⟩ := hafter.threads.of_some ht
      refine zeroGravity_dormant hi ⟨hafter.controls.jiffies, ?_, t', ht',
        ticked_dormant hticked hdormant⟩ hgravity
      rw [hafter.controls.initThread]
      exact hinit

/-- The task switch finds no thread to run and calls the scheduler. -/
structure Reschedules (s : KernelState) : Prop where
  quantumOver : QuantumOver s
  standby : firstStandby s = none
  responder : pendingResponder s = none
  next : ∀ t, nextThread s = some t → t.Valid → ¬ Runnable s t

theorem ticked_due (h : Ticked s t t') (hdue : Due jiffies t) : Due jiffies t' := by
  obtain ⟨hvalid, hwaiting, hle⟩ := hdue
  refine ⟨h.valid.mpr hvalid, (h.state_iff .waiting (by decide) (by decide)).mpr hwaiting, ?_⟩
  rw [h.wakeJiffy]
  exact hle

theorem ticked_reaches (h : Ticked s t t') (hreaches : Reaches policy i t) :
    Reaches policy i t' := by
  cases policy with
  | rr =>
      apply hreaches.imp_right
      unfold Unflagged
      rw [h.msgctl, h.exit]
      exact id
  | priorityInterleaving => exact hreaches
  | invalid => exact hreaches

theorem tsTaskSwitch_wakes (hcalls : Reschedules s) (hwalks : Walks s)
    (ht : s.threads.threadList i = some t) (hdue : Due s.jiffies t)
    (hreaches : Reaches s.scheduler.policy i t) (h : tsTaskSwitch fuel s = .ok (out, u)) :
    AwakeAt i out u := by
  apply tsTaskSwitch_of_taskSwitch _ _ h
  · intro a b hawake hsame
    rw [hsame.state]
    exact hawake
  intro v hv
  obtain ⟨hunlocked, t', ht', hover⟩ := hcalls.quantumOver
  cases hv with
  | locked hlocked _ => exact absurd (hlocked.symm.trans hunlocked) (by decide)
  | steady t'' _ ht'' _ _ hquantum _ =>
      rw [ht'] at ht''
      cases ht''
      exact absurd hquantum hover
  | spawned _ _ _ j hj _ =>
      rw [hcalls.standby] at hj
      cases hj
  | selected w _ hafter hscheduler hgravity =>
      obtain ⟨t'', ht'', hticked⟩ := hafter.threads.of_some ht
      have hwalks' : Walks w := by
        unfold Walks currentStage
        rw [hscheduler]
        exact hwalks
      have hnext : ¬ NextReady w := by
        rintro ⟨a, ha, hvalid, hready⟩
        have hrel := hafter.nextThread
        rw [ha] at hrel
        generalize hb : nextThread s = b at hrel
        cases hrel with
        | some hab =>
            exact hcalls.next _ hb (hab.valid.mp hvalid) (hab.ready.mp hready)
      apply zeroGravity_wakes _ hnext hwalks' ht'' _ _ hgravity
      · rw [hafter.pendingResponder]
        exact hcalls.responder
      · rw [hafter.controls.jiffies]
        exact ticked_due hticked hdue
      · rw [hscheduler]
        exact ticked_reaches hticked hreaches

end Gramado.Ke.SwitchWakeUps
