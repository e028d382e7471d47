import Gramado.Ke.Mailbox
import Gramado.Ke.Preemption

/-! Whether a thread that has ended or wants to exit is put back or runs again, over all the
runs of posts, notifications, requests to exit, scheduler passes and task switches. -/

namespace Gramado.Ke.Resurrection

open Library Ke.Table Ke.Ipc Ke.Mailbox Ke.Stages Ke.TaskSwitch Ke.Doomed Ke.Passes Ke.Dispatch
open Ke.Preemption

def noteEvent (pending : Bool) (t : Thread) : Thread :=
  { t with msgctl := { t.msgctl with hasEventFromDs := pending } }

/-- `sys_notify_event`, which obeys the display server only. -/
def sysNotifyEvent (s : KernelState) (callerTid targetTid eventNumber : Int) :
    Int × KernelState :=
  if targetTid < 0 ∨ THREAD_COUNT_MAX ≤ targetTid then (-1, s)
  else
    match s.threads.threadList targetTid.toNat with
    | none => (-1, s)
    | some t =>
        if t.magic ≠ 1234 then (-1, s)
        else
          let fIsDisplayServer :=
            s.displayServer.initialized = true ∧ s.displayServer.tid = callerTid
          if eventNumber = 8000 then
            (0, if fIsDisplayServer then s.modify targetTid.toNat (noteEvent true) fun _ => rfl
              else s)
          else if eventNumber = 8001 then
            (0, if fIsDisplayServer then s.modify targetTid.toNat (noteEvent false) fun _ => rfl
              else s)
          else (-1, s)

def requestExit (t : Thread) : Thread :=
  { t with deferred := { t.deferred with exitInProgress := true } }

/-- `exit_thread`, which leaves it to the scheduler to make the thread a `ZOMBIE`. -/
def exitThread (s : KernelState) (tid : Int) : Except String (Int × KernelState) :=
  if tid < 0 ∨ THREAD_COUNT_MAX ≤ tid then .ok (-1, s)
  else
    match s.idleThread with
    | none => .error "exit_thread: Idle\n"
    | some idle =>
        match s.threads.threadList idle with
        | none => .error "page fault"
        | some t =>
            if t.magic ≠ 1234 then .error "exit_thread: Idle validation\n"
            else if tid = t.tid then
              .error "exit_thread: We can't kill the Idle thread\n"
            else
              match s.threads.threadList tid.toNat with
              | none => .ok (-1, s)
              | some t =>
                  if t.magic ≠ 1234 then .ok (-1, s)
                  else .ok (0, s.modify tid.toNat requestExit fun _ => rfl)

inductive KernelCall where
  | post (sender receiver msg : Int) (long1 long2 : UInt64)
  | post2 (sender receiver msg : Int) (long1 long2 long3 long4 : UInt64)
  | get (ubuf : Option (Nat → UInt64))
  | notifyEvent (caller target eventNumber : Int)
  | exit (tid : Int)
  | tick
  | schedule
  | switch (fuel : Nat)

def stays {α : Type} (result : Except String (α × KernelState)) :
    Except String (Switched × KernelState) :=
  match result with
  | .error e => .error e
  | .ok (_, s) => .ok (.same, s)

def kernelStep (s : KernelState) (call : KernelCall) : Except String (Switched × KernelState) :=
  match call with
  | .post sender receiver msg long1 long2 =>
      stays (ipcPostMessageToTid s sender receiver msg long1 long2)
  | .post2 sender receiver msg long1 long2 long3 long4 =>
      stays (ipcPostMessageToTid2 s sender receiver msg long1 long2 long3 long4)
  | .get ubuf => stays (ipcGetMessage s ubuf)
  | .notifyEvent caller target eventNumber => .ok (.same, (sysNotifyEvent s caller target eventNumber).2)
  | .exit tid => stays (exitThread s tid)
  | .tick => .ok (.same, { s with jiffies := s.jiffies + 1 })
  | .schedule => stays (psScheduler s)
  | .switch fuel => tsTaskSwitch fuel s

/-- No doomed thread at the place `i` is other than `READY`. -/
def Restful (s : KernelState) (i : Nat) : Prop :=
  ∀ t, s.threads.threadList i = some t → IsDoomed t → t.state = .ready

def Revives (s : KernelState) (isMouse : Prop) (t : Thread) : Prop :=
  s.useEventResponder = true ∨ isMouse ∨
    (t.state = .waiting ∨ t.state = .blocked) ∧ t.waitReason.wakes = true

def SafePost (s : KernelState) (isMouse : Prop) (receiver : Int) : Prop :=
  ∀ t, s.threads.threadList (receiver % 0x10000).toNat = some t → t.Valid →
    Revives s isMouse t → IsDoomed t → t.state = .ready

def Safe (s : KernelState) (call : KernelCall) : Prop :=
  match call with
  | .post _ receiver msg _ _ => 0 < msg → SafePost s (msg = MSG_MOUSEMOVE) receiver
  | .post2 _ receiver msg _ _ _ _ => 0 ≤ msg → SafePost s False receiver
  | .get _ | .notifyEvent _ _ _ | .exit _ | .tick => True
  | .schedule => s.scheduler.isLocked = false → SafePass s
  | .switch _ => SafeSwitch s

def Preempts (s : KernelState) (call : KernelCall) : Prop :=
  match call with
  | .switch _ => PreemptsDoomed s
  | _ => False

variable {s u : KernelState} {i : Nat} {t : Thread} {msg rc sender receiver tid : Int}
  {long1 long2 : UInt64} {out : Switched}

theorem restful_modify {f : Thread → Thread} {hf : ∀ t, (f t).tid = t.tid} (h : Restful s i)
    (hready : ∀ t, (f t).state = .ready)
    (hexit : ∀ t, (f t).deferred.exitInProgress = t.deferred.exitInProgress) :
    Each Kept s (s.modify i f hf) ∧ Restful (s.modify i f hf) i := by
  constructor
  · apply Each.modify Kept.refl
    intro t ht hdoomed
    have hstate := h t ht hdoomed
    refine ⟨?_, fun _ => (hready t).trans hstate.symm⟩
    rcases hdoomed with hzombie | hdead | hexit'
    · exact absurd (hstate.symm.trans hzombie) (by decide)
    · exact absurd (hstate.symm.trans hdead) (by decide)
    · exact .inr (.inr ((hexit t).trans hexit'))
  · intro t' ht' _
    have hlist := (threadList_modify s.threads i f hf i).symm.trans ht'
    rw [if_pos rfl] at hlist
    obtain ⟨t, _, rfl⟩ := Option.map_eq_some_iff.mp hlist
    exact hready t

theorem restful_wakeTarget (h : Restful s i) :
    Each Kept s (wakeTarget s i t) ∧ Restful (wakeTarget s i t) i := by
  unfold wakeTarget
  split
  · constructor
    · have hready : Each Passed s { s with threads := doThreadReady s.threads i } :=
        (passStep_doThreadReady s i fun t ht _ hdoomed => h t ht hdoomed).threads
      exact each_kept_of_passed hready
    · intro t' ht' hdoomed
      have hlist := (threadList_modifyTid s.threads i (Thread.setState .ready) (fun _ => rfl)
        i).symm.trans ht'
      rw [if_pos rfl] at hlist
      obtain ⟨t'', ht'', rfl⟩ := Option.map_eq_some_iff.mp hlist
      split
      · rfl
      · rename_i hinvalid
        rw [if_neg hinvalid] at hdoomed
        exact h t'' ht'' hdoomed
  · exact ⟨Each.of_eq Kept.refl rfl, h⟩

theorem restful_respond (h : Restful s i) :
    Each Kept s (respond s i) ∧ Restful (respond s i) i := by
  unfold respond
  split
  · have hanswer : Each Kept s (s.modify i answerEvent fun _ => rfl) ∧
        Restful (s.modify i answerEvent fun _ => rfl) i :=
      restful_modify h (fun _ => rfl) fun _ => rfl
    exact hanswer
  · exact ⟨Each.of_eq Kept.refl rfl, h⟩

theorem restful_boostMouse (h : Restful s i) : Each Kept s (boostMouse s i msg) := by
  unfold boostMouse
  split
  · have hboost : Each Kept s (s.modify i boostQuantum fun _ => rfl) ∧
        Restful (s.modify i boostQuantum fun _ => rfl) i :=
      restful_modify h (fun _ => rfl) fun _ => rfl
    exact hboost.1
  · exact Each.of_eq Kept.refl rfl

theorem deliver_kept (msg : Int) (ht : s.threads.threadList i = some t)
    (hsafe : Revives s (msg = MSG_MOUSEMOVE) t → IsDoomed t → t.state = .ready) :
    Each Kept s (boostMouse (respond (wakeTarget s i t) i) i msg) := by
  by_cases hrevives : Revives s (msg = MSG_MOUSEMOVE) t
  · have hrestful : Restful s i := by
      intro t' ht'
      rw [ht] at ht'
      cases ht'
      exact hsafe hrevives
    obtain ⟨hwake, hwoken⟩ := restful_wakeTarget (t := t) hrestful
    obtain ⟨hrespond, hresponded⟩ := restful_respond hwoken
    exact each_kept_trans (each_kept_trans hwake hrespond) (restful_boostMouse hresponded)
  · unfold Revives at hrevives
    rw [not_or, not_or] at hrevives
    have hwake : wakeTarget s i t = s := if_neg hrevives.2.2
    have hrespond : respond s i = s := if_neg hrevives.1
    have hboost : boostMouse s i msg = s := if_neg hrevives.2.1
    rw [hwake, hrespond, hboost]
    exact Each.of_eq Kept.refl rfl

theorem enqueue_kept {name : String} {dst : Int} {fill : Message → Message}
    (h : enqueue name s dst t fill = .ok (rc, u)) : Each Kept s u := by
  unfold enqueue at h
  split at h
  · cases h
  split at h
  · cases h
  · cases h
    exact each_kept_of_sameState (sameState_modify fun _ => ⟨rfl, rfl⟩)

theorem post_kept (hsafe : 0 < msg → SafePost s (msg = MSG_MOUSEMOVE) receiver)
    (h : ipcPostMessageToTid s sender receiver msg long1 long2 = .ok (rc, u)) :
    Each Kept s u := by
  unfold ipcPostMessageToTid at h
  dsimp only at h
  split at h
  · cases h
    exact Each.of_eq Kept.refl rfl
  rename_i hcode
  split at h
  · cases h
  rename_i t htarget
  obtain ⟨hdst, ht, hvalid⟩ := target_ok htarget
  have hdeliver := deliver_kept msg ht (hsafe (by omega) t ht hvalid)
  rw [Int.toNat_of_nonneg hdst] at hdeliver
  apply each_kept_trans hdeliver
  split at h
  · split at h
    · cases h
    split at h
    · cases h
      exact each_kept_of_sameState (sameState_modify fun _ => ⟨rfl, rfl⟩)
    · exact enqueue_kept h
  · exact enqueue_kept h

theorem post2_kept {long3 long4 : UInt64} (hsafe : 0 ≤ msg → SafePost s False receiver)
    (h : ipcPostMessageToTid2 s sender receiver msg long1 long2 long3 long4 = .ok (rc, u)) :
    Each Kept s u := by
  unfold ipcPostMessageToTid2 at h
  dsimp only at h
  split at h
  · cases h
    exact Each.of_eq Kept.refl rfl
  rename_i hcode
  split at h
  · cases h
  rename_i t htarget
  obtain ⟨hdst, ht, hvalid⟩ := target_ok htarget
  have hmouse : ¬ (0 : Int) = MSG_MOUSEMOVE := by decide
  have hdeliver := deliver_kept 0 ht fun hrevives =>
    hsafe (by omega) t ht hvalid (hrevives.imp_right (Or.imp_left hmouse))
  rw [Int.toNat_of_nonneg hdst, boostMouse, if_neg hmouse] at hdeliver
  exact each_kept_trans hdeliver (enqueue_kept h)

theorem get_kept {ubuf : Option (Nat → UInt64)} {outcome : GetOutcome}
    (h : ipcGetMessage s ubuf = .ok (outcome, u)) : Each Kept s u := by
  unfold ipcGetMessage at h
  dsimp only at h
  split at h
  · cases h
  split at h
  · cases h
    exact Each.of_eq Kept.refl rfl
  split at h
  · cases h
  split at h
  · cases h
  split at h
  · cases h
    exact Each.of_eq Kept.refl rfl
  split at h
  · cases h
    exact each_kept_of_sameState (sameState_modify fun _ => ⟨rfl, rfl⟩)
  split at h
  · cases h
    exact each_kept_of_sameState (sameState_modify fun _ => ⟨rfl, rfl⟩)
  · cases h
    exact each_kept_of_sameState (sameState_modify fun _ => ⟨rfl, rfl⟩)

theorem sysNotifyEvent_kept (s : KernelState) (caller target eventNumber : Int) :
    Each Kept s (sysNotifyEvent s caller target eventNumber).2 := by
  have hrefl : Each Kept s s := Each.of_eq Kept.refl rfl
  have hnote : ∀ pending, Each Kept s
      (s.modify target.toNat (noteEvent pending) fun _ => rfl) :=
    fun _ => each_kept_of_sameState (sameState_modify fun _ => ⟨rfl, rfl⟩)
  unfold sysNotifyEvent
  dsimp only
  split
  · exact hrefl
  split
  · exact hrefl
  split
  · exact hrefl
  split
  · dsimp only
    split
    · exact hnote true
    · exact hrefl
  split
  · dsimp only
    split
    · exact hnote false
    · exact hrefl
  · exact hrefl

theorem requestExit_kept (t : Thread) : Kept t (requestExit t) :=
  fun _ => ⟨.inr (.inr rfl), fun _ => rfl⟩

theorem exitThread_kept (h : exitThread s tid = .ok (rc, u)) : Each Kept s u := by
  unfold exitThread at h
  split at h
  · cases h
    exact Each.of_eq Kept.refl rfl
  split at h
  · cases h
  split at h
  · cases h
  split at h
  · cases h
  split at h
  · cases h
  split at h
  · cases h
    exact Each.of_eq Kept.refl rfl
  split at h
  · cases h
    exact Each.of_eq Kept.refl rfl
  · cases h
    exact Each.modify Kept.refl _ _ _ _ fun t _ => requestExit_kept t

theorem psScheduler_kept (hsafe : s.scheduler.isLocked = false → SafePass s)
    (h : psScheduler s = .ok (tid, u)) :
    Each Kept s u := by
  cases hlocked : s.scheduler.isLocked with
  | true =>
      obtain ⟨_, rfl⟩ := psScheduler_locked hlocked h
      exact Each.of_eq Kept.refl rfl
  | false =>
      obtain ⟨_, _, _, hpass⟩ := psScheduler_unlocked hlocked (hsafe hlocked) h
      exact each_kept_of_passed hpass.pass.threads

theorem stays_ok {α : Type} {result : Except String (α × KernelState)}
    (h : stays result = .ok (out, u)) :
    ∃ a, result = .ok (a, u) ∧ out = .same := by
  unfold stays at h
  split at h
  · cases h
  · cases h
    exact ⟨_, rfl, rfl⟩

def NoResurrection (R : Thread → Thread → Prop) (s : KernelState) (call : KernelCall) : Prop :=
  ∀ out u, kernelStep s call = .ok (out, u) →
    Each R s u ∧ ∀ i, out = .dispatched i ∨ out = .spawned i → AliveAt s i

theorem kernelStep_spec {call : KernelCall} (hsafe : Safe s call)
    (h : kernelStep s call = .ok (out, u)) :
    Each Lasting s u ∧ (¬ Preempts s call → Each Kept s u) ∧
      ∀ i, out = .dispatched i ∨ out = .spawned i → AliveAt s i := by
  have hstays : Each Kept s u → out = .same → Each Lasting s u ∧
      (¬ Preempts s call → Each Kept s u) ∧
        ∀ i, out = .dispatched i ∨ out = .spawned i → AliveAt s i := by
    rintro hkept rfl
    refine ⟨hkept.mono fun _ _ => lasting_of_kept, fun _ => hkept, ?_⟩
    rintro i (hi | hi) <;> cases hi
  cases call with
  | post sender receiver msg long1 long2 =>
      obtain ⟨_, hpost, hout⟩ := stays_ok h
      exact hstays (post_kept hsafe hpost) hout
  | post2 sender receiver msg long1 long2 long3 long4 =>
      obtain ⟨_, hpost, hout⟩ := stays_ok h
      exact hstays (post2_kept hsafe hpost) hout
  | get ubuf =>
      obtain ⟨_, hget, hout⟩ := stays_ok h
      exact hstays (get_kept hget) hout
  | notifyEvent caller target eventNumber =>
      cases h
      exact hstays (sysNotifyEvent_kept s caller target eventNumber) rfl
  | exit tid =>
      obtain ⟨_, hexit, hout⟩ := stays_ok h
      exact hstays (exitThread_kept hexit) hout
  | tick =>
      cases h
      exact hstays (Each.of_eq Kept.refl rfl) rfl
  | schedule =>
      obtain ⟨_, hsched, hout⟩ := stays_ok h
      exact hstays (psScheduler_kept hsafe hsched) hout
  | switch fuel =>
      have hswitched := tsTaskSwitch_spec hsafe h
      exact ⟨hswitched.lasting, hswitched.kept, hswitched.runs⟩

theorem aliveAt_of_lasting (halive : AliveAt u i) (h : Each Lasting s u) : AliveAt s i := by
  intro t ht hdoomed
  obtain ⟨t', ht', hlasting⟩ := h.of_some ht
  exact halive t' ht' (hlasting hdoomed).1

/-- In every run whose calls meet the condition, no call puts a doomed thread back or runs it,
and a thread that is doomed at the start never runs again. -/
theorem no_resurrection_run {s : KernelState} {calls : List KernelCall}
    (h : Run.Guarded kernelStep Safe s calls) :
    Run.Guarded kernelStep (NoResurrection Lasting) s calls ∧
      (Run.Guarded kernelStep (fun t call => ¬ Preempts t call) s calls →
        Run.Guarded kernelStep (NoResurrection Kept) s calls) ∧
      ∀ outs u, Run.run kernelStep s calls = .ok (outs, u) →
        Each Lasting s u ∧ List.Forall₂ (fun _ out => ∀ i,
          out = .dispatched i ∨ out = .spawned i → AliveAt s i) calls outs := by
  refine ⟨?_, ?_, ?_⟩
  · apply h.imp
    intro t call hsafe out u hstep
    obtain ⟨hlasting, _, hruns⟩ := kernelStep_spec hsafe hstep
    exact ⟨hlasting, hruns⟩
  · intro hpreempts
    apply (h.and hpreempts).imp
    rintro t call ⟨hsafe, hnot⟩ out u hstep
    obtain ⟨_, hkept, hruns⟩ := kernelStep_spec hsafe hstep
    exact ⟨hkept hnot, hruns⟩
  · intro outs u hrun
    have hstep : ∀ t call out v, Each Lasting s t → Safe t call →
        kernelStep t call = .ok (out, v) →
        (∀ i, out = .dispatched i ∨ out = .spawned i → AliveAt s i) ∧ Each Lasting s v := by
      intro t call out v hst hsafe hcall
      obtain ⟨hlasting, _, hruns⟩ := kernelStep_spec hsafe hcall
      exact ⟨fun i hi => aliveAt_of_lasting (hruns i hi) hst,
        hst.trans (fun _ _ _ hab hbc => hab.trans hbc) hlasting⟩
    have hrefl : Each Lasting s s := Each.of_eq (fun t => lasting_of_kept (Kept.refl t)) rfl
    exact ⟨Run.run_invariant (Each Lasting s)
        (fun t call out v hst hsafe hcall => (hstep t call out v hst hsafe hcall).2) hrefl h hrun,
      Run.run_forall₂ (Each Lasting s) _ hstep hrefl h hrun⟩

def threeThreads : KernelState :=
  bootedKernel .rr (ThreadTable.ofFn 3 fun i =>
    match i with
    | 0 => newThread 0 0 .running
    | 1 => newThread 0 1 .blocked
    | _ => { newThread 0 2 .standby with saved := false })

theorem no_resurrection_run_example :
    ∃ u, Run.run kernelStep threeThreads [.exit 1, .switch 1, .post 2 0 10 7 8] =
        .ok ([.same, .spawned 2, .same], u) ∧ Each Lasting threeThreads u := by
  have hrun : Run.run kernelStep threeThreads [.exit 1, .switch 1, .post 2 0 10 7 8] =
      .ok ([.same, .spawned 2, .same], _) := rfl
  have hstandby : firstStandby (threeThreads.modify 1 requestExit fun _ => rfl) = some 2 := rfl
  have hswitch : Safe (threeThreads.modify 1 requestExit fun _ => rfl) (.switch 1) := by
    intro _
    constructor
    · intro i hi t ht
      rw [hstandby] at hi
      cases hi
      cases ht
      decide
    · intro hnone
      rw [hstandby] at hnone
      cases hnone
    · intro hnone
      rw [hstandby] at hnone
      cases hnone
  have hpost : ∀ t, t.threads.threadList 0 = some (interrupt (newThread 0 0 .running)) →
      Safe t (.post 2 0 10 7 8) := by
    intro t ht _ t' ht' _ _ hdoomed
    cases ht.symm.trans ht'
    exact absurd hdoomed (by decide)
  obtain ⟨t, u, hspawn, ht, hstep⟩ : ∃ t u,
      kernelStep (threeThreads.modify 1 requestExit fun _ => rfl) (.switch 1) =
        .ok (.spawned 2, t) ∧
      t.threads.threadList 0 = some (interrupt (newThread 0 0 .running)) ∧
      kernelStep t (.post 2 0 10 7 8) = .ok (.same, u) := ⟨_, _, rfl, rfl, rfl⟩
  have hexit : Safe threeThreads (.exit 1) := trivial
  have hguard := Run.guarded_cons hexit rfl
    (Run.guarded_cons hswitch hspawn (Run.guarded_cons (hpost t ht) hstep (Run.guarded_nil u)))
  exact ⟨_, hrun, ((no_resurrection_run hguard).2.2 _ _ hrun).1⟩

/-- A post to a blocked thread that wants to exit makes it `READY` again. -/
theorem post_resurrects :
    ¬ ∀ calls, Run.Guarded kernelStep (NoResurrection Lasting) threeThreads calls := by
  intro hclaim
  obtain ⟨_, hpost, _⟩ := hclaim [.exit 1, .post 2 1 10 7 8]
  obtain ⟨t, ht, hlasting⟩ := (hpost .same _ rfl).1.of_some (i := 1) rfl
  cases ht
  obtain ⟨_, hlive⟩ := hlasting (by decide)
  exact absurd (hlive (by decide)) (by decide)

end Gramado.Ke.Resurrection
