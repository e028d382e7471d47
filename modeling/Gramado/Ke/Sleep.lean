import Gramado.Ke.Resurrection
import Gramado.Ke.SwitchWakeUps

/-! Whether a thread that sleeps is left in peace until its time has come and is woken up then,
over all the runs of waits, posts, scheduler passes and task switches. -/

namespace Gramado.Ke.Sleep

open Library Ke.Table Ke.Ipc Ke.Mailbox Ke.RoundRobin Ke.Stages Ke.TaskSwitch Ke.Doomed
open Ke.Resurrection Ke.WakeUps Ke.SwitchWakeUps

def requestYield (t : Thread) : Thread :=
  { t with deferred := { t.deferred with yieldInProgress := true } }

def yield (s : KernelState) (tid : Int) : KernelState :=
  { s with threads := s.threads.modifyTid tid requestYield fun _ => rfl }

def requestSleep (ms : UInt64) (t : Thread) : Thread :=
  { t with deferred := { t.deferred with sleepInProgress := true, desiredSleepMs := ms } }

/-- `sleep`, which leaves it to the task switch to put the thread to sleep. -/
def sleep (s : KernelState) (tid : Int) (ms : UInt64) : KernelState :=
  { s with threads := s.threads.modifyTid tid (requestSleep ms) fun _ => rfl }

def sysSleep (s : KernelState) (tid : Int) (ms : UInt64) : KernelState :=
  if tid < 0 ∨ THREAD_COUNT_MAX ≤ tid then s
  else if ms = 0 then s
  else sleep s tid ms

def sleepUntil (s : KernelState) (tid : Int) (ms : UInt64) : KernelState :=
  if tid < 0 ∨ THREAD_COUNT_MAX ≤ tid then s
  else { s with threads := doThreadWaiting s.threads s.jiffies tid (if ms = 0 then 1 else ms) }

/-- `wait_for_a_reason`, which sets neither the reason nor a time to wake up. -/
def waitForAReason (s : KernelState) (tid reason : Int) : KernelState :=
  if tid < 0 ∨ THREAD_COUNT_MAX ≤ tid then s
  else if reason < 0 ∨ 10 ≤ reason then s
  else { s with threads := s.threads.modifyTid tid (Thread.setState .waiting) fun _ => rfl }

/-- The calls of the kernel, with those that make a thread wait. -/
inductive WaitCall where
  | kernel (call : KernelCall)
  | yield (tid : Int)
  | sleep (tid : Int) (ms : UInt64)
  | sysSleep (tid : Int) (ms : UInt64)
  | sleepUntil (tid : Int) (ms : UInt64)
  | waitForAReason (tid reason : Int)

def callStep (s : KernelState) (call : WaitCall) : Except String (Switched × KernelState) :=
  match call with
  | .kernel call => kernelStep s call
  | .yield tid => .ok (.same, yield s tid)
  | .sleep tid ms => .ok (.same, sleep s tid ms)
  | .sysSleep tid ms => .ok (.same, sysSleep s tid ms)
  | .sleepUntil tid ms => .ok (.same, sleepUntil s tid ms)
  | .waitForAReason tid reason => .ok (.same, waitForAReason s tid reason)

/-- The time to wake up that the call sets for the thread at the place `i`, if it puts that to
sleep. -/
def fallsAsleep (s : KernelState) (call : WaitCall) (i : Nat) : Option UInt64 :=
  match call with
  | .kernel (.switch _) => sleepServed s i
  | .sleepUntil tid ms =>
      match s.threads.threadList i with
      | none => none
      | some t => if t.tid = tid ∧ t.Valid then some (wakeTime s.jiffies ms) else none
  | _ => none

/-- The kernel, and the time to wake up that was set for each thread that sleeps. -/
structure System where
  kernel : KernelState
  deadline : Nat → Option UInt64

def record (s : KernelState) (call : WaitCall) (u : KernelState)
    (deadline : Nat → Option UInt64) (i : Nat) : Option UInt64 :=
  match u.threads.threadList i with
  | none => none
  | some t => if t.state = .waiting then (fallsAsleep s call i).or (deadline i) else none

def sleepStep (σ : System) (call : WaitCall) : Except String (Switched × System) :=
  match callStep σ.kernel call with
  | .error e => .error e
  | .ok (out, u) => .ok (out, ⟨u, record σ.kernel call u σ.deadline⟩)

/-- The call posts a message to the thread at the place `i`. -/
def PostsTo (call : WaitCall) (i : Nat) : Prop :=
  match call with
  | .kernel (.post _ receiver _ _ _) => receiver % 0x10000 = i
  | .kernel (.post2 _ receiver _ _ _ _ _) => receiver % 0x10000 = i
  | _ => False

/-- A message or an event has been posted to the thread at the place `i`. -/
def Posted (s : KernelState) (call : WaitCall) (i : Nat) : Prop :=
  PostsTo call i ∨ ∃ t, s.threads.threadList i = some t ∧
    (t.msgctl.hasEventFromDs = true ∨ t.hasPendingEvent = true)

def CallsScheduler (s : KernelState) (call : WaitCall) : Prop :=
  match call with
  | .kernel .schedule => True
  | .kernel (.switch _) => Reschedules s
  | _ => False

/-- No thread that sleeps runs before its time to wake up, unless something has been posted to it,
and a pass at that time or later makes it `READY`. -/
def SleepsUntilDue (exempt served : KernelState → Nat → Prop) (σ : System) (call : WaitCall) :
    Prop :=
  ∀ out τ, sleepStep σ call = .ok (out, τ) → ∀ i jiffy, σ.deadline i = some jiffy →
    (σ.kernel.jiffies < jiffy → ¬ Posted σ.kernel call i → ¬ exempt σ.kernel i →
      ∃ t, τ.kernel.threads.threadList i = some t ∧ ¬ Live t.state) ∧
    (jiffy ≤ σ.kernel.jiffies → CallsScheduler σ.kernel call → served σ.kernel i →
      AwakeAt i out τ.kernel)

/-- The thread is the idle thread of the round robin or the init thread of the stages. -/
def IsInit (s : KernelState) (i : Nat) : Prop :=
  i = 0 ∨ s.initThread = some i

/-- The next pass of the scheduler walks the threads and gets to the wake-up check of this
one. -/
def PassServes (s : KernelState) (i : Nat) : Prop :=
  Walks s ∧ ∀ t, s.threads.threadList i = some t → Reaches s.scheduler.policy i t

def Recorded (σ : System) : Prop :=
  ∀ i jiffy, σ.deadline i = some jiffy → ∃ t, σ.kernel.threads.threadList i = some t ∧
    t.Valid ∧ t.state = .waiting ∧ t.wakeJiffy = jiffy

variable {σ τ : System} {call : WaitCall} {out : Switched} {s u : KernelState} {i k : Nat}
  {jiffy ms long1 long2 : UInt64} {tid rc sender receiver msg : Int} {t : Thread}

theorem sleepStep_ok (h : sleepStep σ call = .ok (out, τ)) :
    ∃ u, callStep σ.kernel call = .ok (out, u) ∧ τ = ⟨u, record σ.kernel call u σ.deadline⟩ := by
  unfold sleepStep at h
  split at h
  · cases h
  · rename_i out' u hcall
    cases h
    exact ⟨u, hcall, rfl⟩

theorem record_some {deadline : Nat → Option UInt64} (h : record s call u deadline i = some jiffy) :
    ∃ t, u.threads.threadList i = some t ∧ t.state = .waiting ∧ (fallsAsleep s call i = some jiffy ∨
        fallsAsleep s call i = none ∧ deadline i = some jiffy) := by
  unfold record at h
  split at h
  · cases h
  rename_i t ht
  split at h
  · rename_i hwaiting
    refine ⟨t, ht, hwaiting, ?_⟩
    cases hfalls : fallsAsleep s call i with
    | none =>
        rw [hfalls, Option.none_or] at h
        exact .inr ⟨rfl, h⟩
    | some jiffy' =>
        rw [hfalls, Option.some_or] at h
        exact .inl h
  · cases h

/-- The thread goes on waiting, if it does, for the same time. -/
structure Undisturbed (t t' : Thread) : Prop where
  valid : t'.Valid ↔ t.Valid
  wakeJiffy : t'.wakeJiffy = t.wakeJiffy
  waiting : t.state = .waiting → t'.state = .waiting

theorem Undisturbed.refl (t : Thread) : Undisturbed t t := ⟨Iff.rfl, rfl, id⟩

theorem undisturbed_modify {f : Thread → Thread} {hf : ∀ t, (f t).tid = t.tid}
    (h : ∀ t, Undisturbed t (f t)) :
    Each Undisturbed s (s.modify i f hf) :=
  Each.modify Undisturbed.refl s i f hf fun t _ => h t

theorem modifyTid_outside (T : ThreadTable) (f : Thread → Thread) (hf : ∀ t, (f t).tid = t.tid)
    (h : tid < 0 ∨ THREAD_COUNT_MAX ≤ tid) :
    T.modifyTid tid f hf = T :=
  if_pos h

theorem modifyTid_each {R : Thread → Thread → Prop} (hR : ∀ t, R t t) (s : KernelState)
    (tid : Int) (f : Thread → Thread) (hf : ∀ t, (f t).tid = t.tid)
    (h : ∀ t, t.Valid → t.tid = tid → R t (f t)) :
    Each R s { s with threads := s.threads.modifyTid tid f hf } := by
  by_cases hrange : tid < 0 ∨ THREAD_COUNT_MAX ≤ tid
  · exact Each.of_eq hR (modifyTid_outside s.threads f hf hrange)
  · obtain ⟨k, rfl⟩ := Int.eq_ofNat_of_zero_le (a := tid) (by omega)
    apply Each.modifyTid hR
    intro t ht
    split
    · rename_i hvalid
      exact h t hvalid (s.threads.tid_eq k t ht)
    · exact hR t

theorem get_undisturbed {ubuf : Option (Nat → UInt64)} {outcome : GetOutcome}
    (h : ipcGetMessage s ubuf = .ok (outcome, u)) :
    Each Undisturbed s u := by
  unfold ipcGetMessage at h
  dsimp only at h
  split at h
  · cases h
  split at h
  · cases h
    exact Each.of_eq Undisturbed.refl rfl
  split at h
  · cases h
  split at h
  · cases h
  split at h
  · cases h
    exact Each.of_eq Undisturbed.refl rfl
  split at h
  · cases h
    exact undisturbed_modify fun _ => ⟨Iff.rfl, rfl, id⟩
  split at h
  · cases h
    exact undisturbed_modify fun _ => ⟨Iff.rfl, rfl, id⟩
  · cases h
    exact undisturbed_modify fun _ => ⟨Iff.rfl, rfl, id⟩

theorem sysNotifyEvent_undisturbed (s : KernelState) (caller target eventNumber : Int) :
    Each Undisturbed s (sysNotifyEvent s caller target eventNumber).2 := by
  have hrefl : Each Undisturbed s s := Each.of_eq Undisturbed.refl rfl
  have hnote : ∀ pending, Each Undisturbed s
      (s.modify target.toNat (noteEvent pending) fun _ => rfl) :=
    fun _ => undisturbed_modify fun _ => ⟨Iff.rfl, rfl, id⟩
  unfold sysNotifyEvent
  dsimp only
  split
  · exact hrefl
  split
  · exact hrefl
  split
  · exact hrefl
  split
  · dsimp only
    split
    · exact hnote true
    · exact hrefl
  split
  · dsimp only
    split
    · exact hnote false
    · exact hrefl
  · exact hrefl

theorem exitThread_undisturbed (h : exitThread s tid = .ok (rc, u)) : Each Undisturbed s u := by
  unfold exitThread at h
  split at h
  · cases h
    exact Each.of_eq Undisturbed.refl rfl
  split at h
  · cases h
  split at h
  · cases h
  split at h
  · cases h
  split at h
  · cases h
  split at h
  · cases h
    exact Each.of_eq Undisturbed.refl rfl
  split at h
  · cases h
    exact Each.of_eq Undisturbed.refl rfl
  · cases h
    exact undisturbed_modify fun _ => ⟨Iff.rfl, rfl, id⟩

theorem sleep_undisturbed (s : KernelState) (tid : Int) (ms : UInt64) :
    Each Undisturbed s (sleep s tid ms) :=
  modifyTid_each Undisturbed.refl s tid (requestSleep ms) _ fun _ _ _ => ⟨Iff.rfl, rfl, id⟩

theorem sysSleep_undisturbed (s : KernelState) (tid : Int) (ms : UInt64) :
    Each Undisturbed s (sysSleep s tid ms) := by
  unfold sysSleep
  split
  · exact Each.of_eq Undisturbed.refl rfl
  split
  · exact Each.of_eq Undisturbed.refl rfl
  · exact sleep_undisturbed s tid ms

theorem waitForAReason_undisturbed (s : KernelState) (tid reason : Int) :
    Each Undisturbed s (waitForAReason s tid reason) := by
  unfold waitForAReason
  split
  · exact Each.of_eq Undisturbed.refl rfl
  split
  · exact Each.of_eq Undisturbed.refl rfl
  · exact modifyTid_each Undisturbed.refl s tid (Thread.setState .waiting) _
      fun _ _ _ => ⟨Iff.rfl, rfl, fun _ => rfl⟩

theorem sleepUntil_wakeTime (s : KernelState) (tid : Int) (ms : UInt64) : sleepUntil s tid ms =
      { s with threads :=
          s.threads.modifyTid tid (Thread.waitUntil (wakeTime s.jiffies ms)) fun _ => rfl } := by
  unfold sleepUntil
  split
  · rename_i hrange
    have hsame := modifyTid_outside s.threads (Thread.waitUntil (wakeTime s.jiffies ms))
      (fun _ => rfl) hrange
    exact congrArg (fun threads => { s with threads := threads }) hsame.symm
  · have hms : (if (if ms = 0 then 1 else ms) = 0 then 1 else if ms = 0 then 1 else ms) =
        if ms = 0 then 1 else ms := by
      by_cases hzero : ms = 0 <;> simp [hzero]
    rw [doThreadWaiting, hms]
    rfl

theorem sleepUntil_undisturbed (hnone : fallsAsleep s (.sleepUntil tid ms) i = none) :
    At Undisturbed s (sleepUntil s tid ms) i := by
  intro t ht
  rw [fallsAsleep, ht] at hnone
  have hother : ¬ (t.tid = tid ∧ t.Valid) := by
    intro hsleeps
    dsimp only at hnone
    rw [if_pos hsleeps] at hnone
    cases hnone
  have hrest : Each (fun a b => ¬ (a.tid = tid ∧ a.Valid) → b = a) s (sleepUntil s tid ms) := by
    rw [sleepUntil_wakeTime]
    exact modifyTid_each (fun _ _ => rfl) s tid (Thread.waitUntil (wakeTime s.jiffies ms))
      (fun _ => rfl) fun t hvalid htid hnot => absurd ⟨htid, hvalid⟩ hnot
  obtain ⟨t', ht', hsame⟩ := hrest.of_some ht
  rw [hsame hother] at ht'
  exact ⟨t, ht', Undisturbed.refl t⟩

theorem sleepUntil_sleeps (hfalls : fallsAsleep s (.sleepUntil tid ms) i = some jiffy) :
    ∃ t, (sleepUntil s tid ms).threads.threadList i = some t ∧ t.Valid ∧ t.state = .waiting ∧
      t.wakeJiffy = jiffy := by
  unfold fallsAsleep at hfalls
  dsimp only at hfalls
  split at hfalls
  · cases hfalls
  rename_i t ht
  split at hfalls
  · rename_i hsleeps
    cases hfalls
    have hself : s.threads.threadList = Function.update s.threads.threadList i (some t) :=
      (Function.update_eq_self_iff.mpr ht.symm).symm
    have hlist := modifyTid_update hself (Thread.waitUntil (wakeTime s.jiffies ms)) fun _ => rfl
    rw [if_pos hsleeps.2, hsleeps.1] at hlist
    rw [sleepUntil_wakeTime]
    exact ⟨_, (congrFun hlist i).trans (Function.update_self ..), hsleeps.2, rfl, rfl⟩
  · cases hfalls

theorem callStep_sleeps (hfalls : fallsAsleep s call i = some jiffy)
    (h : callStep s call = .ok (out, u)) :
    ∃ t, u.threads.threadList i = some t ∧ t.Valid ∧ t.state = .waiting ∧ t.wakeJiffy = jiffy := by
  cases call with
  | kernel call =>
      cases call with
      | switch fuel => exact tsTaskSwitch_sleeps hfalls h
      | _ => cases hfalls
  | sleepUntil tid ms =>
      cases h
      exact sleepUntil_sleeps hfalls
  | _ => cases hfalls

/-- What a post to the thread at the place `k` does to the one at the place `i`. -/
structure PostedBy (k i : Nat) (t t' : Thread) : Prop where
  stillWaits : StillWaits t t'
  other : k ≠ i → t' = t

theorem postedBy_trans {t : KernelState} (hst : At (PostedBy k i) s t i)
    (htu : At (PostedBy k i) t u i) : At (PostedBy k i) s u i :=
  hst.trans (fun _ _ _ hab hbc => ⟨hab.stillWaits.trans hbc.stillWaits,
    fun hne => (hbc.other hne).trans (hab.other hne)⟩) htu

theorem postedBy_refl (s : KernelState) : At (PostedBy k i) s s i :=
  At.of_eq (fun t => ⟨StillWaits.refl t, fun _ => rfl⟩) rfl

theorem postedBy_modify (s : KernelState) (k i : Nat) (f : Thread → Thread)
    (hf : ∀ t, (f t).tid = t.tid) (h : ∀ t, StillWaits t (f t)) :
    At (PostedBy k i) s (s.modify k f hf) i := by
  intro t ht
  have hlist := threadList_modify s.threads k f hf i
  rcases eq_or_ne i k with rfl | hne
  · rw [if_pos rfl, ht] at hlist
    exact ⟨f t, hlist, h t, fun hne => absurd rfl hne⟩
  · rw [if_neg hne, ht] at hlist
    exact ⟨t, hlist, StillWaits.refl t, fun _ => rfl⟩

theorem deliver_postedBy (s : KernelState) (k i : Nat) (t : Thread) (msg : Int) :
    At (PostedBy k i) s (boostMouse (respond (wakeTarget s k t) k) k msg) i := by
  have hwake : At (PostedBy k i) s (wakeTarget s k t) i := by
    unfold wakeTarget
    split
    · intro a ha
      have hlist := threadList_modifyTid s.threads k (Thread.setState .ready) (fun _ => rfl) i
      rcases eq_or_ne i k with rfl | hne
      · rw [if_pos rfl, ha] at hlist
        exact ⟨_, hlist, stillWaits_makeReady a, fun hne => absurd rfl hne⟩
      · rw [if_neg hne, ha] at hlist
        exact ⟨a, hlist, StillWaits.refl a, fun _ => rfl⟩
    · exact postedBy_refl s
  generalize wakeTarget s k t = v at hwake ⊢
  have hrespond : At (PostedBy k i) v (respond v k) i := by
    unfold respond
    split
    · exact postedBy_modify v k i answerEvent (fun _ => rfl)
        fun t => StillWaits.of_not (by simp [answerEvent])
    · exact postedBy_refl v
  generalize respond v k = w at hrespond ⊢
  have hboost : At (PostedBy k i) w (boostMouse w k msg) i := by
    unfold boostMouse
    split
    · exact postedBy_modify w k i boostQuantum (fun _ => rfl)
        fun t => StillWaits.of_not (by simp [boostQuantum])
    · exact postedBy_refl w
  exact postedBy_trans (postedBy_trans hwake hrespond) hboost

theorem enqueue_postedBy {name : String} {fill : Message → Message}
    (h : enqueue name s k t fill = .ok (rc, u)) :
    At (PostedBy k i) s u i := by
  unfold enqueue at h
  split at h
  · cases h
  split at h
  · cases h
  · cases h
    exact postedBy_modify s k i (pushMessage _) (fun _ => rfl)
      fun _ hwaiting => ⟨hwaiting, rfl, id⟩

theorem post_postedBy (hk : receiver % 0x10000 = k)
    (h : ipcPostMessageToTid s sender receiver msg long1 long2 = .ok (rc, u)) (i : Nat) :
    At (PostedBy k i) s u i := by
  unfold ipcPostMessageToTid at h
  dsimp only at h
  rw [hk] at h
  split at h
  · cases h
    exact postedBy_refl s
  split at h
  · cases h
  rename_i t _
  apply postedBy_trans (deliver_postedBy s k i t msg)
  split at h
  · split at h
    · cases h
    split at h
    · cases h
      exact postedBy_modify _ k i (mergeMessage _) (fun _ => rfl)
        fun _ hwaiting => ⟨hwaiting, rfl, id⟩
    · exact enqueue_postedBy h
  · exact enqueue_postedBy h

theorem post2_postedBy {long3 long4 : UInt64} (hk : receiver % 0x10000 = k)
    (h : ipcPostMessageToTid2 s sender receiver msg long1 long2 long3 long4 = .ok (rc, u))
    (i : Nat) :
    At (PostedBy k i) s u i := by
  unfold ipcPostMessageToTid2 at h
  dsimp only at h
  rw [hk] at h
  split at h
  · cases h
    exact postedBy_refl s
  split at h
  · cases h
  rename_i t _
  have hmouse : ¬ (0 : Int) = MSG_MOUSEMOVE := by decide
  have hdeliver := deliver_postedBy s k i t 0
  rw [boostMouse, if_neg hmouse] at hdeliver
  exact postedBy_trans hdeliver (enqueue_postedBy h)

def Plain (call : WaitCall) : Prop :=
  match call with
  | .kernel (.post _ _ _ _ _) | .kernel (.post2 _ _ _ _ _ _ _) | .kernel .schedule
  | .kernel (.switch _) => False
  | _ => True

theorem callStep_undisturbed (hplain : Plain call) (hnone : fallsAsleep s call i = none)
    (h : callStep s call = .ok (out, u)) : At Undisturbed s u i := by
  cases call with
  | kernel call =>
      cases call with
      | get ubuf =>
          obtain ⟨_, hget, _⟩ := stays_ok h
          exact At.of_each (get_undisturbed hget) i
      | notifyEvent caller target eventNumber =>
          cases h
          exact At.of_each (sysNotifyEvent_undisturbed s caller target eventNumber) i
      | exit tid =>
          obtain ⟨_, hexit, _⟩ := stays_ok h
          exact At.of_each (exitThread_undisturbed hexit) i
      | tick =>
          cases h
          exact At.of_eq Undisturbed.refl rfl
      | post sender receiver msg long1 long2 => cases hplain
      | post2 sender receiver msg long1 long2 long3 long4 => cases hplain
      | schedule => cases hplain
      | switch fuel => cases hplain
  | yield tid =>
      cases h
      exact At.of_each (modifyTid_each Undisturbed.refl s tid requestYield _
        fun _ _ _ => ⟨Iff.rfl, rfl, id⟩) i
  | sleep tid ms =>
      cases h
      exact At.of_each (sleep_undisturbed s tid ms) i
  | sysSleep tid ms =>
      cases h
      exact At.of_each (sysSleep_undisturbed s tid ms) i
  | sleepUntil tid ms =>
      cases h
      exact sleepUntil_undisturbed hnone
  | waitForAReason tid reason =>
      cases h
      exact At.of_each (waitForAReason_undisturbed s tid reason) i

theorem callStep_cases (h : callStep s call = .ok (out, u)) : Plain call ∨
      (∃ k : Nat, (∀ i, PostsTo call i ↔ k = i) ∧ ¬ CallsScheduler s call ∧
        ∀ i, At (PostedBy k i) s u i) ∨
      (call = .kernel .schedule ∧ out = .same ∧ ∃ tid, psScheduler s = .ok (tid, u)) ∨
      ∃ fuel, call = .kernel (.switch fuel) ∧ tsTaskSwitch fuel s = .ok (out, u) := by
  have htarget : ∀ receiver : Int, ∃ k : Nat, receiver % 0x10000 = k :=
    fun receiver => Int.eq_ofNat_of_zero_le (Int.emod_nonneg receiver (by decide))
  cases call with
  | kernel call =>
      cases call with
      | post sender receiver msg long1 long2 =>
          obtain ⟨_, hpost, _⟩ := stays_ok h
          obtain ⟨k, hk⟩ := htarget receiver
          refine .inr (.inl ⟨k, ?_, id, post_postedBy hk hpost⟩)
          intro i
          rw [PostsTo, hk]
          exact Int.natCast_inj
      | post2 sender receiver msg long1 long2 long3 long4 =>
          obtain ⟨_, hpost, _⟩ := stays_ok h
          obtain ⟨k, hk⟩ := htarget receiver
          refine .inr (.inl ⟨k, ?_, id, post2_postedBy hk hpost⟩)
          intro i
          rw [PostsTo, hk]
          exact Int.natCast_inj
      | schedule =>
          obtain ⟨tid, hsched, hout⟩ := stays_ok h
          exact .inr (.inr (.inl ⟨rfl, hout, tid, hsched⟩))
      | switch fuel => exact .inr (.inr (.inr ⟨fuel, rfl, h⟩))
      | _ => exact .inl trivial
  | _ => exact .inl trivial

theorem not_callsScheduler_of_plain (h : Plain call) : ¬ CallsScheduler s call := by
  cases call with
  | kernel call =>
      cases call with
      | schedule => cases h
      | switch fuel => cases h
      | _ => exact id
  | _ => exact id

theorem callStep_keepsWake {t' : Thread} (hnone : fallsAsleep s call i = none)
    (h : callStep s call = .ok (out, u)) (ht : s.threads.threadList i = some t)
    (ht' : u.threads.threadList i = some t') (hwaiting : t'.state = .waiting) :
    t'.wakeJiffy = t.wakeJiffy ∧ (t.Valid → t'.Valid) := by
  rcases callStep_cases h with hplain | ⟨k, _, _, hposted⟩ | ⟨_, _, tid, hsched⟩ |
    ⟨fuel, rfl, hswitch⟩
  · obtain ⟨t'', ht'', hsame⟩ := callStep_undisturbed hplain hnone h t ht
    rw [ht'] at ht''
    cases ht''
    exact ⟨hsame.wakeJiffy, hsame.valid.mpr⟩
  · obtain ⟨t'', ht'', hposted⟩ := hposted i t ht
    rw [ht'] at ht''
    cases ht''
    exact (hposted.stillWaits hwaiting).2
  · obtain ⟨t'', ht'', hpassed⟩ := (psScheduler_passedBy hsched).2 i t ht
    rw [ht'] at ht''
    cases ht''
    exact (hpassed.stillWaits hwaiting).2
  · obtain ⟨t'', ht'', hwaits⟩ := tsTaskSwitch_stillWaits hnone hswitch t ht
    rw [ht'] at ht''
    cases ht''
    exact (hwaits hwaiting).2

theorem recorded_step (hσ : Recorded σ) (h : sleepStep σ call = .ok (out, τ)) : Recorded τ := by
  obtain ⟨u, hcall, rfl⟩ := sleepStep_ok h
  intro i jiffy hi
  obtain ⟨t', ht', hwaiting, hfalls | ⟨hnone, hold⟩⟩ := record_some hi
  · exact callStep_sleeps hfalls hcall
  · obtain ⟨t, ht, hvalid, _, hjiffy⟩ := hσ i jiffy hold
    obtain ⟨hwake, hvalid'⟩ := callStep_keepsWake hnone hcall ht ht' hwaiting
    exact ⟨t', ht', hvalid' hvalid, hwaiting, hwake.trans hjiffy⟩

theorem callStep_early (ht : s.threads.threadList i = some t) (hwaiting : t.state = .waiting)
    (hearly : s.jiffies < t.wakeJiffy) (hposted : ¬ Posted s call i) (hinit : ¬ IsInit s i)
    (h : callStep s call = .ok (out, u)) :
    ∃ t', u.threads.threadList i = some t' ∧ ¬ Live t'.state := by
  have hlive : ∀ t' : Thread, t'.state = .waiting → ¬ Live t'.state := by
    intro t' hstate
    rw [hstate]
    decide
  unfold IsInit at hinit
  unfold Posted at hposted
  rw [not_or] at hinit hposted
  have hdormant : Dormant s.jiffies t := by
    refine ⟨?_, ?_, hlive t hwaiting, by simp [hwaiting], fun _ => hearly⟩
    · by_contra hevent
      exact hposted.2 ⟨t, ht, .inl (by simpa using hevent)⟩
    · by_contra hpending
      exact hposted.2 ⟨t, ht, .inr (by simpa using hpending)⟩
  rcases callStep_cases h with hplain | ⟨k, hto, _, hpost⟩ | ⟨_, _, tid, hsched⟩ |
    ⟨fuel, rfl, hswitch⟩
  · cases hfalls : fallsAsleep s call i with
    | none =>
        obtain ⟨t', ht', hsame⟩ := callStep_undisturbed hplain hfalls h t ht
        exact ⟨t', ht', hlive t' (hsame.waiting hwaiting)⟩
    | some jiffy =>
        obtain ⟨t', ht', _, hstate, _⟩ := callStep_sleeps hfalls h
        exact ⟨t', ht', hlive t' hstate⟩
  · obtain ⟨t', ht', hother⟩ := hpost i t ht
    rw [hother.other fun hk => hposted.1 ((hto i).mpr hk)] at ht'
    exact ⟨t, ht', hdormant.live⟩
  · obtain ⟨t', ht', hpassed⟩ := (psScheduler_passedBy hsched).2 i t ht
    exact ⟨t', ht', (hpassed.dormant hinit.1 hdormant).live⟩
  · exact tsTaskSwitch_dormant hinit.1 hinit.2 ht hdormant hswitch

theorem callStep_due (ht : s.threads.threadList i = some t) (hdue : Due s.jiffies t)
    (hcalls : CallsScheduler s call) (hserves : PassServes s i)
    (h : callStep s call = .ok (out, u)) :
    AwakeAt i out u := by
  obtain ⟨hwalks, hreaches⟩ := hserves
  rcases callStep_cases h with hplain | ⟨_, _, hnot, _⟩ | ⟨_, rfl, tid, hsched⟩ |
    ⟨fuel, rfl, hswitch⟩
  · exact absurd hcalls (not_callsScheduler_of_plain hplain)
  · exact absurd hcalls hnot
  · obtain ⟨_, t', ht', hready, _⟩ :=
      psScheduler_readyFor ht (hreaches t ht) (.inr ⟨hwalks, hdue⟩) hsched
    exact ⟨t', ht', .inl hready⟩
  · exact tsTaskSwitch_wakes hcalls hwalks ht hdue (hreaches t ht) hswitch

theorem sleepsUntilDue_of_recorded (hσ : Recorded σ) (call : WaitCall) :
    SleepsUntilDue IsInit PassServes σ call := by
  intro out τ hstep i jiffy hi
  obtain ⟨u, hcall, rfl⟩ := sleepStep_ok hstep
  obtain ⟨t, ht, hvalid, hwaiting, rfl⟩ := hσ i jiffy hi
  constructor
  · intro hearly hposted hinit
    exact callStep_early ht hwaiting hearly hposted hinit hcall
  · intro hdue hcalls hserves
    exact callStep_due ht ⟨hvalid, hwaiting, hdue⟩ hcalls hserves hcall

/-- In every run, a thread that has gone to sleep does not run before its time to wake up, unless
something has been posted to it or it is the init thread, and the first pass from that time on
that gets to it makes it `READY`. -/
theorem sleep_run (s : KernelState) (calls : List WaitCall) :
    Run.Guarded sleepStep (SleepsUntilDue IsInit PassServes) ⟨s, fun _ => none⟩ calls := by
  have hfree : Run.Guarded sleepStep (fun _ _ => True) ⟨s, fun _ => none⟩ calls :=
    Run.guarded_true _ _
  refine Run.Guarded.of_invariant Recorded ?_ ?_ ?_ hfree
  · exact fun _ _ _ _ hσ _ hstep => recorded_step hσ hstep
  · exact fun _ call hσ _ => sleepsUntilDue_of_recorded hσ call
  · intro i jiffy hi
    cases hi

def SleepsAlways (σ : System) (call : WaitCall) : Prop :=
  SleepsUntilDue (fun _ _ => False) (fun s _ => s.scheduler.isLocked = false) σ call

def twoThreads (policy : Policy) : System where
  kernel := bootedKernel policy (ThreadTable.ofFn 2 fun i =>
    if i = 0 then newThread 0 0 .running else newThread 0 1 .ready)
  deadline _ := none

theorem stage_zero_wakes_nobody :
    ¬ Run.Guarded sleepStep SleepsAlways (twoThreads .priorityInterleaving)
      [.sleepUntil 1 1, .kernel .tick, .kernel .schedule] := by
  intro h
  obtain ⟨_, hdue⟩ := ((h.tail rfl).tail rfl).1 .same _ rfl 1 1 rfl
  obtain ⟨t, ht, hready⟩ := hdue (by decide) trivial rfl
  cases ht
  revert hready
  decide

theorem schedule_roundRobin (h : RoundRobinReady σ.kernel)
    (hlocked : σ.kernel.scheduler.isLocked = false) (hstate : σ.kernel.systemState = .running)
    (hcounter : σ.kernel.threadsCounter ≠ 0) :
    ∃ u, sleepStep σ (.kernel .schedule) =
        .ok (.same, ⟨u, record σ.kernel (.kernel .schedule) u σ.deadline⟩) ∧
      ∀ i, At (PassedBy σ.kernel i) σ.kernel u i := by
  obtain ⟨u, hsched⟩ := psScheduler_roundRobin h hlocked hstate hcounter
  refine ⟨u, ?_, (psScheduler_passedBy hsched).2⟩
  rw [sleepStep, callStep, kernelStep, hsched]
  rfl

theorem idle_thread_woken_early :
    ¬ Run.Guarded sleepStep SleepsAlways (twoThreads .rr) [.sleepUntil 0 5, .kernel .schedule] := by
  intro h
  obtain ⟨σ, hsleep, hready, hlocked, hstate, hcounter, t, ht, hpolicy, hnone⟩ :
      ∃ σ, sleepStep (twoThreads .rr) (.sleepUntil 0 5) = .ok (.same, σ) ∧
        RoundRobinReady σ.kernel ∧ σ.kernel.scheduler.isLocked = false ∧
        σ.kernel.systemState = .running ∧ σ.kernel.threadsCounter ≠ 0 ∧
        ∃ t, σ.kernel.threads.threadList 0 = some t ∧ σ.kernel.scheduler.policy = .rr ∧
          t.msgctl.hasEventFromDs = false ∧ t.hasPendingEvent = false ∧
          σ.deadline 0 = some 5 ∧ σ.kernel.jiffies < 5 :=
    ⟨_, rfl, ⟨rfl, rfl, rfl, rfl, _, rfl, rfl, rfl⟩, rfl, rfl, by decide, _, rfl, rfl, rfl, rfl,
      rfl, by decide⟩
  obtain ⟨hevent, hpending, hdeadline, hearly⟩ := hnone
  obtain ⟨u, hstep, hpassed⟩ := schedule_roundRobin hready hlocked hstate hcounter
  obtain ⟨hquiet, _⟩ := (h.tail hsleep).1 .same _ hstep 0 5 hdeadline
  have hposted : ¬ Posted σ.kernel (.kernel .schedule) 0 := by
    rintro (hpost | ⟨t', ht', hflag⟩)
    · exact hpost
    · cases ht.symm.trans ht'
      simp [hevent, hpending] at hflag
  obtain ⟨t', ht', hlive⟩ := hquiet hearly hposted id
  obtain ⟨t'', ht'', hidle⟩ := hpassed 0 t ht
  cases ht'.symm.trans ht''
  cases hidle with
  | idle _ _ hsame => exact hlive (.inl hsame.state)
  | round _ hne _ => exact hne rfl
  | stage hstage _ _ _ => exact absurd (hpolicy.symm.trans hstage) (by decide)
  | kept hnot _ _ => exact absurd (hlocked.symm.trans (hnot hpolicy)) (by decide)

theorem exiting_thread_not_woken : ¬ Run.Guarded sleepStep SleepsAlways (twoThreads .rr)
      [.sleepUntil 1 1, .kernel (.exit 1), .kernel .tick, .kernel .schedule] := by
  intro h
  obtain ⟨σ, σ', σ'', hsleep, hexit, htick, hready, hlocked, hstate, hcounter, t, ht, hpolicy,
      hzombie, hdeadline, hdue⟩ :
      ∃ σ σ' σ'', sleepStep (twoThreads .rr) (.sleepUntil 1 1) = .ok (.same, σ) ∧
        sleepStep σ (.kernel (.exit 1)) = .ok (.same, σ') ∧
        sleepStep σ' (.kernel .tick) = .ok (.same, σ'') ∧
        RoundRobinReady σ''.kernel ∧ σ''.kernel.scheduler.isLocked = false ∧
        σ''.kernel.systemState = .running ∧ σ''.kernel.threadsCounter ≠ 0 ∧
        ∃ t, σ''.kernel.threads.threadList 1 = some t ∧ σ''.kernel.scheduler.policy = .rr ∧
          (visitThread σ''.kernel.jiffies t).state = .zombie ∧ σ''.deadline 1 = some 1 ∧
          1 ≤ σ''.kernel.jiffies :=
    ⟨_, _, _, rfl, rfl, rfl, ⟨rfl, rfl, rfl, rfl, _, rfl, rfl, rfl⟩, rfl, rfl, by decide, _, rfl,
      rfl, rfl, rfl, by decide⟩
  obtain ⟨u, hstep, hpassed⟩ := schedule_roundRobin hready hlocked hstate hcounter
  obtain ⟨_, hwoken⟩ := (((h.tail hsleep).tail hexit).tail htick).1 .same _ hstep 1 1 hdeadline
  obtain ⟨t', ht', hawake⟩ := hwoken hdue trivial hlocked
  obtain ⟨t'', ht'', hround⟩ := hpassed 1 t ht
  cases ht'.symm.trans ht''
  cases hround with
  | idle _ hzero _ => exact absurd hzero (by decide)
  | round _ _ hsame =>
      rw [hsame.state, hzombie] at hawake
      rcases hawake with hready | ⟨hrunning, _⟩
      · cases hready
      · cases hrunning
  | stage hstage _ _ _ => exact absurd (hpolicy.symm.trans hstage) (by decide)
  | kept hnot _ _ => exact absurd (hlocked.symm.trans (hnot hpolicy)) (by decide)

/-- The idle thread is woken up early, and neither the pass of the stage 0 nor one that finds a
request to exit wakes up a thread that is due. -/
theorem sleep_not_always_kept :
    ¬ (Run.Guarded sleepStep SleepsAlways (twoThreads .rr)
        [.sleepUntil 0 5, .kernel .schedule]) ∧
      ¬ (Run.Guarded sleepStep SleepsAlways (twoThreads .priorityInterleaving)
        [.sleepUntil 1 1, .kernel .tick, .kernel .schedule]) ∧
      ¬ Run.Guarded sleepStep SleepsAlways (twoThreads .rr)
        [.sleepUntil 1 1, .kernel (.exit 1), .kernel .tick, .kernel .schedule] :=
  ⟨idle_thread_woken_early, stage_zero_wakes_nobody, exiting_thread_not_woken⟩

end Gramado.Ke.Sleep
