import Gramado.Ke.StageQueue
import Gramado.Ke.Preemption

/-! Runs of `__scheduler_priorityinterleaving` between which the priorities of the threads
change. -/

namespace Gramado.Ke.Fairness

open Library Library.Run Ke.Table Ke.RoundRobin Ke.Stages Ke.TaskSwitch Ke.Doomed Ke.StageQueue

def limitQuantum (quantum : UInt64) : UInt64 :=
  let quantum := if quantum < QUANTUM_MIN then QUANTUM_MIN else quantum
  if QUANTUM_MAX < quantum then QUANTUM_MAX else quantum

def changePriority (priority : UInt64) (t : Thread) : Thread :=
  { t with priority := priority, quantum := limitQuantum t.quantum }

def setThreadPriority (s : KernelState) (thread : Option Nat) (priority : UInt64) :
    Except String KernelState :=
  if priority < PRIORITY_MIN then .ok s
  else if PRIORITY_MAX < priority then .ok s
  else
    match thread with
    | none => .ok s
    | some i =>
        match s.threads.threadList i with
        | none => .error "page fault"
        | some t =>
            if ¬ t.Valid then .ok s
            else if priority = t.priority then .ok s
            else if priority < t.basePriority then .ok s
            else .ok (s.modify i (changePriority priority) fun _ => rfl)

def dropPriority (decrement : UInt64) (t : Thread) : Thread :=
  { t with
    priority :=
      if t.priority - decrement < t.basePriority then t.basePriority
      else t.priority - decrement }

/-- `sys_nice`. The system call 777 calls it with the decrement 1, and nothing else does. -/
def sysNice (s : KernelState) (decrement : UInt64) : KernelState :=
  if decrement = 0 then s
  else if s.currentThread < 0 ∨ THREAD_COUNT_MAX ≤ s.currentThread then s
  else
    match s.threads.threadList s.currentThread.toNat with
    | none => s
    | some t =>
        if ¬ t.Valid then s
        else s.modify s.currentThread.toNat (dropPriority decrement) fun _ => rfl

def takeOver (t : Thread) : Thread :=
  { t with quantum := QUANTUM_MAX, priority := PRIORITY_MAX }

def setEvResponder (s : KernelState) (thread : Option Nat) :
    Except String (Int × KernelState) :=
  match thread with
  | none => .ok (-1, s)
  | some i =>
      match s.threads.threadList i with
      | none => .error "page fault"
      | some t =>
          if ¬ t.Valid then .ok (-1, s)
          else .ok (0, { s.modify i takeOver fun _ => rfl with evResponderThread := some i })

/-- A call of `__scheduler_priorityinterleaving`: the kernel before and after it, and the tid
that it returns. -/
structure StageCall where
  before : KernelState
  tid : Int
  after : KernelState

/-- The calls of the scheduler and everything that happens between them. `respondNow`,
`clampMax` and `runThread` are what the task switch does to the priority of a thread. -/
inductive PriorityEvent where
  | schedule
  | setThreadPriority (thread : Option Nat) (priority : UInt64)
  | nice (decrement : UInt64)
  | setEvResponder (thread : Option Nat)
  | respondNow (i : Nat)
  | clampMax (i : Nat)
  | runThread (i : Nat)
  | other (u : KernelState)

theorem respondNow_tid (t : Thread) : (TaskSwitch.respondNow t).tid = t.tid := rfl

theorem clampMax_tid (t : Thread) : (TaskSwitch.clampMax t).tid = t.tid := rfl

theorem runThread_tid (t : Thread) : (TaskSwitch.runThread t).tid = t.tid := rfl

def priorityStep (s : KernelState) :
    PriorityEvent → Except String (Option StageCall × KernelState)
  | .schedule =>
      match schedulerPriorityinterleaving s with
      | .error e => .error e
      | .ok (tid, u) => .ok (some ⟨s, tid, u⟩, u)
  | .setThreadPriority thread priority =>
      match setThreadPriority s thread priority with
      | .error e => .error e
      | .ok u => .ok (none, u)
  | .nice decrement => .ok (none, sysNice s decrement)
  | .setEvResponder thread =>
      match setEvResponder s thread with
      | .error e => .error e
      | .ok (_, u) => .ok (none, u)
  | .respondNow i => .ok (none, s.modify i TaskSwitch.respondNow respondNow_tid)
  | .clampMax i => .ok (none, s.modify i TaskSwitch.clampMax clampMax_tid)
  | .runThread i => .ok (none, s.modify i TaskSwitch.runThread runThread_tid)
  | .other u => .ok (none, u)

def InRange (t : Thread) : Prop :=
  (PRIORITY_MIN ≤ t.priority ∧ t.priority ≤ PRIORITY_MAX) ∧
    PRIORITY_MIN ≤ t.basePriority ∧ t.basePriority ≤ PRIORITY_MAX

/-- What may happen to the threads beside the scheduler: no priority changes, and those of new
threads are in range. -/
structure Quiet (s u : KernelState) : Prop where
  initThread : u.initThread = s.initThread
  stage : u.scheduler.stage = s.scheduler.stage
  maxStage : u.scheduler.maxStage = s.scheduler.maxStage
  threads : ∀ i t', u.threads.threadList i = some t' → t'.Valid →
    (∃ t, s.threads.threadList i = some t ∧ SamePriority t t') ∨
      (∀ t, s.threads.threadList i = some t → ¬ t.Valid) ∧ InRange t'

/-- The decrement of `sys_nice` does not take the priority out of the range. -/
def Meets (s : KernelState) : PriorityEvent → Prop
  | .nice decrement =>
      ∀ t, s.threads.threadList s.currentThread.toNat = some t → t.Valid →
        t.priority - decrement ≤ PRIORITY_MAX
  | .other u => Quiet s u
  | _ => True

structure PriorityInv (s : KernelState) : Prop where
  initThread : s.initThread = some 0
  maxStage : s.scheduler.maxStage = 6
  low : 0 ≤ s.scheduler.stage
  high : s.scheduler.stage ≤ 6
  ranges : ∀ i t, s.threads.threadList i = some t → t.Valid → InRange t

variable {s u : KernelState} {t : Thread} {decrement : UInt64} {thread : Option Nat} {stage : Int}
  {call : StageCall} {i : Nat} {window rest : List StageCall}

theorem PriorityInv.samePriority (h : PriorityInv s) (hsame : Each SamePriority s u) (i : Nat)
    (t' : Thread) (ht' : u.threads.threadList i = some t') (hvalid : t'.Valid) : InRange t' := by
  obtain ⟨t, ht, hvalid', hpriority, hbase⟩ := hsame.to_some ht'
  have hrange := h.ranges i t ht (hvalid'.mp hvalid)
  rw [InRange, hpriority, hbase]
  exact hrange

theorem PriorityInv.modify (h : PriorityInv s) (i : Nat) {f : Thread → Thread}
    {hf : ∀ t, (f t).tid = t.tid} (hvalid : ∀ t, (f t).Valid → t.Valid)
    (hrange : ∀ t, s.threads.threadList i = some t → t.Valid → InRange t → InRange (f t)) :
    PriorityInv (s.modify i f hf) := by
  refine ⟨h.initThread, h.maxStage, h.low, h.high, ?_⟩
  intro j t' ht' hvalid'
  have hlist := (threadList_modify s.threads i f hf j).symm.trans ht'
  split at hlist
  · obtain ⟨t, ht, rfl⟩ := Option.map_eq_some_iff.mp hlist
    have ht0 := hvalid t hvalid'
    exact hrange t ht ht0 (h.ranges i t ht ht0)
  · exact h.ranges j t' hlist hvalid'

theorem priority_max_inRange : PRIORITY_MIN ≤ PRIORITY_MAX := by decide

theorem inRange_changePriority {priority : UInt64} (h : InRange t)
    (hlow : ¬ priority < PRIORITY_MIN) (hhigh : ¬ PRIORITY_MAX < priority) :
    InRange (changePriority priority t) :=
  ⟨⟨UInt64.not_lt.mp hlow, UInt64.not_lt.mp hhigh⟩, h.2⟩

theorem inRange_dropPriority (h : InRange t) (hdrop : t.priority - decrement ≤ PRIORITY_MAX) :
    InRange (dropPriority decrement t) := by
  obtain ⟨_, hlow, hhigh⟩ := h
  refine ⟨?_, hlow, hhigh⟩
  unfold dropPriority
  dsimp only
  split
  · exact ⟨hlow, hhigh⟩
  · rename_i hbase
    exact ⟨UInt64.le_trans hlow (UInt64.not_lt.mp hbase), hdrop⟩

theorem inRange_clampMax (h : InRange t) : InRange (TaskSwitch.clampMax t) := by
  obtain ⟨⟨hlow, hhigh⟩, hlow', hhigh'⟩ := h
  unfold TaskSwitch.clampMax InRange
  dsimp only
  rw [if_neg (UInt64.not_lt.mpr hhigh), if_neg (UInt64.not_lt.mpr hhigh')]
  exact ⟨⟨hlow, hhigh⟩, hlow', hhigh'⟩

theorem inRange_runThread (h : InRange t) : InRange (TaskSwitch.runThread t) := by
  obtain ⟨⟨hlow, hhigh⟩, hlow', hhigh'⟩ := h
  unfold TaskSwitch.runThread InRange
  dsimp only
  rw [if_neg (UInt64.not_lt.mpr hlow), if_neg (UInt64.not_lt.mpr hlow')]
  exact ⟨⟨hlow, hhigh⟩, hlow', hhigh'⟩

theorem inRange_maxPriority {t' : Thread} (h : InRange t) (hpriority : t'.priority = PRIORITY_MAX)
    (hbase : t'.basePriority = t.basePriority) : InRange t' := by
  rw [InRange, hpriority, hbase]
  exact ⟨⟨by decide, UInt64.le_refl _⟩, h.2⟩

/-- The list that a call at some stage leaves, and the priorities that it starts from. -/
structure CallOk (stage : Int) (call : StageCall) : Prop where
  tid : call.tid = INIT_TID
  currentq : call.after.currentq = some 0
  queue : LinkedList.Follows (nextOf call.after) (some 0) (0 :: stageMembers call.before stage)
  ranges : ∀ i t, call.before.threads.threadList i = some t → t.Valid → InRange t

theorem schedule_step {tid : Int} (h : PriorityInv s)
    (hcall : schedulerPriorityinterleaving s = .ok (tid, u)) :
    PriorityInv u ∧ u.scheduler.stage = nextStage s.scheduler.stage ∧
      CallOk s.scheduler.stage ⟨s, tid, u⟩ := by
  obtain ⟨htid, hcalled⟩ := schedulerPriorityinterleaving_called h.initThread h.maxStage h.low
    h.high hcall
  have hstage : u.scheduler.stage = nextStage s.scheduler.stage := by
    rw [hcalled.scheduler]
  have hsame : Each SamePriority s u := hcalled.threads.mono fun _ _ hkept => hkept.priority
  have hlow := h.low
  have hhigh := h.high
  refine ⟨⟨?_, ?_, ?_, ?_, h.samePriority hsame⟩, hstage, ?_⟩
  · rw [hcalled.initThread]
    exact h.initThread
  · rw [hcalled.scheduler]
    exact h.maxStage
  · rw [hstage, nextStage]
    split <;> omega
  · rw [hstage, nextStage]
    split <;> omega
  · exact ⟨htid, hcalled.currentq, hcalled.queue, h.ranges⟩

theorem setThreadPriority_inv {priority : UInt64} (h : PriorityInv s)
    (hcall : setThreadPriority s thread priority = .ok u) :
    PriorityInv u ∧ u.scheduler.stage = s.scheduler.stage := by
  unfold setThreadPriority at hcall
  split at hcall
  · cases hcall
    exact ⟨h, rfl⟩
  rename_i hlow
  split at hcall
  · cases hcall
    exact ⟨h, rfl⟩
  rename_i hhigh
  split at hcall
  · cases hcall
    exact ⟨h, rfl⟩
  split at hcall
  · cases hcall
  split at hcall
  · cases hcall
    exact ⟨h, rfl⟩
  split at hcall
  · cases hcall
    exact ⟨h, rfl⟩
  split at hcall
  · cases hcall
    exact ⟨h, rfl⟩
  · cases hcall
    refine ⟨h.modify _ (fun _ hvalid => hvalid) ?_, rfl⟩
    intro t _ _ hrange
    exact inRange_changePriority hrange hlow hhigh

theorem sysNice_inv (h : PriorityInv s)
    (hmeets : ∀ t, s.threads.threadList s.currentThread.toNat = some t → t.Valid →
      t.priority - decrement ≤ PRIORITY_MAX) :
    PriorityInv (sysNice s decrement) ∧
      (sysNice s decrement).scheduler.stage = s.scheduler.stage := by
  unfold sysNice
  split
  · exact ⟨h, rfl⟩
  split
  · exact ⟨h, rfl⟩
  split
  · exact ⟨h, rfl⟩
  split
  · exact ⟨h, rfl⟩
  · refine ⟨h.modify _ (fun _ hvalid => hvalid) ?_, rfl⟩
    intro t ht hvalid hrange
    exact inRange_dropPriority hrange (hmeets t ht hvalid)

theorem setEvResponder_inv {rc : Int} (h : PriorityInv s)
    (hcall : setEvResponder s thread = .ok (rc, u)) :
    PriorityInv u ∧ u.scheduler.stage = s.scheduler.stage := by
  unfold setEvResponder at hcall
  split at hcall
  · cases hcall
    exact ⟨h, rfl⟩
  split at hcall
  · cases hcall
  split at hcall
  · cases hcall
    exact ⟨h, rfl⟩
  · rename_i i _ _ _ _
    cases hcall
    have hmodify : PriorityInv (s.modify i takeOver fun _ => rfl) :=
      h.modify i (fun _ hvalid => hvalid) fun t _ _ hrange => inRange_maxPriority hrange rfl rfl
    exact ⟨⟨hmodify.initThread, hmodify.maxStage, hmodify.low, hmodify.high, hmodify.ranges⟩, rfl⟩

theorem quiet_inv (h : PriorityInv s) (hquiet : Quiet s u) :
    PriorityInv u ∧ u.scheduler.stage = s.scheduler.stage := by
  refine ⟨⟨?_, ?_, ?_, ?_, ?_⟩, hquiet.stage⟩
  · rw [hquiet.initThread]
    exact h.initThread
  · rw [hquiet.maxStage]
    exact h.maxStage
  · rw [hquiet.stage]
    exact h.low
  · rw [hquiet.stage]
    exact h.high
  · intro i t' ht' hvalid
    rcases hquiet.threads i t' ht' hvalid with ⟨t, ht, hsame, hpriority, hbase⟩ | ⟨_, hrange⟩
    · rw [InRange, hpriority, hbase]
      exact h.ranges i t ht (hsame.mp hvalid)
    · exact hrange

theorem priorityStep_inv {event : PriorityEvent} {out : Option StageCall} (h : PriorityInv s)
    (hmeets : Meets s event) (hstep : priorityStep s event = .ok (out, u)) :
    PriorityInv u ∧ (out = none ∧ u.scheduler.stage = s.scheduler.stage ∨
        ∃ call, out = some call ∧ CallOk s.scheduler.stage call ∧
          u.scheduler.stage = nextStage s.scheduler.stage) := by
  cases event with
  | schedule =>
      rw [priorityStep] at hstep
      split at hstep
      · cases hstep
      · rename_i tid v hcall
        cases hstep
        obtain ⟨hinv, hstage, hok⟩ := schedule_step h hcall
        exact ⟨hinv, .inr ⟨_, rfl, hok, hstage⟩⟩
  | setThreadPriority thread priority =>
      rw [priorityStep] at hstep
      split at hstep
      · cases hstep
      · rename_i v hcall
        cases hstep
        obtain ⟨hinv, hstage⟩ := setThreadPriority_inv h hcall
        exact ⟨hinv, .inl ⟨rfl, hstage⟩⟩
  | nice decrement =>
      cases hstep
      obtain ⟨hinv, hstage⟩ := sysNice_inv h hmeets
      exact ⟨hinv, .inl ⟨rfl, hstage⟩⟩
  | setEvResponder thread =>
      rw [priorityStep] at hstep
      split at hstep
      · cases hstep
      · rename_i rc v hcall
        cases hstep
        obtain ⟨hinv, hstage⟩ := setEvResponder_inv h hcall
        exact ⟨hinv, .inl ⟨rfl, hstage⟩⟩
  | respondNow i =>
      cases hstep
      refine ⟨h.modify i (fun _ hvalid => hvalid) ?_, .inl ⟨rfl, rfl⟩⟩
      intro t _ _ hrange
      exact inRange_maxPriority hrange rfl rfl
  | clampMax i =>
      cases hstep
      refine ⟨h.modify i (fun _ hvalid => hvalid) ?_, .inl ⟨rfl, rfl⟩⟩
      intro t _ _ hrange
      exact inRange_clampMax hrange
  | runThread i =>
      cases hstep
      refine ⟨h.modify i (fun _ hvalid => hvalid) ?_, .inl ⟨rfl, rfl⟩⟩
      intro t _ _ hrange
      exact inRange_runThread hrange
  | other v =>
      cases hstep
      obtain ⟨hinv, hstage⟩ := quiet_inv h hmeets
      exact ⟨hinv, .inl ⟨rfl, hstage⟩⟩

def Rounds : Int → List StageCall → Prop
  | _, [] => True
  | stage, call :: calls => CallOk stage call ∧ Rounds (nextStage stage) calls

def stageCalls (outs : List (Option StageCall)) : List StageCall :=
  outs.filterMap id

theorem run_rounds {events : List PriorityEvent} {outs : List (Option StageCall)}
    (h : PriorityInv s) (hmeets : Guarded priorityStep Meets s events)
    (hrun : run priorityStep s events = .ok (outs, u)) :
    PriorityInv u ∧ Rounds s.scheduler.stage (stageCalls outs) := by
  induction events generalizing s outs with
  | nil =>
      cases hrun
      exact ⟨h, trivial⟩
  | cons event events ih =>
      obtain ⟨out, t, outs', hstep, htail, rfl⟩ := run_cons_ok hrun
      obtain ⟨ht, hout⟩ := priorityStep_inv h hmeets.1 hstep
      obtain ⟨hu, hrest⟩ := ih ht (hmeets.tail hstep) htail
      refine ⟨hu, ?_⟩
      rcases hout with ⟨rfl, hstage⟩ | ⟨call, rfl, hok, hstage⟩
      · rw [hstage] at hrest
        exact hrest
      · rw [hstage] at hrest
        exact ⟨hok, hrest⟩

theorem nextStage_bounds (hlow : 0 ≤ stage) (hhigh : stage ≤ 6) :
    1 ≤ nextStage stage ∧ nextStage stage ≤ 6 := by
  rw [nextStage]
  split <;> omega

theorem rounds_drop {before after : List StageCall} (hlow : 1 ≤ stage) (hhigh : stage ≤ 6)
    (h : Rounds stage (before ++ after)) :
    ∃ stage', 1 ≤ stage' ∧ stage' ≤ 6 ∧ Rounds stage' after := by
  induction before generalizing stage with
  | nil => exact ⟨stage, hlow, hhigh, h⟩
  | cons call before ih =>
      obtain ⟨hlow', hhigh'⟩ := nextStage_bounds (Int.le_of_lt hlow) hhigh
      exact ih hlow' hhigh' h.2

theorem rounds_mem {calls : List StageCall} (h : Rounds stage calls) (hcall : call ∈ calls) :
    ∃ stage', CallOk stage' call := by
  induction calls generalizing stage with
  | nil => cases hcall
  | cons first calls ih =>
      rcases List.mem_cons.mp hcall with rfl | hmem
      · exact ⟨stage, h.1⟩
      · exact ih h.2 hmem

theorem stageMembers_nodup (s : KernelState) (stage : Int) : (0 :: stageMembers s stage).Nodup := by
  unfold stageMembers
  split
  · exact List.nodup_singleton 0
  · exact List.Nodup.sublist (List.Sublist.cons_cons 0 List.filter_sublist) slots_nodup

theorem stageMembers_length (s : KernelState) (stage : Int) :
    (0 :: stageMembers s stage).length ≤ THREAD_COUNT_MAX := by
  have hslots : slots.length = THREAD_COUNT_MAX - 1 := List.length_range'
  unfold stageMembers
  split
  · decide
  · have hfilter := List.length_filter_le (staged s (stagePriority stage)) slots
    rw [List.length_cons]
    rw [hslots] at hfilter
    have hmax : 0 < THREAD_COUNT_MAX := by decide
    omega

def queued (i : Nat) (call : StageCall) : Bool :=
  (LinkedList.chain (nextOf call.after) THREAD_COUNT_MAX call.after.currentq).contains i

/-- The thread is ready to run with this priority when the scheduler is called. -/
def ReadyAt (i : Nat) (priority : UInt64) (call : StageCall) : Prop :=
  ∃ t, call.before.threads.threadList i = some t ∧ t.Valid ∧ t.state = .ready ∧
    t.priority = priority

theorem queued_iff (h : CallOk stage call) (hstage : stage ≠ 0) (hi : i ≠ 0) {priority : UInt64}
    (hready : ReadyAt i priority call) :
    queued i call = decide (priority = stagePriority stage) := by
  obtain ⟨t, ht, hvalid, hstate, rfl⟩ := hready
  have hwoken := wokenStage_ready call.before.jiffies hstate
  have hmem : i ∈ stageMembers call.before stage ↔ t.priority = stagePriority stage := by
    rw [stageMembers, if_neg hstage, List.mem_filter, staged_eq _ ht, hwoken, decide_eq_true_eq]
    constructor
    · intro h
      exact h.2.2.1
    · intro h
      exact ⟨(mem_slots ht).mpr hi, hvalid, h, hstate⟩
  have hchain := h.queue.chain_eq (stageMembers_length call.before stage)
  rw [queued, h.currentq, hchain, List.contains_eq_mem]
  apply decide_eq_decide.mpr
  rw [List.mem_cons, hmem]
  simp only [hi, false_or]

theorem CallOk.priority (h : CallOk stage call) {priority : UInt64}
    (hready : ReadyAt i priority call) :
    priority = 1 ∨ priority = 2 ∨ priority = 3 ∨ priority = 4 ∨ priority = 5 ∨ priority = 6 := by
  obtain ⟨t, ht, hvalid, _, rfl⟩ := hready
  obtain ⟨⟨hlow, hhigh⟩, _⟩ := h.ranges i t ht hvalid
  rw [UInt64.le_iff_toNat_le] at hlow hhigh
  change 1 ≤ t.priority.toNat at hlow
  change t.priority.toNat ≤ 6 at hhigh
  have hcases : t.priority.toNat = 1 ∨ t.priority.toNat = 2 ∨ t.priority.toNat = 3 ∨
      t.priority.toNat = 4 ∨ t.priority.toNat = 5 ∨ t.priority.toNat = 6 := by omega
  simp only [← UInt64.toNat_inj]
  exact hcases

def stagesFrom : Int → Nat → List Int
  | _, 0 => []
  | stage, n + 1 => stage :: stagesFrom (nextStage stage) n

theorem countP_queued (hlow : 1 ≤ stage) (hhigh : stage ≤ 6) (hi : i ≠ 0) {priority : UInt64}
    (h : Rounds stage (window ++ rest)) (hready : ∀ call ∈ window, ReadyAt i priority call) :
    window.countP (queued i) =
      (stagesFrom stage window.length).countP fun stage => priority = stagePriority stage := by
  induction window generalizing stage with
  | nil => rfl
  | cons call window ih =>
      obtain ⟨hlow', hhigh'⟩ := nextStage_bounds (Int.le_of_lt hlow) hhigh
      have hrest := ih hlow' hhigh' h.2 fun c hc => hready c (List.mem_cons_of_mem _ hc)
      have hcall := queued_iff h.1 (by omega) hi (hready call List.mem_cons_self)
      rw [List.countP_cons, hrest, hcall, List.length_cons, stagesFrom, List.countP_cons]

theorem six_calls (hlow : 1 ≤ stage) (hhigh : stage ≤ 6) (hi : i ≠ 0) {priority : UInt64}
    (hlength : window.length = 6) (h : Rounds stage (window ++ rest))
    (hready : ∀ call ∈ window, ReadyAt i priority call) :
    window.countP (queued i) = 1 := by
  have hpriority : priority = 1 ∨ priority = 2 ∨ priority = 3 ∨ priority = 4 ∨ priority = 5 ∨
      priority = 6 := by
    cases window with
    | nil => cases hlength
    | cons call window =>
        have hcases := h.1.priority (hready call List.mem_cons_self)
        simpa using hcases
  have hstage : stage = 1 ∨ stage = 2 ∨ stage = 3 ∨ stage = 4 ∨ stage = 5 ∨ stage = 6 := by
    omega
  rw [countP_queued hlow hhigh hi h hready, hlength]
  rcases hstage with rfl | rfl | rfl | rfl | rfl | rfl <;>
    rcases hpriority with rfl | rfl | rfl | rfl | rfl | rfl <;> rfl

structure Booted (s : KernelState) : Prop where
  inv : PriorityInv s
  stage : s.scheduler.stage = 0

/-- The priority interleaving: the stage goes through 1 to 6, every call returns the init
thread at the head of a list without duplicates that ends, and of six calls in a row behind the
preparation exactly one takes a thread that stays ready to run with the same priority. -/
theorem stage_fairness {s u : KernelState} {events : List PriorityEvent}
    {outs : List (Option StageCall)} (hs : Booted s)
    (hmeets : Guarded priorityStep Meets s events)
    (hrun : run priorityStep s events = .ok (outs, u)) :
    (0 ≤ u.scheduler.stage ∧ u.scheduler.stage ≤ 6) ∧
      (∀ call ∈ stageCalls outs, call.tid = INIT_TID ∧ ∃ L,
        LinkedList.Follows (nextOf call.after) call.after.currentq (0 :: L) ∧ (0 :: L).Nodup) ∧
      ∀ first before window rest i priority,
        stageCalls outs = first :: (before ++ window ++ rest) → window.length = 6 → i ≠ 0 →
          (∀ call ∈ window, ReadyAt i priority call) → window.countP (queued i) = 1 := by
  obtain ⟨hu, hrounds⟩ := run_rounds hs.inv hmeets hrun
  refine ⟨⟨hu.low, hu.high⟩, ?_, ?_⟩
  · intro call hcall
    obtain ⟨stage, hok⟩ := rounds_mem hrounds hcall
    refine ⟨hok.tid, _, ?_, stageMembers_nodup call.before stage⟩
    rw [hok.currentq]
    exact hok.queue
  · intro first before window rest i priority hcalls hlength hi hready
    rw [hcalls, hs.stage, List.append_assoc] at hrounds
    obtain ⟨stage, hlow, hhigh, hwindow⟩ := rounds_drop (by decide) (by decide) hrounds.2
    exact six_calls hlow hhigh hi hlength hwindow hready

/-- The init thread and the thread 1 are ready to run, the latter with some priority. -/
structure TwoReady (s : KernelState) (stage : Int) (priority : UInt64) : Prop where
  inv : PriorityInv s
  stage : s.scheduler.stage = stage
  initialized : s.scheduler.initialized = true
  policy : s.scheduler.policy = .priorityInterleaving
  init : ∃ t, s.threads.threadList 0 = some t ∧ t.Valid ∧ t.state = .ready
  thread : ∃ t, s.threads.threadList 1 = some t ∧ t.Valid ∧ t.state = .ready ∧
    t.priority = priority ∧ t.basePriority = PRIORITY_MIN

def IsReady (i : Nat) (call : StageCall) : Prop :=
  ∃ t, call.before.threads.threadList i = some t ∧ t.Valid ∧ t.state = .ready

theorem ReadyAt.isReady {priority : UInt64} (h : ReadyAt i priority call) : IsReady i call := by
  obtain ⟨t, ht, hvalid, hstate, _⟩ := h
  exact ⟨t, ht, hvalid, hstate⟩

theorem queued_init (h : CallOk stage call) : queued 0 call = true := by
  rw [queued, h.currentq, h.queue.chain_eq (stageMembers_length call.before stage)]
  simp

theorem twoReady_schedule {priority : UInt64} (h : TwoReady s stage priority) :
    ∃ u, priorityStep s .schedule = .ok (some ⟨s, INIT_TID, u⟩, u) ∧
      TwoReady u (nextStage stage) priority ∧ CallOk stage ⟨s, INIT_TID, u⟩ := by
  obtain ⟨hinv, hstage, hinitialized, hpolicy, ⟨t, ht, hvalid, hready⟩,
    ⟨t', ht', hvalid', hready', hpriority, hbase⟩⟩ := h
  have hcall : ∃ u, schedulerPriorityinterleaving s = .ok (t.tid, u) := by
    unfold schedulerPriorityinterleaving
    rw [if_neg (by rw [hinitialized]; decide), if_neg (not_not_intro hpolicy), hinv.initThread]
    dsimp only
    rw [ht]
    dsimp only
    rw [if_neg (not_not_intro hvalid.2)]
    exact ⟨_, rfl⟩
  obtain ⟨u, hcall⟩ := hcall
  have htid : t.tid = INIT_TID := s.threads.tid_eq 0 t ht
  rw [htid] at hcall
  obtain ⟨hu, hnext, hok⟩ := schedule_step hinv hcall
  obtain ⟨_, hcalled⟩ := schedulerPriorityinterleaving_called hinv.initThread hinv.maxStage
    hinv.low hinv.high hcall
  obtain ⟨v, hv, hkept⟩ := hcalled.threads.of_some ht
  obtain ⟨v', hv', hkept'⟩ := hcalled.threads.of_some ht'
  rw [hstage] at hnext hok
  refine ⟨u, by rw [priorityStep, hcall], ⟨hu, hnext, ?_, ?_, ?_, ?_⟩, hok⟩
  · rw [hcalled.scheduler]
    exact hinitialized
  · rw [hcalled.scheduler]
    exact hpolicy
  · exact ⟨v, hv, hkept.priority.1.mpr hvalid, hkept.ready hready⟩
  · exact ⟨v', hv', hkept'.priority.1.mpr hvalid', hkept'.ready hready',
      hkept'.priority.2.1.trans hpriority, hkept'.priority.2.2.trans hbase⟩

theorem twoReady_raise (h : TwoReady s stage PRIORITY_MIN) :
    ∃ u, priorityStep s (.setThreadPriority (some 1) PRIORITY_MAX) = .ok (none, u) ∧
      TwoReady u stage PRIORITY_MAX := by
  obtain ⟨hinv, hstage, hinitialized, hpolicy, ⟨t, ht, hvalid, hready⟩,
    ⟨t', ht', hvalid', hready', hpriority, hbase⟩⟩ := h
  have hcall : setThreadPriority s (some 1) PRIORITY_MAX =
      .ok (s.modify 1 (changePriority PRIORITY_MAX) fun _ => rfl) := by
    unfold setThreadPriority
    rw [if_neg (by decide), if_neg (by decide)]
    dsimp only
    rw [ht']
    dsimp only
    rw [if_neg (not_not_intro hvalid'), hpriority, hbase, if_neg (by decide), if_neg (by decide)]
  have hlist := threadList_modify s.threads 1 (changePriority PRIORITY_MAX) fun _ => rfl
  have hthread := hlist 1
  rw [if_pos rfl, ht', Option.map_some] at hthread
  have hstep : priorityStep s (.setThreadPriority (some 1) PRIORITY_MAX) =
      .ok (none, s.modify 1 (changePriority PRIORITY_MAX) fun _ => rfl) := by
    rw [priorityStep, hcall]
  refine ⟨_, hstep, (setThreadPriority_inv hinv hcall).1, hstage, hinitialized, hpolicy, ?_, ?_⟩
  · exact ⟨t, (hlist 0).trans ht, hvalid, hready⟩
  · exact ⟨changePriority PRIORITY_MAX t', hthread, hvalid', hready', rfl, hbase⟩

theorem twoReady_run {priority : UInt64} (h : TwoReady s stage priority) (n : Nat) :
    ∃ outs u, run priorityStep s (List.replicate n .schedule) = .ok (outs, u) ∧
      (stageCalls outs).length = n ∧ Rounds stage (stageCalls outs) ∧
        ∀ call ∈ stageCalls outs, ReadyAt 1 priority call ∧ IsReady 0 call := by
  induction n generalizing s stage with
  | zero => exact ⟨[], s, rfl, rfl, trivial, fun _ hcall => by cases hcall⟩
  | succ n ih =>
      obtain ⟨u, hstep, hu, hok⟩ := twoReady_schedule h
      obtain ⟨outs, v, hrun, hlength, hrounds, hready⟩ := ih hu
      refine ⟨some ⟨s, INIT_TID, u⟩ :: outs, v, ?_, congrArg Nat.succ hlength, ⟨hok, hrounds⟩, ?_⟩
      · rw [List.replicate_succ, run, hstep]
        dsimp only
        rw [hrun]
      · intro call hcall
        rcases List.mem_cons.mp hcall with rfl | hmem
        · obtain ⟨t, ht, hvalid, hstate, hpriority, _⟩ := h.thread
          exact ⟨⟨t, ht, hvalid, hstate, hpriority⟩, h.init⟩
        · exact hready call hmem

def twoThreads : KernelState :=
  bootedKernel .priorityInterleaving (ThreadTable.ofFn 2 fun i => newThread 0 i .ready)

theorem twoThreads_ready : TwoReady twoThreads 0 PRIORITY_MIN := by
  refine ⟨⟨rfl, rfl, Int.le_refl 0, by decide, ?_⟩, rfl, rfl, rfl, ⟨_, rfl, ⟨rfl, rfl⟩, rfl⟩,
    ⟨_, rfl, ⟨rfl, rfl⟩, rfl, rfl, rfl⟩⟩
  intro i t ht _
  unfold twoThreads bootedKernel ThreadTable.ofFn at ht
  dsimp only at ht
  split at ht
  · cases ht
    exact ⟨⟨UInt64.le_refl _, priority_max_inRange⟩, UInt64.le_refl _, priority_max_inRange⟩
  · cases ht

theorem stage_fairness_twoThreads :
    ∃ outs u first window, run priorityStep twoThreads (List.replicate 7 .schedule) =
        .ok (outs, u) ∧ stageCalls outs = first :: window ∧ window.length = 6 ∧
      window.countP (queued 1) = 1 := by
  obtain ⟨outs, u, hrun, hlength, _, hready⟩ := twoReady_run twoThreads_ready 7
  have hmeets : Guarded priorityStep Meets twoThreads (List.replicate 7 .schedule) := by
    apply guarded_of_forall
    intro event hevent s
    rw [List.eq_of_mem_replicate hevent]
    trivial
  obtain ⟨_, _, hfair⟩ := stage_fairness ⟨twoThreads_ready.inv, rfl⟩ hmeets hrun
  cases hcalls : stageCalls outs with
  | nil =>
      rw [hcalls] at hlength
      cases hlength
  | cons first window =>
      rw [hcalls] at hlength hready
      have hwindow : window.length = 6 := Nat.succ.inj hlength
      refine ⟨outs, u, first, window, hrun, hcalls, hwindow, ?_⟩
      apply hfair first [] window [] 1 PRIORITY_MIN (by simp [hcalls]) hwindow (by decide)
      intro call hcall
      exact (hready call (List.mem_cons_of_mem _ hcall)).1

/-- Six calls in a row that all take the init thread, and none of which takes the thread 1,
since its priority is raised behind the stage of the new one and before that of the old one. -/
theorem stage_starves :
    ∃ outs u first window, run priorityStep twoThreads
        (.schedule :: .schedule :: .setThreadPriority (some 1) PRIORITY_MAX ::
          List.replicate 5 .schedule) = .ok (outs, u) ∧
      stageCalls outs = first :: window ∧ window.length = 6 ∧
      (∀ call ∈ window, IsReady 0 call ∧ IsReady 1 call) ∧
        window.countP (queued 0) = 6 ∧ window.countP (queued 1) = 0 := by
  obtain ⟨u0, hstep0, hu0, _⟩ := twoReady_schedule twoThreads_ready
  obtain ⟨u1, hstep1, hu1, hok⟩ := twoReady_schedule hu0
  obtain ⟨u2, hstep2, hu2⟩ := twoReady_raise hu1
  obtain ⟨outs, u, hrun, hlength, hrounds, hready⟩ := twoReady_run hu2 5
  have hfirst : ReadyAt 1 PRIORITY_MIN ⟨u0, INIT_TID, u1⟩ := by
    obtain ⟨t, ht, hvalid, hstate, hpriority, _⟩ := hu0.thread
    exact ⟨t, ht, hvalid, hstate, hpriority⟩
  have hnone : queued 1 ⟨u0, INIT_TID, u1⟩ = false :=
    (queued_iff hok (by decide) (by decide) hfirst).trans (by decide)
  have hrest : (stageCalls outs).countP (queued 1) = 0 := by
    have hwindow : Rounds 2 (stageCalls outs ++ []) := by
      rw [List.append_nil]
      exact hrounds
    rw [countP_queued (by decide) (by decide) (by decide) hwindow
      fun call hcall => (hready call hcall).1, hlength]
    decide
  refine ⟨some ⟨twoThreads, INIT_TID, u0⟩ :: some ⟨u0, INIT_TID, u1⟩ :: none :: outs, u,
    ⟨twoThreads, INIT_TID, u0⟩, ⟨u0, INIT_TID, u1⟩ :: stageCalls outs, ?_, rfl,
    congrArg Nat.succ hlength, ?_, ?_, ?_⟩
  · rw [run, hstep0]
    dsimp only
    rw [run, hstep1]
    dsimp only
    rw [run, hstep2]
    dsimp only
    rw [hrun]
  · intro call hcall
    rcases List.mem_cons.mp hcall with rfl | hmem
    · exact ⟨hu0.init, hfirst.isReady⟩
    · exact ⟨(hready call hmem).2, (hready call hmem).1.isReady⟩
  · have hall : ∀ call ∈ (⟨u0, INIT_TID, u1⟩ : StageCall) :: stageCalls outs,
        queued 0 call = true := by
      intro call hcall
      rcases List.mem_cons.mp hcall with rfl | hmem
      · exact queued_init hok
      · obtain ⟨stage, hok'⟩ := rounds_mem hrounds hmem
        exact queued_init hok'
    rw [List.countP_eq_length.mpr hall, List.length_cons, hlength]
  · rw [List.countP_cons, hrest, hnone]
    rfl

end Gramado.Ke.Fairness
