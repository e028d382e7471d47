import Gramado.Ke.RoundRobin

/-! The scheduler `__scheduler_priorityinterleaving` and the entry points `scheduler` and
`psScheduler`, which choose between it and `__scheduler_rr`. -/

namespace Gramado.Ke.Stages

open Ke.Table Ke.RoundRobin

/-- The state of the loop of `__build_stage_queue`: the kernel and the last thread of the
queue. -/
structure StageQueue where
  kernel : KernelState
  tail : Nat

def clearWakeJiffy (t : Thread) : Thread :=
  { t with wakeJiffy := 0 }

theorem setNext_none_tid (t : Thread) : (setNext none t).tid = t.tid := rfl

theorem setNext_some_tid (i : Nat) (t : Thread) : (setNext (some i) t).tid = t.tid := rfl

theorem checkAlarm_tid (s : KernelState) (t : Thread) : (checkAlarm s.jiffies t).tid = t.tid := rfl

theorem stageQuantum_tid (s : KernelState) (t : Thread) :
    (setQuantum (if s.displayServer.initialized = true then QUANTUM_MIN else QUANTUM_MAX) t).tid =
      t.tid :=
  rfl

def wakeStage (s : KernelState) (i : Nat) (t : Thread) : KernelState :=
  if t.state = .waiting then
    let s := s.modify i (checkAlarm s.jiffies) (checkAlarm_tid s)
    if t.wakeJiffy ≤ s.jiffies then
      { s with threads := doThreadReady s.threads t.tid }.modify i clearWakeJiffy fun _ => rfl
    else s
  else s

def resetStage (quantum : UInt64) (isInit : Bool) (t : Thread) : Thread :=
  { t with runningCount := 0, quantum := if isInit = true then t.quantum else quantum }

def appendStage (quantum : UInt64) (q : StageQueue) (i : Nat) : StageQueue where
  kernel :=
    let s := q.kernel.modify i (setNext none) setNext_none_tid
    let s := s.modify q.tail (setNext (some i)) (setNext_some_tid i)
    s.modify i (resetStage quantum (s.initThread = some i)) fun _ => rfl
  tail := i

def stageSelect (priority quantum : UInt64) (q : StageQueue) (i : Nat) : StageQueue :=
  match q.kernel.threads.threadList i with
  | none => q
  | some t => if t.priority = priority ∧ t.state = .ready then appendStage quantum q i else q

def stageVisit (priority quantum : UInt64) (q : StageQueue) (i : Nat) : StageQueue :=
  match q.kernel.threads.threadList i with
  | none => q
  | some t =>
      if ¬ t.Valid then q
      else stageSelect priority quantum { q with kernel := wakeStage q.kernel i t } i

def targetQuantum (priority : UInt64) : UInt64 :=
  if PRIORITY_MIN ≤ priority ∧ priority ≤ PRIORITY_MAX then QUANTUM_Q priority
  else QUANTUM_NORMAL_THRESHOLD

/-- `__build_stage_queue`, whose queue starts with the init thread. -/
def buildStageQueue (s : KernelState) (init : Nat) (priority : UInt64) : KernelState :=
  let quantum := if s.displayServer.initialized = true then QUANTUM_MIN else QUANTUM_MAX
  let s := s.modify init (setQuantum quantum) fun _ => rfl
  let s := s.modify init (setNext none) setNext_none_tid
  let q := slots.foldl (stageVisit priority (targetQuantum priority)) ⟨s, init⟩
  q.kernel.modify q.tail (setNext none) setNext_none_tid

def setStage (s : KernelState) (stage : Int) : KernelState :=
  { s with scheduler := { s.scheduler with stage := stage } }

def initQueue (s : KernelState) (init : Nat) (stage : Int) : KernelState :=
  setStage { s.modify init (setNext none) setNext_none_tid with currentq := some init } stage

/-- The queue of the priority `PRIORITY_P6` for the stage 1, and so on down to
`PRIORITY_P1` for the stage 6. -/
def runStage (s : KernelState) (init : Nat) (priority : UInt64) (stage : Int) : KernelState :=
  setStage { buildStageQueue s init priority with currentq := some init } stage

def selectStage (s : KernelState) (init : Nat) (stage : Int) : KernelState :=
  if stage = 0 then initQueue s init 1
  else if stage = 1 then runStage s init 6 2
  else if stage = 2 then runStage s init 5 3
  else if stage = 3 then runStage s init 4 4
  else if stage = 4 then runStage s init 3 5
  else if stage = 5 then runStage s init 2 6
  else if stage = 6 then runStage s init 1 1
  else initQueue s init 0

def schedulerPriorityinterleaving (s : KernelState) : Except String (Int × KernelState) :=
  if s.scheduler.initialized = false then
    .error "__scheduler_priorityinterleaving: Scheduler not initialized\n"
  else if s.scheduler.policy ≠ .priorityInterleaving then
    .error "__scheduler_priorityinterleaving: Scheduler policy\n"
  else
    let stage := if s.scheduler.maxStage < s.scheduler.stage then 1 else s.scheduler.stage
    match s.initThread with
    | none => .error "__scheduler_priorityinterleaving: InitThread validation\n"
    | some init =>
        match s.threads.threadList init with
        | none => .error "page fault"
        | some t =>
            if t.magic ≠ 1234 then
              .error "__scheduler_priorityinterleaving: InitThread validation\n"
            else .ok (t.tid, selectStage s init stage)

/-- The checks of `scheduler` on what the policy has chosen. -/
def checkFirst (firstTid : Int) (s : KernelState) : Except String (Int × KernelState) :=
  match s.idleThread with
  | none => .error "scheduler: Idle\n"
  | some idle =>
      match s.threads.threadList idle with
      | none => .error "page fault"
      | some t =>
          if t.magic ≠ 1234 then .error "scheduler: Idle validation\n"
          else if firstTid ≠ t.tid then .error "scheduler: first_tid != Idle->tid\n"
          else .ok (firstTid, { s with systemState := .running })

def scheduler (s : KernelState) : Except String (Int × KernelState) :=
  if s.systemState ≠ .running then .error "scheduler: system_state\n"
  else
    let s := { s with systemState := .scheduling }
    if s.threadsCounter = 0 then
      .error "scheduler: UPProcessorBlock.threads_counter == 0\n"
    else if s.scheduler.initialized = false then
      .error "scheduler: SchedulerInfo.initialized\n"
    else
      let first :=
        match s.scheduler.policy with
        | .rr => schedulerRr s
        | .priorityInterleaving => schedulerPriorityinterleaving s
        | .invalid => .error "scheduler: Invalid policy\n"
      match first with
      | .error e => .error e
      | .ok (tid, s) => checkFirst tid s

def psScheduler (s : KernelState) : Except String (Int × KernelState) :=
  if s.scheduler.isLocked = true then .ok (-1, s)
  else if s.threadsCounter = 0 then .error "psScheduler: No threads\n"
  else scheduler s

end Gramado.Ke.Stages
