import Gramado.Ke.Stages

/-! The task switch `tsTaskSwitch`, the dispatcher and the spawn of a thread that runs for
the first time. -/

namespace Gramado.Ke.TaskSwitch

open Ke.Table Ke.RoundRobin Ke.Stages

inductive Switched where
  | same
  | dispatched (i : Nat)
  | spawned (i : Nat)
  deriving DecidableEq, Repr

def countTick (t : Thread) : Thread :=
  { t with runningCount := t.runningCount + 1 }

def saveContext (t : Thread) : Thread :=
  { t with saved := true }

def yieldQuantum (t : Thread) : Thread :=
  if t.state = .running ∧ t.deferred.yieldInProgress = true then
    { t with
      runningCount := t.quantum
      deferred := { t.deferred with yieldInProgress := false } }
  else t

def exhaustQuantum (t : Thread) : Thread :=
  { t with runningCount := t.quantum }

def endSleepRequest (t : Thread) : Thread :=
  { t with deferred := { t.deferred with sleepInProgress := false } }

def sleepThread (s : KernelState) (i : Nat) (t : Thread) : KernelState :=
  if t.state = .running ∧ t.deferred.sleepInProgress = true then
    let s := s.modify i exhaustQuantum fun _ => rfl
    let s :=
      { s with threads := doThreadWaiting s.threads s.jiffies t.tid t.deferred.desiredSleepMs }
    s.modify i endSleepRequest fun _ => rfl
  else s

/-- The quantum of the current thread `i` is not over: it goes on. -/
def stayInQuantum (s : KernelState) (i : Nat) (t : Thread) : KernelState :=
  let s := s.modify i yieldQuantum fun t => by
    unfold yieldQuantum
    split <;> rfl
  sleepThread s i t

def preempt (t : Thread) : Thread :=
  if t.state = .running then { t with state := .ready } else t

def firstStandby (s : KernelState) : Option Nat :=
  (0 :: slots).find? fun i =>
    match s.threads.threadList i with
    | none => false
    | some t => t.Valid ∧ t.state = .standby

def startThread (init : Option Nat) (t : Thread) : Thread :=
  { t with
    saved := false
    deferred :=
      { t.deferred with
        yieldInProgress := false, sleepInProgress := false, exitInProgress := false }
    runningCount := 0
    next := init
    state := .running }

/-- `psSpawnThreadByTID` on the thread `i`, which stands by. -/
def spawnThread (s : KernelState) (i : Nat) (t : Thread) : Except String KernelState :=
  if t.tid = INIT_TID then .error "schedi_check_for_standby: Can't spawn INIT_TID\n"
  else if t.saved = true then .error "__spawn_thread_by_tid_imp: Saved\n"
  else if t.tgid < 0 ∨ PROCESS_COUNT_MAX ≤ t.tgid then
    .error "__spawn_thread_by_tid_imp: cur_teid\n"
  else
    .ok
      { s.modify i (startThread s.initThread) fun _ => rfl with
        taskSwitchStatus := .unlocked
        scheduler := { s.scheduler with isLocked := false }
        currentProcess := t.tgid
        currentThread := t.tid }

def pendingResponder (s : KernelState) : Option Nat :=
  if s.useEventResponder = true then
    s.evResponderThread.filter fun i =>
      match s.threads.threadList i with
      | none => false
      | some t => t.Valid ∧ t.hasPendingEvent = true
  else none

def respondNow (t : Thread) : Thread :=
  { t with
    runningCount := 0
    quantum := QUANTUM_MAX
    priority := PRIORITY_MAX
    state := .ready
    hasPendingEvent := false
    next := none }

inductive Selection where
  | goAhead (s : KernelState)
  | dispatchCurrent (s : KernelState)

def selectNext (s : KernelState) : Except String Selection :=
  if s.threadsCounter = 0 then .error "ts: No threads\n"
  else
    match pendingResponder s with
    | some i =>
        .ok (.goAhead { s.modify i respondNow fun _ => rfl with currentq := some i })
    | none =>
        match s.currentq with
        | none => .error "page fault"
        | some q =>
            match s.threads.threadList q with
            | none => .error "page fault"
            | some t =>
                match t.next with
                | some i => .ok (.goAhead { s with currentq := some i })
                | none =>
                    match psScheduler s with
                    | .error e => .error e
                    | .ok (tid, s) => .ok (.dispatchCurrent { s with currentThread := tid })

def readyTarget (s : KernelState) : Option Int :=
  match s.currentq with
  | none => none
  | some q =>
      match s.threads.threadList q with
      | none => none
      | some t => if t.Valid ∧ t.state = .ready then some t.tid else none

def clampMax (t : Thread) : Thread :=
  { t with
    runningCount := 0
    basePriority := if PRIORITY_MAX < t.basePriority then PRIORITY_MAX else t.basePriority
    priority := if PRIORITY_MAX < t.priority then PRIORITY_MAX else t.priority
    quantum := if QUANTUM_MAX < t.quantum then QUANTUM_MAX else t.quantum }

def runThread (t : Thread) : Thread :=
  { t with
    state := .running
    runningCount := 0
    basePriority := if t.basePriority < PRIORITY_MIN then PRIORITY_MIN else t.basePriority
    priority := if t.priority < PRIORITY_MIN then PRIORITY_MIN else t.priority
    quantum := if t.quantum < QUANTUM_MIN then QUANTUM_MIN else t.quantum
    saved := false }

/-- `dispatcher`, which runs the current thread if that is `READY`. -/
def dispatcher (s : KernelState) : Except String (Nat × KernelState) :=
  if s.currentThread < 0 ∨ THREAD_COUNT_MAX ≤ s.currentThread then
    .error "dispatcher: current_thread\n"
  else
    let i := s.currentThread.toNat
    match s.threads.threadList i with
    | none => .error "dispatcher: TargetThread\n"
    | some t =>
        if t.magic ≠ 1234 then .error "dispatcher: magic\n"
        else if t.state ≠ .ready then .error "dispatcher: state\n"
        else .ok (i, s.modify i runThread fun _ => rfl)

def selectProcess (s : KernelState) (tgid : Int) : Except String KernelState :=
  if tgid < 0 ∨ THREAD_COUNT_MAX ≤ tgid then .error "ts: targetthread_OwnerPID ERROR\n"
  else
    match s.teList tgid.toNat with
    | none => .error "ts: TargetProcess struct fail\n"
    | some p =>
        if ¬ p.Valid then .error "ts: TargetProcess validation\n"
        else if p.pid ≠ tgid then .error "ts: TargetProcess->pid != targetthread_OwnerPID\n"
        else if p.pml4PA = 0 then .error "ts: Process pml4 fail\n"
        else .ok { s with currentProcess := p.pid }

def readyInit (t : Thread) : Thread :=
  { t with state := .ready, next := none }

/-- The target of the dispatch: the current thread, or the init thread made `READY` where
the current one is not. -/
def dispatchTarget (s : KernelState) (i : Nat) (t : Thread) :
    Except String (Nat × KernelState) :=
  if t.state = .ready then .ok (i, s)
  else
    match s.initThread with
    | none => .error "page fault"
    | some init => .ok (init, s.modify init readyInit fun _ => rfl)

def dispatchCurrent (s : KernelState) : Except String (Switched × KernelState) :=
  if s.currentThread < 0 ∨ THREAD_COUNT_MAX ≤ s.currentThread then
    .error "ts-dispatch_current: current_thread\n"
  else
    match s.threads.threadList s.currentThread.toNat with
    | none => .error "ts-dispatch_current: TargetThread\n"
    | some t =>
        if ¬ t.Valid then .error "ts-dispatch_current: validation\n"
        else
          match dispatchTarget s s.currentThread.toNat t with
          | .error e => .error e
          | .ok (target, s) =>
              match s.threads.threadList target with
              | none => .error "page fault"
              | some targetThread =>
                  match dispatcher (s.modify target clampMax fun _ => rfl) with
                  | .error e => .error e
                  | .ok (i, s) =>
                      match selectProcess s targetThread.tgid with
                      | .error e => .error e
                      | .ok s => .ok (.dispatched i, s)

/-- From the label `ZeroGravity` on. Jumping back there can put the kernel into an infinite
loop, which runs out of `fuel`. -/
def zeroGravity : Nat → KernelState → Except String (Switched × KernelState)
  | 0, _ => .error "ts: infinite loop"
  | fuel + 1, s =>
      match selectNext s with
      | .error e => .error e
      | .ok (.dispatchCurrent s) => dispatchCurrent s
      | .ok (.goAhead s) =>
          match readyTarget s with
          | some tid => dispatchCurrent { s with currentThread := tid }
          | none =>
              match psScheduler s with
              | .error e => .error e
              | .ok (tid, s) => zeroGravity fuel { s with currentThread := tid }

def endOfQuantum (fuel : Nat) (s : KernelState) (i : Nat) :
    Except String (Switched × KernelState) :=
  let s := s.modify i preempt fun t => by
    unfold preempt
    split <;> rfl
  match firstStandby s with
  | none => zeroGravity fuel s
  | some j =>
      match s.threads.threadList j with
      | none => .error "page fault"
      | some t =>
          match spawnThread s j t with
          | .error e => .error e
          | .ok s => .ok (.spawned j, s)

def ownerProcess (s : KernelState) (tgid : Int) : Except String KernelState :=
  if tgid < 0 ∨ PROCESS_COUNT_MAX ≤ tgid then .error "ts: te_id\n"
  else
    match s.teList tgid.toNat with
    | none => .error "ts: CurrentProcess\n"
    | some p =>
        if ¬ p.Valid then .error "ts: CurrentProcess validation\n"
        else if p.pid ≠ tgid then .error "ts: CurrentProcess->pid != te_id\n"
        else .ok { s with currentProcess := tgid }

/-- What `__task_switch` does when the task switch is not locked. -/
def switchThread (fuel : Nat) (s : KernelState) (i : Nat) (t : Thread) :
    Except String (Switched × KernelState) :=
  if s.taskSwitchStatus ≠ .unlocked then .error "ts: task_switch_status != UNLOCKED\n"
  else if t.callbackInProgress = true then
    .error "ts: Cant save context. Callback in progress"
  else
    let s := s.modify i saveContext fun _ => rfl
    if t.runningCount + 1 < t.quantum then .ok (.same, stayInQuantum s i t)
    else endOfQuantum fuel s i

def taskSwitch (fuel : Nat) (s : KernelState) : Except String (Switched × KernelState) :=
  if s.currentThread < 0 ∨ THREAD_COUNT_MAX ≤ s.currentThread then
    .error "ts: current_thread\n"
  else
    let i := s.currentThread.toNat
    match s.threads.threadList i with
    | none => .error "ts: CurrentThread\n"
    | some t =>
        if ¬ t.Valid then .error "ts: CurrentThread validation\n"
        else
          match ownerProcess s t.tgid with
          | .error e => .error e
          | .ok s =>
              let s := s.modify i countTick fun _ => rfl
              if s.taskSwitchStatus = .locked then .ok (.same, s)
              else switchThread fuel s i t

def callBack (t : Thread) : Thread :=
  if t.isAlertable = true then { t with isAlertable := false, callbackInProgress := true }
  else t

def tsTaskSwitch (fuel : Nat) (s : KernelState) : Except String (Switched × KernelState) :=
  if s.currentProcess < 0 ∨ PROCESS_COUNT_MAX ≤ s.currentProcess then
    .error "psTaskSwitch: current_process_pid"
  else if s.currentThread < 0 ∨ THREAD_COUNT_MAX ≤ s.currentThread then
    .error "psTaskSwitch: current_thread"
  else
    match taskSwitch fuel s with
    | .error e => .error e
    | .ok (.spawned i, s) => .ok (.spawned i, s)
    | .ok (out, s) =>
        if s.currentThread < 0 ∨ THREAD_COUNT_MAX ≤ s.currentThread then
          .error "psTaskSwitch: current_thread"
        else
          .ok (out, s.modify s.currentThread.toNat callBack fun t => by
            unfold callBack
            split <;> rfl)

end Gramado.Ke.TaskSwitch
