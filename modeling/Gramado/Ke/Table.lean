import Mathlib.Tactic.Common

/-! The threads in `threadList` and the part of the kernel state that the message queues, the
scheduler and the task switch share. -/

namespace Gramado.Ke.Table

inductive ThreadState where
  | created
  | initialized
  | standby
  | zombie
  | dead
  | ready
  | running
  | waiting
  | blocked
  deriving DecidableEq, Repr

/-- `thread_wait_reason_t`. -/
inductive WaitReason where
  | null
  | wait4pid
  | wait4tid
  | pexit
  | texit
  | semaphore
  | mutex
  | condition
  | rwlock
  | blocked
  | yield
  | preempted
  | priorityBoost
  | io
  | timer
  | signal
  | interrupt
  | loop
  | test
  | breakpoint
  | trace
  deriving DecidableEq, Repr

def WaitReason.wakes : WaitReason → Bool
  | .yield | .preempted | .priorityBoost | .blocked | .loop => true
  | _ => false

def THREAD_COUNT_MAX : Nat := 1024
def PROCESS_COUNT_MAX : Int := 1024
def MSG_QUEUE_MAX : Nat := 64
def INIT_TID : Int := 0

def PRIORITY_MIN : UInt64 := 1
def PRIORITY_MAX : UInt64 := 6
def PRIORITY_SYSTEM_THRESHOLD : UInt64 := 4

def CONFIG_QUANTUM_MULTIPLIER : UInt64 := 1
def QUANTUM_Q (k : UInt64) : UInt64 := CONFIG_QUANTUM_MULTIPLIER * k
def QUANTUM_MIN : UInt64 := QUANTUM_Q 1
def QUANTUM_MAX : UInt64 := QUANTUM_Q 6
def QUANTUM_NORMAL_THRESHOLD : UInt64 := QUANTUM_Q 1
def QUANTUM_NORMAL_BALANCED : UInt64 := QUANTUM_Q 2

/-- `struct msg_d`. -/
structure Message where
  used : Bool
  magic : Int
  opaqueWindow : UInt64
  msg : Int
  long1 : UInt64
  long2 : UInt64
  long3 : UInt64
  long4 : UInt64
  senderTid : Int
  receiverTid : Int

def Message.Valid (m : Message) : Prop :=
  m.used = true ∧ m.magic = 1234

instance (m : Message) : Decidable m.Valid :=
  inferInstanceAs (Decidable (_ ∧ _))

/-- `struct deferred_d`. -/
structure Deferred where
  yieldInProgress : Bool
  sleepInProgress : Bool
  desiredSleepMs : UInt64
  exitInProgress : Bool

/-- `struct msgctl_d`. -/
structure MsgCtl where
  blockInProgress : Bool
  blockOnEmpty : Bool
  missCount : Int
  hasEventFromDs : Bool

/-- `struct thread_d`. A pointer to a thread is its place in `threadList`. -/
structure Thread where
  used : Bool
  magic : Int
  tgid : Int
  tid : Int
  basePriority : UInt64
  priority : UInt64
  quantum : UInt64
  state : ThreadState
  deferred : Deferred
  callbackInProgress : Bool
  isAlertable : Bool
  hasPendingEvent : Bool
  waitReason : WaitReason
  wakeJiffy : UInt64
  credits : UInt64
  runningCount : UInt64
  alarm : UInt64
  msgQueue : Nat → Option Message
  msgQueueHead : Nat
  msgQueueTail : Nat
  msgctl : MsgCtl
  saved : Bool
  next : Option Nat

def Thread.Valid (t : Thread) : Prop :=
  t.used = true ∧ t.magic = 1234

instance (t : Thread) : Decidable t.Valid :=
  inferInstanceAs (Decidable (_ ∧ _))

/-- `threadList`: each thread stands at the place that its tid says. -/
structure ThreadTable where
  threadList : Nat → Option Thread
  tid_eq : ∀ i t, threadList i = some t → t.tid = i
  lt_max : ∀ i t, threadList i = some t → i < THREAD_COUNT_MAX

/-- Change the thread at the place `i`, if there is one, but not its tid. -/
def ThreadTable.modify (T : ThreadTable) (i : Nat) (f : Thread → Thread)
    (hf : ∀ t, (f t).tid = t.tid) : ThreadTable where
  threadList := Function.update T.threadList i ((T.threadList i).map f)
  tid_eq := by
    intro j t ht
    rcases eq_or_ne j i with rfl | hne
    · rw [Function.update_self] at ht
      obtain ⟨t', ht', rfl⟩ := Option.map_eq_some_iff.mp ht
      rw [hf]
      exact T.tid_eq j t' ht'
    · rw [Function.update_of_ne hne] at ht
      exact T.tid_eq j t ht
  lt_max := by
    intro j t ht
    rcases eq_or_ne j i with rfl | hne
    · rw [Function.update_self] at ht
      obtain ⟨t', ht', _⟩ := Option.map_eq_some_iff.mp ht
      exact T.lt_max j t' ht'
    · rw [Function.update_of_ne hne] at ht
      exact T.lt_max j t ht

theorem threadList_modify (T : ThreadTable) (i : Nat) (f : Thread → Thread)
    (hf : ∀ t, (f t).tid = t.tid) (j : Nat) :
    (T.modify i f hf).threadList j = if j = i then (T.threadList i).map f else T.threadList j :=
  Function.update_apply ..

/-- What the routines of `schedi.c` do with a tid: the thread that it names is changed if
there is one and it is valid. -/
def ThreadTable.modifyTid (T : ThreadTable) (tid : Int) (f : Thread → Thread)
    (hf : ∀ t, (f t).tid = t.tid) : ThreadTable :=
  if tid < 0 ∨ THREAD_COUNT_MAX ≤ tid then T
  else
    T.modify tid.toNat (fun t => if t.Valid then f t else t) fun t => by
      split
      · exact hf t
      · rfl

def Thread.setState (state : ThreadState) (t : Thread) : Thread :=
  { t with state := state }

def Thread.waitUntil (jiffy : UInt64) (t : Thread) : Thread :=
  { t with state := .waiting, wakeJiffy := jiffy }

def doThreadReady (T : ThreadTable) (tid : Int) : ThreadTable :=
  T.modifyTid tid (Thread.setState .ready) fun _ => rfl

def doThreadBlocked (T : ThreadTable) (tid : Int) : ThreadTable :=
  T.modifyTid tid (Thread.setState .blocked) fun _ => rfl

def doThreadWaiting (T : ThreadTable) (jiffies : UInt64) (tid : Int) (ms : UInt64) :
    ThreadTable :=
  T.modifyTid tid (Thread.waitUntil (jiffies + if ms = 0 then 1 else ms)) fun _ => rfl

theorem threadList_modifyTid (T : ThreadTable) (i : Nat) (f : Thread → Thread)
    (hf : ∀ t, (f t).tid = t.tid) (j : Nat) :
    (T.modifyTid i f hf).threadList j =
      if j = i then (T.threadList i).map fun t => if t.Valid then f t else t
      else T.threadList j := by
  unfold ThreadTable.modifyTid
  split
  · rename_i hrange
    have hnone : T.threadList i = none := by
      cases ht : T.threadList i with
      | none => rfl
      | some t =>
          have := T.lt_max i t ht
          omega
    split
    · rename_i heq
      rw [heq, hnone, Option.map_none]
    · rfl
  · rw [threadList_modify, Int.toNat_natCast]

variable {T : ThreadTable} {L : Nat → Option Thread} {i : Nat} {t : Thread}

theorem modify_update (h : T.threadList = Function.update L i (some t)) (f : Thread → Thread)
    (hf : ∀ t, (f t).tid = t.tid) :
    (T.modify i f hf).threadList = Function.update L i (some (f t)) := by
  change Function.update T.threadList i ((T.threadList i).map f) = _
  rw [h, Function.update_self, Function.update_idem]
  rfl

theorem modifyTid_update (h : T.threadList = Function.update L i (some t)) (f : Thread → Thread)
    (hf : ∀ t, (f t).tid = t.tid) :
    (T.modifyTid t.tid f hf).threadList =
      Function.update L i (some (if t.Valid then f t else t)) := by
  have ht : T.threadList i = some t := by
    rw [h, Function.update_self]
  funext j
  rw [T.tid_eq i t ht, threadList_modifyTid, ht, h]
  rcases eq_or_ne j i with rfl | hne
  · rw [if_pos rfl, Function.update_self, Option.map_some]
  · rw [if_neg hne, Function.update_of_ne hne, Function.update_of_ne hne]

inductive Policy where
  | rr
  | priorityInterleaving
  | invalid
  deriving DecidableEq, Repr

/-- `SchedulerInfo`. -/
structure SchedulerInfo where
  initialized : Bool
  isLocked : Bool
  policy : Policy
  stage : Int
  maxStage : Int
  rrReadyThreadsInRound : Int

/-- `DisplayServerInfo`. -/
structure DisplayServerInfo where
  initialized : Bool
  tid : Int

/-- `struct te_d`. -/
structure Process where
  used : Bool
  magic : Int
  pid : Int
  pml4PA : UInt64

def Process.Valid (p : Process) : Prop :=
  p.used = true ∧ p.magic = 1234

instance (p : Process) : Decidable p.Valid :=
  inferInstanceAs (Decidable (_ ∧ _))

inductive SystemState where
  | scheduling
  | running
  | other
  deriving DecidableEq, Repr

inductive TaskSwitchStatus where
  | locked
  | unlocked
  | other
  deriving DecidableEq, Repr

structure KernelState where
  threads : ThreadTable
  currentThread : Int
  jiffies : UInt64
  useEventResponder : Bool
  evResponderThread : Option Nat
  initThread : Option Nat
  idleThread : Option Nat
  threadsCounter : Nat
  currentq : Option Nat
  foregroundThread : Int
  displayServer : DisplayServerInfo
  scheduler : SchedulerInfo
  systemState : SystemState
  taskSwitchStatus : TaskSwitchStatus
  teList : Nat → Option Process
  currentProcess : Int

def KernelState.modify (s : KernelState) (i : Nat) (f : Thread → Thread)
    (hf : ∀ t, (f t).tid = t.tid) : KernelState :=
  { s with threads := s.threads.modify i f hf }

def emptyMessage : Message where
  used := true
  magic := 1234
  opaqueWindow := 0
  msg := 0
  long1 := 0
  long2 := 0
  long3 := 0
  long4 := 0
  senderTid := 0
  receiverTid := 0

/-- A thread of the process `tgid` with an empty queue and no request, as
`__ps_initialize_thread_common_elements` leaves it. -/
def newThread (tgid tid : Int) (state : ThreadState) : Thread where
  used := true
  magic := 1234
  tgid := tgid
  tid := tid
  basePriority := PRIORITY_MIN
  priority := PRIORITY_MIN
  quantum := QUANTUM_NORMAL_THRESHOLD
  state := state
  deferred := ⟨false, false, 0, false⟩
  callbackInProgress := false
  isAlertable := false
  hasPendingEvent := false
  waitReason := .null
  wakeJiffy := 0
  credits := 0
  runningCount := 0
  alarm := 0
  msgQueue := fun i => if i < MSG_QUEUE_MAX then some emptyMessage else none
  msgQueueHead := 0
  msgQueueTail := 0
  msgctl := ⟨false, false, 0, false⟩
  saved := true
  next := none

/-- The table of the threads that `threads` gives for the tids below `n`. -/
def ThreadTable.ofFn (n : Nat) (threads : Nat → Thread) : ThreadTable where
  threadList i :=
    if i < n ∧ i < THREAD_COUNT_MAX then some { threads i with tid := i } else none
  tid_eq := by
    intro i t ht
    split at ht
    · cases ht
      rfl
    · cases ht
  lt_max := by
    intro i t ht
    split at ht
    · rename_i hi
      exact hi.2
    · cases ht

/-- A kernel that runs the thread 0 of the process 0 and may run the others of a table. -/
def bootedKernel (policy : Policy) (threads : ThreadTable) : KernelState where
  threads := threads
  currentThread := 0
  jiffies := 0
  useEventResponder := true
  evResponderThread := none
  initThread := some 0
  idleThread := some 0
  threadsCounter := 1
  currentq := some 0
  foregroundThread := -1
  displayServer := ⟨false, -1⟩
  scheduler := ⟨true, false, policy, 0, 6, 0⟩
  systemState := .running
  taskSwitchStatus := .unlocked
  teList i := if i = 0 then some ⟨true, 1234, 0, 0x1000⟩ else none
  currentProcess := 0

end Gramado.Ke.Table
