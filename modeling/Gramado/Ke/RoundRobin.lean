import Gramado.Library.ListBuilding
import Gramado.Library.Run
import Gramado.Ke.Table

/-! The round robin scheduler `__scheduler_rr`. -/

namespace Gramado.Ke.RoundRobin

open Library Library.ListBuilding Ke.Table

/-- The state of the loop: the kernel, the last thread of the list and the number of threads
in it. -/
structure Round where
  kernel : KernelState
  p1q : Nat
  readyCounter : Int

def eventServed (t : Thread) : Thread :=
  { t with msgctl := { t.msgctl with hasEventFromDs := false } }

def endWait (t : Thread) : Thread :=
  { t with waitReason := .null }

def wakeForEvent (s : KernelState) (i : Nat) (t : Thread) : KernelState :=
  let s :=
    if (t.state = .waiting ∨ t.state = .blocked) ∧ t.waitReason.wakes = true then
      { s with threads := doThreadReady s.threads t.tid }.modify i endWait fun _ => rfl
    else s
  s.modify i eventServed fun _ => rfl

def waitForMessage (t : Thread) : Thread :=
  { t with waitReason := .loop, msgctl := { t.msgctl with blockInProgress := false } }

/-- The thread has asked to be blocked in `ipc_get_message`. -/
def blockThread (s : KernelState) (i : Nat) (t : Thread) : KernelState :=
  { s with threads := doThreadBlocked s.threads t.tid }.modify i waitForMessage fun _ => rfl

def retireThread (s : KernelState) (i : Nat) (t : Thread) : KernelState :=
  { s.modify i (Thread.setState .zombie) fun _ => rfl with
    foregroundThread := if t.tid = s.foregroundThread then -1 else s.foregroundThread }

def checkAlarm (jiffies : UInt64) (t : Thread) : Thread :=
  { t with alarm := if t.alarm < jiffies then 0 else t.alarm }

/-- A thread that waits on is neither `ZOMBIE` nor `READY`, so that the loop is done with
it. -/
def wakeWaiting (s : KernelState) (i : Nat) (t : Thread) : KernelState :=
  if t.Valid ∧ t.state = .waiting then
    let s := s.modify i (checkAlarm s.jiffies) fun _ => rfl
    if t.wakeJiffy ≤ s.jiffies then { s with threads := doThreadReady s.threads t.tid } else s
  else s

def freeThread (t : Thread) : Thread :=
  { t with used := false, magic := 0 }

def reapZombie (s : KernelState) (i : Nat) (t : Thread) : Except String KernelState :=
  let s :=
    if s.displayServer.initialized = true ∧ t.tid = s.displayServer.tid then
      { s with displayServer := { s.displayServer with initialized := false } }
    else s
  if s.initThread = some i then .error "__scheduler_rr: Can't kill InitThread\n"
  else .ok (s.modify i freeThread fun _ => rfl)

def clampPriority (priority : UInt64) : UInt64 :=
  let priority := if priority < PRIORITY_MIN then PRIORITY_MIN else priority
  if PRIORITY_MAX < priority then PRIORITY_MAX else priority

def balance (t : Thread) : Thread :=
  { t with
    runningCount := 0
    basePriority := clampPriority t.basePriority
    priority := clampPriority t.basePriority
    quantum := if 2 ≤ t.credits then QUANTUM_NORMAL_BALANCED + 1 else QUANTUM_NORMAL_BALANCED
    credits := if 2 ≤ t.credits then 0 else t.credits }

def setNext (next : Option Nat) (t : Thread) : Thread :=
  { t with next := next }

def linkThread (r : Round) (i : Nat) : Round where
  kernel :=
    (r.kernel.modify r.p1q (setNext (some i)) fun _ => rfl).modify i balance fun _ => rfl
  p1q := i
  readyCounter := r.readyCounter + 1

def rrSelect (r : Round) (i : Nat) : Except String Round :=
  match r.kernel.threads.threadList i with
  | none => .ok r
  | some t =>
      if t.Valid ∧ t.state = .zombie then
        match reapZombie r.kernel i t with
        | .error e => .error e
        | .ok s => .ok { r with kernel := s }
      else if t.Valid ∧ t.state = .ready then .ok (linkThread r i)
      else .ok r

def rrVisit (idle : Nat) (r : Round) (i : Nat) : Except String Round :=
  match r.kernel.threads.threadList i with
  | none => .ok r
  | some t =>
      if t.magic = 1234 ∧ t.msgctl.hasEventFromDs = true then
        .ok { r with kernel := wakeForEvent r.kernel i t }
      else if t.magic = 1234 ∧ t.msgctl.blockInProgress = true then
        .ok { r with kernel := blockThread r.kernel i t }
      else if t.magic = 1234 ∧ t.deferred.exitInProgress = true ∧ i ≠ idle then
        .ok { r with kernel := retireThread r.kernel i t }
      else rrSelect { r with kernel := wakeWaiting r.kernel i t } i

def setQuantum (quantum : UInt64) (t : Thread) : Thread :=
  { t with quantum := quantum }

def loadBalancer (s : KernelState) : KernelState :=
  match s.initThread with
  | none => s
  | some i =>
      match s.threads.threadList i with
      | none => s
      | some t =>
          if ¬ t.Valid then s
          else if 3 < s.scheduler.rrReadyThreadsInRound then
            s.modify i (setQuantum QUANTUM_NORMAL_THRESHOLD) fun _ => rfl
          else s.modify i (setQuantum QUANTUM_NORMAL_BALANCED) fun _ => rfl

def endRound (r : Round) : KernelState :=
  let s :=
    { r.kernel with
      scheduler := { r.kernel.scheduler with rrReadyThreadsInRound := r.readyCounter } }
  (loadBalancer s).modify r.p1q (setNext none) fun _ => rfl

def stabilizeIdle (t : Thread) : Thread :=
  { t with
    basePriority := PRIORITY_SYSTEM_THRESHOLD
    priority := PRIORITY_SYSTEM_THRESHOLD
    quantum := QUANTUM_NORMAL_THRESHOLD }

def beginRound (s : KernelState) (idle : Nat) (t : Thread) : Round where
  kernel :=
    let s := { s.modify idle stabilizeIdle fun _ => rfl with currentq := some idle }
    { s with threads := doThreadReady s.threads t.tid }
  p1q := idle
  readyCounter := 0

/-- The places of `threadList` behind the one of the idle thread. -/
def slots : List Nat := List.range' 1 (THREAD_COUNT_MAX - 1)

def schedulerRr (s : KernelState) : Except String (Int × KernelState) :=
  if s.scheduler.initialized = false then
    .error "__scheduler_rr: Scheduler not initialized\n"
  else if s.scheduler.policy ≠ .rr then .error "__scheduler_rr: Scheduler policy\n"
  else
    match s.idleThread with
    | none => .error "__scheduler_rr: Idle\n"
    | some idle =>
        match s.threads.threadList idle with
        | none => .error "page fault"
        | some t =>
            if ¬ t.Valid then .error "__scheduler_rr: Idle validation\n"
            else if s.initThread ≠ some idle then .error "__scheduler_rr: Idle != InitThread\n"
            else if t.tid ≠ INIT_TID then .error "__scheduler_rr: FirstTID\n"
            else
              match slots.foldlM (rrVisit idle) (beginRound s idle t) with
              | .error e => .error e
              | .ok r => .ok (t.tid, endRound r)

/-- What a pass never changes but the threads, the foreground thread and the registration of
the display server. -/
def Frame (s s' : KernelState) : Prop :=
  ∃ threads foreground displayServer,
    s' = { s with
      threads := threads, foregroundThread := foreground, displayServer := displayServer }

theorem Frame.refl (s : KernelState) : Frame s s := ⟨_, _, _, rfl⟩

variable {s : KernelState} {L : Nat → Option Thread} {i idle b j : Nat} {t : Thread} {r r' : Round}
  {visited : List Nat}

theorem Frame.trans {t u : KernelState} (hst : Frame s t) (htu : Frame t u) : Frame s u := by
  obtain ⟨_, _, _, rfl⟩ := hst
  obtain ⟨_, _, _, rfl⟩ := htu
  exact ⟨_, _, _, rfl⟩

theorem frame_modify (s : KernelState) (i : Nat) (f : Thread → Thread)
    (hf : ∀ t, (f t).tid = t.tid) : Frame s (s.modify i f hf) := ⟨_, _, _, rfl⟩

def Selected (jiffies : UInt64) (t : Thread) : Prop :=
  t.Valid ∧ t.msgctl.hasEventFromDs = false ∧ t.msgctl.blockInProgress = false ∧
    t.deferred.exitInProgress = false ∧
    (t.state = .ready ∨ t.state = .waiting ∧ t.wakeJiffy ≤ jiffies)

instance (jiffies : UInt64) (t : Thread) : Decidable (Selected jiffies t) :=
  inferInstanceAs (Decidable (_ ∧ _))

def makeReady (t : Thread) : Thread :=
  if t.Valid then t.setState .ready else t

def makeBlocked (t : Thread) : Thread :=
  if t.Valid then t.setState .blocked else t

def wakeIfDue (jiffies : UInt64) (t : Thread) : Thread :=
  if t.Valid ∧ t.state = .waiting then
    if t.wakeJiffy ≤ jiffies then makeReady (checkAlarm jiffies t) else checkAlarm jiffies t
  else t

/-- What a pass makes of one thread, apart from the links between the threads. -/
def visitThread (jiffies : UInt64) (t : Thread) : Thread :=
  if t.magic = 1234 ∧ t.msgctl.hasEventFromDs = true then
    eventServed
      (if (t.state = .waiting ∨ t.state = .blocked) ∧ t.waitReason.wakes = true then
        endWait (makeReady t)
      else t)
  else if t.magic = 1234 ∧ t.msgctl.blockInProgress = true then
    waitForMessage (makeBlocked t)
  else if t.magic = 1234 ∧ t.deferred.exitInProgress = true then t.setState .zombie
  else if (wakeIfDue jiffies t).Valid ∧ (wakeIfDue jiffies t).state = .zombie then
    freeThread (wakeIfDue jiffies t)
  else if (wakeIfDue jiffies t).Valid ∧ (wakeIfDue jiffies t).state = .ready then
    balance (wakeIfDue jiffies t)
  else wakeIfDue jiffies t

theorem wakeWaiting_spec (h : s.threads.threadList = Function.update L i (some t)) :
    (wakeWaiting s i t).threads.threadList = Function.update L i (some (wakeIfDue s.jiffies t)) ∧
      Frame s (wakeWaiting s i t) := by
  have halarm := modify_update h (checkAlarm s.jiffies) fun _ => rfl
  unfold wakeWaiting wakeIfDue
  dsimp only [KernelState.modify]
  split
  · split
    · exact ⟨modifyTid_update halarm (Thread.setState .ready) fun _ => rfl, _, _, _, rfl⟩
    · exact ⟨halarm, frame_modify s i (checkAlarm s.jiffies) fun _ => rfl⟩
  · exact ⟨h, Frame.refl s⟩

theorem wakeForEvent_spec (h : s.threads.threadList = Function.update L i (some t)) :
    (wakeForEvent s i t).threads.threadList = Function.update L i (some (eventServed
          (if (t.state = .waiting ∨ t.state = .blocked) ∧ t.waitReason.wakes = true then
            endWait (makeReady t)
          else t))) ∧
      Frame s (wakeForEvent s i t) := by
  unfold wakeForEvent
  split
  · have hready := modifyTid_update h (Thread.setState .ready) fun _ => rfl
    have hwait := modify_update hready endWait fun _ => rfl
    exact ⟨modify_update hwait eventServed fun _ => rfl, _, _, _, rfl⟩
  · exact ⟨modify_update h eventServed fun _ => rfl, _, _, _, rfl⟩

theorem blockThread_spec (h : s.threads.threadList = Function.update L i (some t)) :
    (blockThread s i t).threads.threadList =
        Function.update L i (some (waitForMessage (makeBlocked t))) ∧
      Frame s (blockThread s i t) := by
  have hblocked := modifyTid_update h (Thread.setState .blocked) fun _ => rfl
  exact ⟨modify_update hblocked waitForMessage fun _ => rfl, _, _, _, rfl⟩

theorem retireThread_spec (h : s.threads.threadList = Function.update L i (some t)) :
    (retireThread s i t).threads.threadList = Function.update L i (some (t.setState .zombie)) ∧
      Frame s (retireThread s i t) :=
  ⟨modify_update h (Thread.setState .zombie) fun _ => rfl, _, _, _, rfl⟩

theorem reapZombie_spec (h : s.threads.threadList = Function.update L i (some t))
    (hinit : s.initThread ≠ some i) :
    ∃ s', reapZombie s i t = .ok s' ∧
      s'.threads.threadList = Function.update L i (some (freeThread t)) ∧ Frame s s' := by
  unfold reapZombie
  rw [if_neg (by split <;> exact hinit)]
  split
  · exact ⟨_, rfl, modify_update h freeThread fun _ => rfl, _, _, _, rfl⟩
  · exact ⟨_, rfl, modify_update h freeThread fun _ => rfl, _, _, _, rfl⟩

theorem linkThread_spec (h : r.kernel.threads.threadList = Function.update L i (some t))
    (hne : r.p1q ≠ i) :
    (linkThread r i).kernel.threads.threadList = Function.update
          (Function.update L r.p1q ((L r.p1q).map (setNext (some i)))) i (some (balance t)) ∧
      Frame r.kernel (linkThread r i).kernel := by
  have hlink : (r.kernel.threads.modify r.p1q (setNext (some i)) fun _ => rfl).threadList =
      Function.update (Function.update L r.p1q ((L r.p1q).map (setNext (some i)))) i (some t)
      := by
    change Function.update r.kernel.threads.threadList r.p1q _ = _
    rw [h, Function.update_of_ne hne, Function.update_comm hne.symm]
  exact ⟨modify_update hlink balance fun _ => rfl, _, _, _, rfl⟩

theorem wakeIfDue_ready (jiffies : UInt64) (t : Thread) :
    ((wakeIfDue jiffies t).Valid ∧ (wakeIfDue jiffies t).state = .ready) ↔
      t.Valid ∧ (t.state = .ready ∨ t.state = .waiting ∧ t.wakeJiffy ≤ jiffies) := by
  unfold wakeIfDue
  split
  · rename_i hwaiting
    have hvalid : (checkAlarm jiffies t).Valid := hwaiting.1
    split
    · rename_i hdue
      rw [makeReady, if_pos hvalid]
      exact ⟨fun _ => ⟨hwaiting.1, .inr ⟨hwaiting.2, hdue⟩⟩, fun _ => ⟨hvalid, rfl⟩⟩
    · rename_i hdue
      constructor
      · rintro ⟨_, hready⟩
        exact absurd (hwaiting.2.symm.trans hready) (by decide)
      · rintro ⟨_, hready | hwait⟩
        · exact absurd (hwaiting.2.symm.trans hready) (by decide)
        · exact absurd hwait.2 hdue
  · rename_i hnot
    constructor
    · rintro ⟨hvalid, hready⟩
      exact ⟨hvalid, .inl hready⟩
    · rintro ⟨hvalid, hready | hwait⟩
      · exact ⟨hvalid, hready⟩
      · exact absurd ⟨hvalid, hwait.1⟩ hnot

theorem rrVisit_spec (ht : r.kernel.threads.threadList i = some t) (hidle : i ≠ idle)
    (hne : r.p1q ≠ i) (hinit : r.kernel.initThread ≠ some i) :
    ∃ r', rrVisit idle r i = .ok r' ∧ Frame r.kernel r'.kernel ∧
      r'.p1q = (if Selected r.kernel.jiffies t then i else r.p1q) ∧
      r'.kernel.threads.threadList = Function.update
          (if Selected r.kernel.jiffies t then
            Function.update r.kernel.threads.threadList r.p1q
              ((r.kernel.threads.threadList r.p1q).map (setNext (some i)))
          else r.kernel.threads.threadList)
          i (some (visitThread r.kernel.jiffies t)) := by
  have hself : r.kernel.threads.threadList =
      Function.update r.kernel.threads.threadList i (some t) :=
    (Function.update_eq_self_iff.mpr ht.symm).symm
  unfold rrVisit visitThread
  rw [ht]
  dsimp only
  split
  · rename_i hevent
    have hnot : ¬ Selected r.kernel.jiffies t := by
      rintro ⟨_, hnone, _⟩
      exact absurd (hevent.2.symm.trans hnone) (by decide)
    rw [if_neg hnot, if_neg hnot]
    obtain ⟨hlist, hframe⟩ := wakeForEvent_spec hself
    exact ⟨_, rfl, hframe, rfl, hlist⟩
  rename_i hevent
  split
  · rename_i hblock
    have hnot : ¬ Selected r.kernel.jiffies t := by
      rintro ⟨_, _, hnone, _⟩
      exact absurd (hblock.2.symm.trans hnone) (by decide)
    rw [if_neg hnot, if_neg hnot]
    obtain ⟨hlist, hframe⟩ := blockThread_spec hself
    exact ⟨_, rfl, hframe, rfl, hlist⟩
  rename_i hblock
  rcases Decidable.em (t.magic = 1234 ∧ t.deferred.exitInProgress = true) with hexit | hexit
  · have hnot : ¬ Selected r.kernel.jiffies t := by
      rintro ⟨_, _, _, hnone, _⟩
      exact absurd (hexit.2.symm.trans hnone) (by decide)
    rw [if_neg hnot, if_neg hnot, if_pos ⟨hexit.1, hexit.2, hidle⟩, if_pos hexit]
    obtain ⟨hlist, hframe⟩ := retireThread_spec hself
    exact ⟨_, rfl, hframe, rfl, hlist⟩
  rw [if_neg (fun h => hexit ⟨h.1, h.2.1⟩), if_neg hexit]
  obtain ⟨hwake, hframe⟩ := wakeWaiting_spec hself
  have hthread : (wakeWaiting r.kernel i t).threads.threadList i =
      some (wakeIfDue r.kernel.jiffies t) := by
    rw [hwake, Function.update_self]
  have hselected : Selected r.kernel.jiffies t ↔ (wakeIfDue r.kernel.jiffies t).Valid ∧
        (wakeIfDue r.kernel.jiffies t).state = .ready := by
    rw [wakeIfDue_ready]
    constructor
    · rintro ⟨hvalid, _, _, _, hstate⟩
      exact ⟨hvalid, hstate⟩
    · rintro ⟨hvalid, hstate⟩
      simp only [hvalid.2, true_and, Bool.not_eq_true] at hevent hblock hexit
      exact ⟨hvalid, hevent, hblock, hexit, hstate⟩
  unfold rrSelect
  dsimp only
  rw [hthread]
  dsimp only
  split
  · rename_i hzombie
    have hnot : ¬ Selected r.kernel.jiffies t := by
      rw [hselected]
      rintro ⟨_, hready⟩
      exact absurd (hzombie.2.symm.trans hready) (by decide)
    rw [if_neg hnot, if_neg hnot]
    have hinit' : (wakeWaiting r.kernel i t).initThread ≠ some i := by
      obtain ⟨_, _, _, heq⟩ := hframe
      rw [heq]
      exact hinit
    obtain ⟨s', hreap, hlist, hframe'⟩ := reapZombie_spec hwake hinit'
    rw [hreap]
    exact ⟨_, rfl, hframe.trans hframe', rfl, hlist⟩
  split
  · rename_i hready
    have hyes := hselected.mpr hready
    rw [if_pos hyes, if_pos hyes]
    obtain ⟨hlist, hframe'⟩ :=
      linkThread_spec (r := { r with kernel := wakeWaiting r.kernel i t }) hwake hne
    exact ⟨_, rfl, hframe.trans hframe', rfl, hlist⟩
  · rename_i hready
    have hnot : ¬ Selected r.kernel.jiffies t := fun h => hready (hselected.mp h)
    rw [if_neg hnot, if_neg hnot]
    exact ⟨_, rfl, hframe, rfl, hwake⟩

def nextOf (s : KernelState) (i : Nat) : Option Nat :=
  (s.threads.threadList i).bind Thread.next

/-- The thread at the place `i` is one that the round takes. -/
def chosen (s : KernelState) (i : Nat) : Bool :=
  match s.threads.threadList i with
  | none => false
  | some t => Selected s.jiffies t

/-- What the loop has achieved once it has visited some threads. -/
structure RoundInv (s : KernelState) (idle : Nat) (visited : List Nat) (r : Round) : Prop where
  frame : Frame s r.kernel
  untouched : ∀ j, j ≠ idle → j ∉ visited →
    r.kernel.threads.threadList j = s.threads.threadList j
  touched : ∀ j t, s.threads.threadList j = some t → j = idle ∨ j ∈ visited →
    ∃ next, r.kernel.threads.threadList j =
      some (setNext next (if j = idle then t else visitThread s.jiffies t))
  absent : ∀ j, s.threads.threadList j = none → r.kernel.threads.threadList j = none
  last : ∃ front, idle :: visited.filter (chosen s) = front ++ [r.p1q]
  linked : LinkedList.Linked (nextOf r.kernel) (idle :: visited.filter (chosen s))

def nextField : Field Nat Thread where
  next := Thread.next
  setNext := setNext
  next_setNext _ _ := rfl
  setNext_setNext _ _ _ := rfl
  setNext_next _ := rfl

theorem roundInv_iff : RoundInv s idle visited r ↔ Frame s r.kernel ∧
    Built nextField (visitThread s.jiffies) (chosen s) idle s.threads.threadList
      r.kernel.threads.threadList visited r.p1q :=
  ⟨fun ⟨hframe, huntouched, htouched, habsent, hlast, hlinked⟩ =>
      ⟨hframe, huntouched, htouched, habsent, hlast, hlinked⟩,
    fun ⟨hframe, huntouched, htouched, habsent, hlast, hlinked⟩ =>
      ⟨hframe, huntouched, htouched, habsent, hlast, hlinked⟩⟩

theorem roundInv_begin (ht : s.threads.threadList idle = some t) :
    RoundInv s idle [] ⟨s, idle, 0⟩ :=
  roundInv_iff.mpr ⟨Frame.refl s, built_begin ht⟩

theorem chosen_eq (ht : s.threads.threadList i = some t) :
    chosen s i = decide (Selected s.jiffies t) := by
  rw [chosen, ht]

theorem chosen_exists_or (hexists : ∃ t, s.threads.threadList idle = some t) (b : Nat)
    (h : b = idle ∨ chosen s b = true) : ∃ t, s.threads.threadList b = some t := by
  rcases h with rfl | hchosen
  · exact hexists
  · unfold chosen at hchosen
    split at hchosen
    · cases hchosen
    · rename_i t ht
      exact ⟨t, ht⟩

theorem RoundInv.thread (h : RoundInv s idle visited r)
    (hexists : ∃ t, s.threads.threadList idle = some t)
    (hb : b ∈ idle :: visited.filter (chosen s)) :
    ∃ t next, s.threads.threadList b = some t ∧ r.kernel.threads.threadList b =
      some (setNext next (if b = idle then t else visitThread s.jiffies t)) :=
  (roundInv_iff.mp h).2.cell (chosen_exists_or hexists) hb

theorem roundInv_visit (h : RoundInv s idle visited r) (hinit : s.initThread = some idle)
    (hexists : ∃ t, s.threads.threadList idle = some t) (hidle : i ≠ idle) (hi : i ∉ visited)
    (hnodup : (idle :: visited).Nodup) :
    ∃ r', rrVisit idle r i = .ok r' ∧ RoundInv s idle (visited ++ [i]) r' := by
  obtain ⟨hframed, hbuilt⟩ := roundInv_iff.mp h
  have hsame := h.untouched i hidle hi
  cases ht : s.threads.threadList i with
  | none =>
      have hnot : chosen s i = false := by rw [chosen, ht]
      refine ⟨r, ?_, roundInv_iff.mpr ⟨hframed, built_absent hbuilt ht hnot⟩⟩
      rw [rrVisit, hsame, ht]
  | some t =>
      obtain ⟨_, _, _, heq⟩ := h.frame
      have hjiffies : r.kernel.jiffies = s.jiffies := by rw [heq]
      have hrinit : r.kernel.initThread ≠ some i := by
        rw [heq]
        dsimp only
        rw [hinit]
        exact fun heq => hidle (Option.some.inj heq).symm
      obtain ⟨front, hfront⟩ := h.last
      have hne := (hbuilt.mem hi hidle hfront (b := r.p1q) (by simp)).2
      obtain ⟨r', hvisit, hframe, hp1q, hlist⟩ := rrVisit_spec (hsame.trans ht) hidle hne hrinit
      rw [hjiffies] at hp1q hlist
      refine ⟨r', hvisit, roundInv_iff.mpr ⟨hframed.trans hframe, ?_⟩⟩
      have hchosen := chosen_eq ht
      rcases Decidable.em (Selected s.jiffies t) with hselected | hnot
      · rw [if_pos hselected] at hp1q hlist
        rw [hp1q]
        exact built_link hbuilt (chosen_exists_or hexists) hnodup ht hidle hi
          (hchosen.trans (decide_eq_true hselected)) hlist
      · rw [if_neg hnot] at hp1q hlist
        rw [hp1q]
        exact built_skip hbuilt ht hidle hi (hchosen.trans (decide_eq_false hnot)) hlist

theorem roundInv_loop {is : List Nat} (h : RoundInv s idle [] r) (hinit : s.initThread = some idle)
    (hexists : ∃ t, s.threads.threadList idle = some t) (hnodup : (idle :: is).Nodup) :
    ∃ r', is.foldlM (rrVisit idle) r = .ok r' ∧ RoundInv s idle is r' := by
  apply Run.foldlM_invariant (RoundInv s idle) _ h
  intro visited i rest r his hr
  rw [his] at hnodup
  obtain ⟨hidle, hnodup⟩ := List.nodup_cons.mp hnodup
  rw [List.nodup_append] at hnodup
  obtain ⟨hvisited, _, hdisjoint⟩ := hnodup
  apply roundInv_visit hr hinit hexists
  · rintro rfl
    exact hidle (by simp)
  · intro hi
    exact hdisjoint i hi i (by simp) rfl
  · rw [List.nodup_cons]
    exact ⟨fun hmem => hidle (List.mem_append_left _ hmem), hvisited⟩

theorem loadBalancer_thread (ht : s.threads.threadList j = some t) :
    ∃ quantum, (loadBalancer s).threads.threadList j = some (setQuantum quantum t) := by
  have hmodify : ∀ i quantum, ∃ quantum',
      (s.modify i (setQuantum quantum) fun _ => rfl).threads.threadList j =
        some (setQuantum quantum' t) := by
    intro i quantum
    have hj := threadList_modify s.threads i (setQuantum quantum) (fun _ => rfl) j
    rcases eq_or_ne j i with rfl | hne
    · rw [if_pos rfl, ht] at hj
      exact ⟨quantum, hj⟩
    · rw [if_neg hne, ht] at hj
      exact ⟨t.quantum, hj⟩
  unfold loadBalancer
  split
  · exact ⟨t.quantum, ht⟩
  split
  · exact ⟨t.quantum, ht⟩
  split
  · exact ⟨t.quantum, ht⟩
  split
  · exact hmodify _ _
  · exact hmodify _ _

theorem endRound_thread (ht : r.kernel.threads.threadList j = some t) :
    ∃ quantum, (endRound r).threads.threadList j =
      some (setNext (if j = r.p1q then none else t.next) (setQuantum quantum t)) := by
  obtain ⟨quantum, hquantum⟩ := loadBalancer_thread (s := { r.kernel with
    scheduler := { r.kernel.scheduler with rrReadyThreadsInRound := r.readyCounter } }) ht
  have hj := threadList_modify (loadBalancer { r.kernel with
    scheduler := { r.kernel.scheduler with rrReadyThreadsInRound := r.readyCounter } }).threads
    r.p1q (setNext none) (fun _ => rfl) j
  refine ⟨quantum, ?_⟩
  rcases eq_or_ne j r.p1q with rfl | hne
  · rw [if_pos rfl, hquantum] at hj
    rw [if_pos rfl]
    exact hj
  · rw [if_neg hne, hquantum] at hj
    rw [if_neg hne]
    exact hj

theorem endRound_visited (h : RoundInv s idle visited r) (ht : s.threads.threadList i = some t)
    (hi : i = idle ∨ i ∈ visited) :
    ∃ next quantum, (endRound r).threads.threadList i = some (setNext next
      (setQuantum quantum (if i = idle then t else visitThread s.jiffies t))) := by
  obtain ⟨next, hnext⟩ := h.touched i t ht hi
  obtain ⟨quantum, hquantum⟩ := endRound_thread hnext
  exact ⟨_, quantum, hquantum⟩

/-- What `__scheduler_rr` panics without. -/
structure RoundRobinReady (s : KernelState) : Prop where
  initialized : s.scheduler.initialized = true
  policy : s.scheduler.policy = .rr
  idleThread : s.idleThread = some 0
  initThread : s.initThread = some 0
  idle : ∃ t, s.threads.threadList 0 = some t ∧ t.Valid

theorem zero_not_mem_slots : 0 ∉ slots := by
  rw [slots, List.mem_range'_1]
  omega

theorem slots_nodup : (0 :: slots).Nodup := by
  rw [List.nodup_cons]
  exact ⟨zero_not_mem_slots, List.nodup_range'⟩

theorem beginRound_idle (ht : s.threads.threadList 0 = some t) (hvalid : t.Valid) :
    (beginRound s 0 t).kernel.threads.threadList 0 =
      some (Thread.setState .ready (stabilizeIdle t)) := by
  have hself : s.threads.threadList = Function.update s.threads.threadList 0 (some t) :=
    (Function.update_eq_self_iff.mpr ht.symm).symm
  have hstable := modify_update hself stabilizeIdle fun _ => rfl
  have hready := modifyTid_update hstable (Thread.setState .ready) fun _ => rfl
  have hvalid' : (stabilizeIdle t).Valid := hvalid
  rw [if_pos hvalid'] at hready
  exact (congrFun hready 0).trans (Function.update_self ..)

theorem schedulerRr_visits (h : RoundRobinReady s) :
    ∃ t r, s.threads.threadList 0 = some t ∧ t.Valid ∧ schedulerRr s = .ok (INIT_TID, endRound r) ∧
      RoundInv (beginRound s 0 t).kernel 0 slots r := by
  obtain ⟨t, ht, hvalid⟩ := h.idle
  have htid : t.tid = INIT_TID := s.threads.tid_eq 0 t ht
  have hbegin := beginRound_idle ht hvalid
  obtain ⟨r, hloop, hr⟩ := roundInv_loop (roundInv_begin hbegin) h.initThread ⟨_, hbegin⟩
    slots_nodup
  refine ⟨t, r, ht, hvalid, ?_, hr⟩
  unfold schedulerRr
  rw [if_neg (by rw [h.initialized]; decide), if_neg (not_not_intro h.policy), h.idleThread]
  dsimp only
  rw [ht]
  dsimp only
  rw [if_neg (not_not_intro hvalid), if_neg (not_not_intro h.initThread),
    if_neg (not_not_intro htid)]
  have hround : beginRound s 0 t = ⟨(beginRound s 0 t).kernel, 0, 0⟩ := rfl
  rw [hround, hloop, htid]

theorem visitThread_selected {jiffies : UInt64} (h : Selected jiffies t) :
    (visitThread jiffies t).Valid ∧ (visitThread jiffies t).state = .ready := by
  obtain ⟨hvalid, hevent, hblock, hexit, hstate⟩ := h
  have hready := (wakeIfDue_ready jiffies t).mpr ⟨hvalid, hstate⟩
  unfold visitThread
  rw [if_neg (by rw [hevent]; simp), if_neg (by rw [hblock]; simp),
    if_neg (by rw [hexit]; simp), if_neg (by rw [hready.2]; simp), if_pos hready]
  exact hready

/-- A thread that is `READY`, or `WAITING` for a time that has come, and does not exit. -/
def Eligible (jiffies : UInt64) (t : Thread) : Prop :=
  t.Valid ∧ t.deferred.exitInProgress = false ∧
    (t.state = .ready ∨ t.state = .waiting ∧ t.wakeJiffy ≤ jiffies)

/-- No thread but the idle one has an event of the display server or asks to be blocked. -/
def NoRequests (s : KernelState) : Prop :=
  ∀ i t, i ≠ 0 → s.threads.threadList i = some t →
    t.msgctl.hasEventFromDs = false ∧ t.msgctl.blockInProgress = false

theorem beginRound_thread (s : KernelState) (t : Thread) (ht : t.tid = 0) (hj : j ≠ 0) :
    (beginRound s 0 t).kernel.threads.threadList j = s.threads.threadList j := by
  have hready := threadList_modifyTid (s.modify 0 stabilizeIdle fun _ => rfl).threads 0
    (Thread.setState .ready) (fun _ => rfl) j
  rw [if_neg hj] at hready
  have hstable := threadList_modify s.threads 0 stabilizeIdle (fun _ => rfl) j
  rw [if_neg hj] at hstable
  unfold beginRound
  dsimp only
  rw [ht]
  exact hready.trans hstable

theorem mem_slots (ht : s.threads.threadList i = some t) : i ∈ slots ↔ i ≠ 0 := by
  have hlt := s.threads.lt_max i t ht
  rw [slots, List.mem_range'_1]
  omega

theorem chosen_iff (hnone : NoRequests s) (hi : i ≠ 0) :
    chosen s i = true ↔ ∃ t, s.threads.threadList i = some t ∧ Eligible s.jiffies t := by
  unfold chosen
  split
  · rename_i hthread
    constructor
    · intro hfalse
      cases hfalse
    · rintro ⟨t, ht, _⟩
      rw [hthread] at ht
      cases ht
  · rename_i t ht
    obtain ⟨hevent, hblock⟩ := hnone i t hi ht
    rw [decide_eq_true_eq]
    constructor
    · rintro ⟨hvalid, _, _, hexit, hstate⟩
      exact ⟨t, ht, hvalid, hexit, hstate⟩
    · rintro ⟨t', ht', hvalid, hexit, hstate⟩
      rw [ht] at ht'
      cases ht'
      exact ⟨hvalid, hevent, hblock, hexit, hstate⟩

theorem endRound_follows (h : RoundInv s idle visited r)
    (hexists : ∃ t, s.threads.threadList idle = some t) (hnodup : (idle :: visited).Nodup) :
    LinkedList.Follows (nextOf (endRound r)) (some idle)
      (idle :: visited.filter (chosen s)) := by
  refine LinkedList.Follows.congr (built_follows (roundInv_iff.mp h).2 (chosen_exists_or hexists)
    hnodup rfl) fun b hb => ?_
  obtain ⟨t, next, _, ht⟩ := h.thread hexists hb
  obtain ⟨quantum, hend⟩ := endRound_thread ht
  rw [nextOf, hend, Field.nextIn]
  rcases eq_or_ne b r.p1q with rfl | hne
  · rw [Function.update_self, ht, if_pos rfl]
    rfl
  · rw [Function.update_of_ne hne, ht, if_neg hne]
    rfl

/-- The list that `__scheduler_rr` leaves behind the idle thread: it ends, has no thread
twice, goes up by tid and has all the eligible threads and no other. -/
theorem schedulerRr_follows {s : KernelState} (h : RoundRobinReady s) (hnone : NoRequests s) :
    ∃ t L, schedulerRr s = .ok (INIT_TID, t) ∧
      LinkedList.Follows (nextOf t) s.idleThread (0 :: L) ∧ (0 :: L).Nodup ∧
      L.Pairwise (· < ·) ∧
      (∀ i, i ∈ L ↔ i ≠ 0 ∧ ∃ th, s.threads.threadList i = some th ∧ Eligible s.jiffies th) ∧
      ∀ i ∈ L, ∃ th, t.threads.threadList i = some th ∧ th.Valid ∧ th.state = .ready := by
  obtain ⟨t, r, ht, hvalid, hsched, hr⟩ := schedulerRr_visits h
  have htid : t.tid = 0 := s.threads.tid_eq 0 t ht
  have hexists : ∃ t', (beginRound s 0 t).kernel.threads.threadList 0 = some t' :=
    ⟨_, beginRound_idle ht hvalid⟩
  generalize hbegin : (beginRound s 0 t).kernel = b at hexists hr
  have hjiffies : b.jiffies = s.jiffies := by rw [← hbegin]; rfl
  have hsame : ∀ j, j ≠ 0 → b.threads.threadList j = s.threads.threadList j := by
    intro j hj
    rw [← hbegin]
    exact beginRound_thread s t htid hj
  have hbnone : NoRequests b := by
    intro i th hi hth
    rw [hsame i hi] at hth
    exact hnone i th hi hth
  refine ⟨endRound r, slots.filter (chosen b), hsched, ?_, ?_, ?_, ?_, ?_⟩
  · rw [h.idleThread]
    exact endRound_follows hr hexists slots_nodup
  · exact List.Nodup.sublist (List.Sublist.cons_cons 0 List.filter_sublist) slots_nodup
  · exact List.Pairwise.sublist List.filter_sublist List.pairwise_lt_range'
  · intro i
    rw [List.mem_filter]
    constructor
    · rintro ⟨hi, hchosen⟩
      have hne : i ≠ 0 := by
        rintro rfl
        exact zero_not_mem_slots hi
      rw [chosen_iff hbnone hne, hsame i hne, hjiffies] at hchosen
      exact ⟨hne, hchosen⟩
    · rintro ⟨hne, th, hth, heligible⟩
      refine ⟨(mem_slots hth).mpr hne, ?_⟩
      rw [chosen_iff hbnone hne, hsame i hne, hjiffies]
      exact ⟨th, hth, heligible⟩
  · intro i hi
    obtain ⟨th, next, hth, hrth⟩ := hr.thread hexists (List.mem_cons_of_mem _ hi)
    have hne : i ≠ 0 := by
      rintro rfl
      exact zero_not_mem_slots (List.mem_of_mem_filter hi)
    obtain ⟨quantum, hend⟩ := endRound_thread hrth
    have hselected := List.of_mem_filter hi
    rw [chosen_eq hth, decide_eq_true_eq] at hselected
    obtain ⟨hvalid, hready⟩ := visitThread_selected hselected
    rw [if_neg hne] at hend
    exact ⟨_, hend, hvalid, hready⟩

/-- A table with a `READY` thread, two `WAITING` ones of which the first is due, a `BLOCKED`
one and one that exits, all linked to the first. -/
def mixedThread (i : Nat) : Thread :=
  match i with
  | 1 => setNext (some 1) (newThread 0 1 .ready)
  | 2 => setNext (some 1) (newThread 0 2 .waiting)
  | 3 => setNext (some 1) { newThread 0 3 .waiting with wakeJiffy := 100 }
  | 4 => setNext (some 1) (newThread 0 4 .blocked)
  | 5 => setNext (some 1) { newThread 0 5 .ready with deferred := ⟨false, false, 0, true⟩ }
  | _ => newThread 0 0 .running

def mixedKernel : KernelState :=
  bootedKernel .rr (ThreadTable.ofFn 6 mixedThread)

theorem mixedKernel_noRequests : NoRequests mixedKernel := by
  intro i t _ ht
  unfold mixedKernel bootedKernel ThreadTable.ofFn at ht
  dsimp only at ht
  split at ht
  · cases ht
    unfold mixedThread
    split <;> exact ⟨rfl, rfl⟩
  · cases ht

theorem schedulerRr_follows_example :
    ∃ t L, schedulerRr mixedKernel = .ok (0, t) ∧
      LinkedList.Follows (nextOf t) (some 0) (0 :: L) ∧ 1 ∈ L ∧ 2 ∈ L ∧ 3 ∉ L := by
  have hready : RoundRobinReady mixedKernel :=
    ⟨rfl, rfl, rfl, rfl, _, rfl, rfl, rfl⟩
  obtain ⟨t, L, hsched, hfollows, _, _, hmem, _⟩ :=
    schedulerRr_follows hready mixedKernel_noRequests
  refine ⟨t, L, hsched, hfollows, ?_, ?_, ?_⟩
  · exact (hmem 1).mpr ⟨by decide, _, rfl, ⟨rfl, rfl⟩, rfl, .inl rfl⟩
  · exact (hmem 2).mpr ⟨by decide, _, rfl, ⟨rfl, rfl⟩, rfl, .inr ⟨rfl, by decide⟩⟩
  · intro hthree
    obtain ⟨_, th, hth, _, _, hstate⟩ := (hmem 3).mp hthree
    cases hth
    rcases hstate with hready | ⟨_, hdue⟩
    · cases hready
    · exact absurd hdue (by decide)

end Gramado.Ke.RoundRobin
