import Gramado.Ke.Preemption
import Gramado.Library.Rounds
import Mathlib.Data.List.Perm.Subperm

/-! Under the round robin policy the task switch takes the threads of a round one after the
other, and then builds the list of the next one. -/

namespace Gramado.Ke.Rotation

open Library Library.Rounds Ke.Table Ke.RoundRobin Ke.Stages Ke.TaskSwitch Ke.Doomed Ke.Passes
open Ke.Dispatch Ke.Preemption

def Fresh (state : ThreadState) : Prop :=
  state = .initialized ∨ state = .standby

def Rests (t t' : Thread) : Prop :=
  (t'.state = .running → t.state = .running) ∧ (Fresh t'.state → Fresh t.state)

variable {t t' : Thread} {s u v : KernelState} {tid : Int} {out : Switched} {i q fuel k : Nat}
  {round : List Nat}

theorem Rests.of_eq (h : t'.state = t.state) : Rests t t' := by
  rw [Rests, h]
  exact ⟨id, id⟩

theorem Rests.refl (t : Thread) : Rests t t := Rests.of_eq rfl

theorem Rests.trans {u v : Thread} (htu : Rests t u) (huv : Rests u v) : Rests t v :=
  ⟨fun h => htu.1 (huv.1 h), fun h => htu.2 (huv.2 h)⟩

theorem Rests.of_settled (hrunning : t'.state ≠ .running) (hfresh : ¬ Fresh t'.state) :
    Rests t t' :=
  ⟨fun h => absurd h hrunning, fun h => absurd h hfresh⟩

theorem not_fresh_ready : ¬ Fresh .ready := by
  rintro (h | h) <;> cases h

theorem not_fresh_running : ¬ Fresh .running := by
  rintro (h | h) <;> cases h

structure Visited (t t' : Thread) : Prop where
  rests : Rests t t'
  valid : t'.Valid → t.Valid
  pending : t'.hasPendingEvent = t.hasPendingEvent

theorem Visited.refl (t : Thread) : Visited t t := ⟨Rests.refl t, id, rfl⟩

theorem Visited.trans {u v : Thread} (htu : Visited t u) (huv : Visited u v) : Visited t v where
  rests := htu.rests.trans huv.rests
  valid h := htu.valid (huv.valid h)
  pending := huv.pending.trans htu.pending

theorem visited_setState {state : ThreadState} (hrunning : state ≠ .running)
    (hfresh : ¬ Fresh state) : Visited t (t.setState state) :=
  ⟨Rests.of_settled hrunning hfresh, id, rfl⟩

theorem visited_makeReady (t : Thread) : Visited t (makeReady t) := by
  unfold makeReady
  split
  · exact visited_setState (by decide) not_fresh_ready
  · exact Visited.refl t

theorem visited_makeBlocked (t : Thread) : Visited t (makeBlocked t) := by
  unfold makeBlocked
  split
  · exact visited_setState (by decide) (by rintro (h | h) <;> cases h)
  · exact Visited.refl t

theorem visited_wakeIfDue (jiffies : UInt64) (t : Thread) : Visited t (wakeIfDue jiffies t) := by
  have halarm : Visited t (checkAlarm jiffies t) := ⟨Rests.of_eq rfl, id, rfl⟩
  unfold wakeIfDue
  split
  · split
    · exact halarm.trans (visited_makeReady _)
    · exact halarm
  · exact Visited.refl t

theorem visited_visitThread (jiffies : UInt64) (t : Thread) :
    Visited t (visitThread jiffies t) := by
  have hwake := visited_wakeIfDue jiffies t
  unfold visitThread
  split
  · split
    · exact (visited_makeReady t).trans ⟨Rests.of_eq rfl, id, rfl⟩
    · exact ⟨Rests.of_eq rfl, id, rfl⟩
  split
  · exact (visited_makeBlocked t).trans ⟨Rests.of_eq rfl, id, rfl⟩
  split
  · exact visited_setState (by decide) (by rintro (h | h) <;> cases h)
  split
  · refine hwake.trans ⟨Rests.of_eq rfl, ?_, rfl⟩
    rintro ⟨hused, _⟩
    cases hused
  split
  · exact hwake.trans ⟨Rests.of_eq rfl, id, rfl⟩
  · exact hwake

def Waits (t : Thread) : Prop :=
  t.Valid ∧ t.state = .ready ∧ t.msgctl.hasEventFromDs = false

instance (t : Thread) : Decidable (Waits t) :=
  inferInstanceAs (Decidable (_ ∧ _ ∧ _))

theorem selected_of_waits {jiffies : UInt64} (h : Waits t)
    (hready : (visitThread jiffies t).state = .ready) : Selected jiffies t := by
  obtain ⟨hvalid, hstate, hevent⟩ := h
  unfold visitThread at hready
  rw [if_neg (by rw [hevent]; simp)] at hready
  split at hready
  · rw [makeBlocked, if_pos hvalid] at hready
    cases hready
  rename_i hblock
  split at hready
  · cases hready
  rename_i hexit
  simp only [hvalid.2, true_and, Bool.not_eq_true] at hblock hexit
  exact ⟨hvalid, hevent, hblock, hexit, .inl hstate⟩

/-- The list of the round from the thread on that was dispatched last. -/
structure Queue (s : KernelState) (round : List Nat) : Prop where
  follows : LinkedList.Follows (nextOf s) s.currentq round
  sorted : round.Pairwise (· < ·)
  members : ∀ i ∈ round, ∃ t, s.threads.threadList i = some t ∧ ¬ Fresh t.state

def ReadyAt (s : KernelState) (i : Nat) : Prop :=
  ∃ t, s.threads.threadList i = some t ∧ t.state = .ready

def WaitsAt (s : KernelState) (i : Nat) : Prop :=
  ∃ t, s.threads.threadList i = some t ∧ Waits t

instance (s : KernelState) (i : Nat) : Decidable (WaitsAt s i) :=
  decidable_of_iff (∃ t ∈ s.threads.threadList i, Waits t) Iff.rfl

/-- What a pass of the round robin does: it builds a list with every thread that waits. -/
structure RoundBuilt (s u : KernelState) (rest : List Nat) : Prop where
  controls : SameControls s u
  threads : Each Visited s u
  queue : Queue u (0 :: rest)
  ready : ∀ i ∈ 0 :: rest, ReadyAt u i
  waiting : ∀ k, WaitsAt s k → ReadyAt u k → k ∈ 0 :: rest

theorem endRound_each {R : Thread → Thread → Prop} {r : Round}
    (h : RoundInv s 0 slots r)
    (hidle : ∀ t next quantum, R t (setNext next (setQuantum quantum t)))
    (hvisit : ∀ t next quantum, R t (setNext next (setQuantum quantum (visitThread s.jiffies t)))) :
    Each R s (endRound r) := by
  intro i
  cases ht : s.threads.threadList i with
  | none =>
      have hend := (endRound_passStep r).threads i
      rw [h.absent i ht] at hend
      generalize (endRound r).threads.threadList i = o at hend
      cases hend
      exact .none
  | some t =>
      have hmem : i = 0 ∨ i ∈ slots := by
        rcases eq_or_ne i 0 with rfl | hne
        · exact .inl rfl
        · exact .inr ((mem_slots ht).mpr hne)
      obtain ⟨next, quantum, hend⟩ := endRound_visited h ht hmem
      rw [hend]
      constructor
      split
      · exact hidle t next quantum
      · exact hvisit t next quantum

theorem beginRound_each (ht : s.threads.threadList 0 = some t) (hvalid : t.Valid) :
    Each Visited s (beginRound s 0 t).kernel := by
  have htid : t.tid = 0 := s.threads.tid_eq 0 t ht
  intro i
  rcases eq_or_ne i 0 with rfl | hne
  · rw [beginRound_idle ht hvalid, ht]
    constructor
    have hstable : Visited t (stabilizeIdle t) := ⟨Rests.of_eq rfl, id, rfl⟩
    exact hstable.trans (visited_setState (by decide) not_fresh_ready)
  · rw [beginRound_thread s t htid hne]
    cases s.threads.threadList i with
    | none => exact .none
    | some t => exact .some (Visited.refl t)

theorem schedulerRr_built (h : schedulerRr s = .ok (tid, u)) :
    tid = 0 ∧ ∃ rest, RoundBuilt s u rest := by
  obtain ⟨t, r, ht, hvalid, hsched, hr⟩ := schedulerRr_visits (roundRobinReady_of_ok h)
  rw [hsched] at h
  cases h
  have htid : t.tid = 0 := s.threads.tid_eq 0 t ht
  have hidle := beginRound_idle ht hvalid
  have hbegin := beginRound_each ht hvalid
  have hsame := fun j => beginRound_thread s t htid (j := j)
  have hjiffies : (beginRound s 0 t).kernel.jiffies = s.jiffies := rfl
  have hcontrols : SameControls s (beginRound s 0 t).kernel := ⟨rfl, rfl, rfl, rfl, rfl, rfl⟩
  have hbeginq : (beginRound s 0 t).kernel.currentq = some 0 := rfl
  generalize (beginRound s 0 t).kernel = b at *
  have hqueue : (endRound r).currentq = some 0 := by
    obtain ⟨_, _, _, heq⟩ := hr.frame
    rw [endRound_currentq, heq]
    exact hbeginq
  have hready : ∀ i ∈ 0 :: slots.filter (chosen b), ReadyAt (endRound r) i := by
    intro i hi
    obtain ⟨th, next, hth, hrth⟩ := hr.thread ⟨_, hidle⟩ hi
    obtain ⟨quantum, hend⟩ := endRound_thread hrth
    refine ⟨_, hend, ?_⟩
    rcases List.mem_cons.mp hi with rfl | hi
    · rw [hidle] at hth
      cases hth
      rfl
    · have hne : i ≠ 0 := by
        rintro rfl
        exact zero_not_mem_slots (List.mem_of_mem_filter hi)
      have hselected := List.of_mem_filter hi
      rw [chosen_eq hth, decide_eq_true_eq] at hselected
      rw [if_neg hne]
      exact (visitThread_selected hselected).2
  refine ⟨rfl, slots.filter (chosen b), ?_, ?_, ⟨?_, ?_, ?_⟩, hready, ?_⟩
  · exact (hcontrols.trans (sameControls_of_frame hr.frame)).trans (endRound_passStep r).controls
  · apply hbegin.trans fun _ _ _ hab hbc => hab.trans hbc
    apply endRound_each hr
    · exact fun _ _ _ => ⟨Rests.of_eq rfl, id, rfl⟩
    · exact fun t _ _ => (visited_visitThread b.jiffies t).trans ⟨Rests.of_eq rfl, id, rfl⟩
  · rw [hqueue]
    exact endRound_follows hr ⟨_, hidle⟩ slots_nodup
  · rw [List.pairwise_cons]
    refine ⟨?_, List.Pairwise.sublist List.filter_sublist List.pairwise_lt_range'⟩
    intro i hi
    have := List.mem_range'_1.mp (List.mem_of_mem_filter hi)
    omega
  · intro i hi
    obtain ⟨th, hth, hstate⟩ := hready i hi
    refine ⟨th, hth, ?_⟩
    rw [hstate]
    exact not_fresh_ready
  · rintro k ⟨th, hth, hwaits⟩ ⟨th', hth', hstate⟩
    rcases eq_or_ne k 0 with rfl | hne
    · exact List.mem_cons_self
    have hslot := (mem_slots hth).mpr hne
    have hbth := (hsame k hne).trans hth
    obtain ⟨next, quantum, hend⟩ := endRound_visited hr hbth (.inr hslot)
    rw [if_neg hne] at hend
    have hstate' : (visitThread b.jiffies th).state = .ready := by
      cases hend.symm.trans hth'
      exact hstate
    apply List.mem_cons_of_mem
    rw [List.mem_filter, chosen_eq hbth, decide_eq_true_eq]
    exact ⟨hslot, selected_of_waits hwaits hstate'⟩

theorem psScheduler_built (hpolicy : s.scheduler.policy = .rr)
    (hlocked : s.scheduler.isLocked = false) (h : psScheduler s = .ok (tid, u)) :
    tid = 0 ∧ ∃ rest, RoundBuilt s u rest := by
  unfold psScheduler at h
  rw [if_neg (by rw [hlocked]; decide)] at h
  split at h
  · cases h
  unfold scheduler at h
  split at h
  · cases h
  dsimp only at h
  rw [hpolicy] at h
  dsimp only at h
  split at h
  · cases h
  split at h
  · cases h
  split at h
  · cases h
  rename_i first v hfirst
  obtain ⟨rfl, rfl⟩ := checkFirst_ok h
  obtain ⟨htid, rest, hbuilt⟩ := schedulerRr_built hfirst
  have hcontrols := hbuilt.controls
  refine ⟨htid, rest, ⟨?_, hbuilt.threads, ?_, hbuilt.ready, hbuilt.waiting⟩⟩
  · exact ⟨hcontrols.responder, hcontrols.responderThread, hcontrols.locked,
      hcontrols.policy, hcontrols.initThread, hcontrols.jiffies⟩
  · exact ⟨hbuilt.queue.follows, hbuilt.queue.sorted, hbuilt.queue.members⟩

/-- The thread `i` of the kernel `s` was `READY` when the dispatcher got it, which ran it and
touched no other. -/
structure Dispatches (s : KernelState) (i : Nat) (u : KernelState) : Prop where
  handed : ∃ v w t, dispatcher v = .ok (i, w) ∧ v.threads.threadList i = some t ∧ t.Valid ∧
    t.state = .ready ∧ u.threads = w.threads
  threads : ∀ j, u.threads.threadList j =
    if j = i then (s.threads.threadList j).map fun t => runThread (clampMax t)
    else s.threads.threadList j
  currentq : u.currentq = s.currentq
  currentThread : u.currentThread = i

theorem dispatchCurrent_ready (hi : s.currentThread = i) (hready : ReadyAt s i)
    (h : dispatchCurrent s = .ok (out, u)) :
    out = .dispatched i ∧ Dispatches s i u := by
  obtain ⟨t', ht', hstate⟩ := hready
  unfold dispatchCurrent at h
  split at h
  · cases h
  split at h
  · cases h
  rename_i t ht
  split at h
  · cases h
  rename_i hvalid
  rw [hi, Int.toNat_natCast] at ht
  rw [ht] at ht'
  cases ht'
  split at h
  · cases h
  rename_i target v htarget
  obtain ⟨_, rfl, rfl⟩ | ⟨hnot, _⟩ := dispatchTarget_ok htarget
  · rw [hi, Int.toNat_natCast] at h
    split at h
    · cases h
    split at h
    · cases h
    rename_i j w hdispatch
    obtain ⟨hj, t'', ht'', hready, hw⟩ := dispatcher_ok hdispatch
    have hji : j = i := by
      rw [hj]
      exact (congrArg Int.toNat hi).trans (Int.toNat_natCast i)
    subst hji
    split at h
    · cases h
    rename_i x hprocess
    cases h
    obtain ⟨pid, rfl⟩ := selectProcess_ok hprocess
    have hclamp := threadList_modify s.threads j clampMax (fun _ => rfl)
    have hrun := threadList_modify (s.threads.modify j clampMax fun _ => rfl) j runThread
      (fun _ => rfl)
    have hvalid' : t''.Valid := by
      have hlist := (hclamp j).symm.trans ht''
      rw [if_pos rfl, ht] at hlist
      cases hlist
      exact not_not.mp hvalid
    refine ⟨rfl, ⟨⟨_, w, t'', hdispatch, ht'', hvalid', hready, rfl⟩, ?_, ?_, ?_⟩⟩
    · intro k
      rw [hw]
      refine (hrun k).trans ?_
      split
      · rename_i heq
        rw [hclamp, if_pos rfl, heq, Option.map_map]
        rfl
      · rename_i hne
        rw [hclamp, if_neg hne]
    · rw [hw]
      rfl
    · rw [hw]
      exact hi
  · exact absurd hstate hnot

def NextStale (s : KernelState) : Prop :=
  ∃ i, s.currentq.bind (nextOf s) = some i ∧
    ∀ t, s.threads.threadList i = some t → t.Valid → t.state ≠ .ready

/-- What a selection does that starts with the list `round` of the current round: some thread
heads the list afterwards, and runs. Unless the next thread of the round is stale, it is the
next one, or the init thread with a new round. -/
def Rotates (s : KernelState) (round : List Nat) (out : Switched) (u : KernelState) : Prop :=
  ∃ i v rest, out = .dispatched i ∧ Each Visited s v ∧ Queue v (i :: rest) ∧
    Dispatches v i u ∧
    (¬ NextStale s → Turn 0 round (some i) (i :: rest) ∧
      (i = 0 → ∀ k, WaitsAt s k → ReadyAt v k → k ∈ i :: rest))

theorem Queue.head (h : Queue s round) (hq : s.currentq = some q) :
    ∃ rest, round = q :: rest ∧ LinkedList.Follows (nextOf s) (nextOf s q) rest := by
  have hfollows := h.follows
  rw [hq] at hfollows
  cases hfollows with
  | cons _ rest hrest => exact ⟨rest, rfl, hrest⟩

theorem Queue.next (h : Queue s round) (hq : s.currentq = some q) (hi : nextOf s q = some i) :
    ∃ rest, round = q :: i :: rest ∧ Queue { s with currentq := some i } (i :: rest) := by
  obtain ⟨rest, rfl, hfollows⟩ := h.head hq
  rw [hi] at hfollows
  cases hfollows with
  | cons _ rest hrest =>
      refine ⟨rest, rfl, .cons i rest hrest, (List.pairwise_cons.mp h.sorted).2, ?_⟩
      exact fun j hj => h.members j (List.mem_cons_of_mem q hj)

theorem psScheduler_queue (hpolicy : s.scheduler.policy = .rr) (hqueue : Queue s round)
    (h : psScheduler s = .ok (tid, v)) :
    SameControls s v ∧ Each Visited s v ∧ ∃ round', Queue v round' := by
  cases hlocked : s.scheduler.isLocked with
  | true =>
      obtain ⟨rfl, rfl⟩ := psScheduler_locked hlocked h
      exact ⟨SameControls.refl _, Each.of_eq Visited.refl rfl, round, hqueue⟩
  | false =>
      obtain ⟨_, rest, hbuilt⟩ := psScheduler_built hpolicy hlocked h
      exact ⟨hbuilt.controls, hbuilt.threads, 0 :: rest, hbuilt.queue⟩

theorem endOfRound_rotates (hpolicy : s.scheduler.policy = .rr) (hqueue : Queue s round)
    (hq : s.currentq = some q) (hend : nextOf s q = none) (hsched : psScheduler s = .ok (tid, v))
    (h : dispatchCurrent { v with currentThread := tid } = .ok (out, u)) :
    Rotates s round out u := by
  cases hlocked : s.scheduler.isLocked with
  | true =>
      obtain ⟨rfl, rfl⟩ := psScheduler_locked hlocked hsched
      have hnonneg : (0 : Int) ≤ -1 := dispatchCurrent_nonneg h
      exact absurd hnonneg (by decide)
  | false =>
      obtain ⟨rfl, rest, hbuilt⟩ := psScheduler_built hpolicy hlocked hsched
      obtain ⟨rest', rfl, hfollows⟩ := hqueue.head hq
      rw [hend] at hfollows
      cases hfollows
      have hready : ReadyAt { v with currentThread := 0 } 0 := hbuilt.ready 0 List.mem_cons_self
      obtain ⟨rfl, hdispatches⟩ := dispatchCurrent_ready rfl hready h
      refine ⟨0, { v with currentThread := 0 }, rest, rfl, hbuilt.threads, ?_, hdispatches, ?_⟩
      · exact ⟨hbuilt.queue.follows, hbuilt.queue.sorted, hbuilt.queue.members⟩
      · exact fun _ => ⟨.begin q rest, fun _ => hbuilt.waiting⟩

theorem nextReady_rotates (hqueue : Queue s round) (hq : s.currentq = some q)
    (hi : nextOf s q = some i) (hready : ReadyAt s i)
    (h : dispatchCurrent { s with currentq := some i, currentThread := i } = .ok (out, u)) :
    Rotates s round out u := by
  obtain ⟨rest, rfl, hnext⟩ := hqueue.next hq hi
  obtain ⟨rfl, hdispatches⟩ := dispatchCurrent_ready
    (s := { s with currentq := some i, currentThread := i }) rfl hready h
  refine ⟨i, { s with currentq := some i, currentThread := i }, rest, rfl,
    Each.of_eq Visited.refl rfl, ?_, hdispatches, ?_⟩
  · exact ⟨hnext.follows, hnext.sorted, hnext.members⟩
  · refine fun _ => ⟨.next q i rest, ?_⟩
    rintro rfl
    have hlt := (List.pairwise_cons.mp hqueue.sorted).1 0 List.mem_cons_self
    exact absurd hlt (Nat.not_lt_zero q)

theorem zeroGravity_rotates (hpolicy : s.scheduler.policy = .rr) (hnone : pendingResponder s = none)
    (hqueue : Queue s round) (h : zeroGravity fuel s = .ok (out, u)) : Rotates s round out u := by
  induction fuel generalizing s round with
  | zero => cases h
  | succ fuel ih =>
      cases zeroGravity_turn h with
      | responder i hi _ =>
          rw [hnone] at hi
          cases hi
      | next q i t _ hq hi ht _ hready h =>
          exact nextReady_rotates hqueue hq hi ⟨t, ht, hready⟩ h
      | endOfQueue q tid v _ hq hnext hsched h =>
          exact endOfRound_rotates hpolicy hqueue hq hnext hsched h
      | again q i tid v _ hq hi hnot hsched h =>
          have hstale : NextStale s := by
            refine ⟨i, ?_, fun t ht hvalid hready => hnot t ht ⟨hvalid, hready⟩⟩
            rw [hq]
            exact hi
          -- The rest of the round is given up, so that nothing is known of the new one.
          obtain ⟨rest, _, hnext⟩ := hqueue.next hq hi
          obtain ⟨hcontrols, hthreads, round', hqueue'⟩ :=
            psScheduler_queue (s := { s with currentq := some i }) hpolicy hnext hsched
          have hnone' : pendingResponder v = none := by
            apply pendingResponder_none hcontrols _ hnone
            exact hthreads.mono fun _ _ hvisited => ⟨hvisited.valid, hvisited.pending⟩
          have hqueue'' : Queue { v with currentThread := tid } round' :=
            ⟨hqueue'.follows, hqueue'.sorted, hqueue'.members⟩
          obtain ⟨j, x, rest', hout, hvisited, hrest⟩ :=
            ih (s := { v with currentThread := tid }) (hcontrols.policy.trans hpolicy)
              hnone' hqueue'' h
          refine ⟨j, x, rest', hout, ?_, hrest.1, hrest.2.1, fun hnot => absurd hstale hnot⟩
          exact hthreads.trans (fun _ _ _ hab hbc => hab.trans hbc) hvisited

/-- A change that leaves the links, and neither starts a thread nor undoes its start. -/
def Calm (t t' : Thread) : Prop :=
  Rests t t' ∧ t'.next = t.next

theorem Calm.refl (t : Thread) : Calm t t := ⟨Rests.refl t, rfl⟩

theorem Calm.trans {u v : Thread} (htu : Calm t u) (huv : Calm u v) : Calm t v :=
  ⟨htu.1.trans huv.1, huv.2.trans htu.2⟩

/-- A change of the kernel that leaves the round as it is. -/
structure Steady (s u : KernelState) : Prop where
  currentThread : u.currentThread = s.currentThread
  currentq : u.currentq = s.currentq
  threads : Each Calm s u

theorem Steady.trans {t : KernelState} (hst : Steady s t) (htu : Steady t u) : Steady s u where
  currentThread := htu.currentThread.trans hst.currentThread
  currentq := htu.currentq.trans hst.currentq
  threads := hst.threads.trans (fun _ _ _ hab hbc => hab.trans hbc) htu.threads

theorem steady_modify {f : Thread → Thread} {hf : ∀ t, (f t).tid = t.tid} (h : ∀ t, Calm t (f t)) :
    Steady s (s.modify i f hf) :=
  ⟨rfl, rfl, Each.modify Calm.refl s i f hf fun t _ => h t⟩

theorem calm_yieldQuantum (t : Thread) : Calm t (yieldQuantum t) := by
  unfold yieldQuantum
  split <;> exact ⟨Rests.of_eq rfl, rfl⟩

theorem calm_callBack (t : Thread) : Calm t (callBack t) := by
  unfold callBack
  split <;> exact ⟨Rests.of_eq rfl, rfl⟩

theorem sleepThread_steady (s : KernelState) (i : Nat) (htid : t.tid = i) :
    Steady s (sleepThread s i t) := by
  unfold sleepThread
  split
  · have hexhaust : Steady s (s.modify i exhaustQuantum fun _ => rfl) :=
      steady_modify fun _ => ⟨Rests.of_eq rfl, rfl⟩
    have hwait : ∀ v : KernelState, Steady v { v with
        threads := doThreadWaiting v.threads v.jiffies i t.deferred.desiredSleepMs } := by
      intro v
      refine ⟨rfl, rfl, Each.modifyTid Calm.refl v i _ _ ?_⟩
      intro t' _
      split
      · refine ⟨Rests.of_settled ?_ ?_, rfl⟩
        · intro h
          cases h
        · rintro (h | h) <;> cases h
      · exact Calm.refl t'
    dsimp only
    rw [htid]
    exact (hexhaust.trans (hwait _)).trans (steady_modify fun _ => ⟨Rests.of_eq rfl, rfl⟩)
  · exact ⟨rfl, rfl, Each.of_eq Calm.refl rfl⟩

theorem stayInQuantum_steady (s : KernelState) (i : Nat) (htid : t.tid = i) :
    Steady s (stayInQuantum s i t) := by
  have hyield : Steady s (s.modify i yieldQuantum fun t => by
      unfold yieldQuantum
      split <;> rfl) := steady_modify calm_yieldQuantum
  exact hyield.trans (sleepThread_steady _ i htid)

theorem countTick_steady (s : KernelState) (tgid : Int) (i : Nat) :
    Steady s ({ s with currentProcess := tgid }.modify i countTick fun _ => rfl) := by
  refine ⟨rfl, rfl, ?_⟩
  exact Each.modify Calm.refl { s with currentProcess := tgid } i countTick (fun _ => rfl)
    fun _ _ => ⟨Rests.of_eq rfl, rfl⟩

theorem tickedKernel_steady (s : KernelState) (tgid : Int) (i : Nat) :
    Steady s (tickedKernel s tgid i) :=
  (countTick_steady s tgid i).trans (steady_modify fun _ => ⟨Rests.of_eq rfl, rfl⟩)

theorem Queue.steady (h : Queue s round) (hsteady : Steady s u) : Queue u round := by
  have hnext : nextOf u = nextOf s := nextOf_eq (hsteady.threads.mono fun _ _ hcalm => hcalm.2)
  refine ⟨?_, h.sorted, ?_⟩
  · rw [hnext, hsteady.currentq]
    exact h.follows
  · intro i hi
    obtain ⟨t, ht, hfresh⟩ := h.members i hi
    obtain ⟨t', ht', hrests, _⟩ := hsteady.threads.of_some ht
    exact ⟨t', ht', fun hfresh' => hfresh (hrests.2 hfresh')⟩

/-- The list of the round from the thread on that was dispatched last, as the links give it. -/
def roundOf (s : KernelState) : List Nat :=
  LinkedList.chain (nextOf s) THREAD_COUNT_MAX s.currentq

theorem Queue.roundOf_eq (h : Queue s round) : roundOf s = round := by
  apply h.follows.chain_eq
  have hnodup : round.Nodup := h.sorted.imp Nat.ne_of_lt
  have hsubset : round ⊆ List.range THREAD_COUNT_MAX := by
    intro i hi
    obtain ⟨t, ht, _⟩ := h.members i hi
    exact List.mem_range.mpr (s.threads.lt_max i t ht)
  have hlength := (hnodup.subperm hsubset).length_le
  rwa [List.length_range] at hlength

/-- A kernel that goes through a round, with no thread running but the current one. -/
structure Rotating (s : KernelState) : Prop where
  queue : Queue s (roundOf s)
  running : ∀ i t, s.threads.threadList i = some t → t.state = .running →
    (i : Int) = s.currentThread

theorem rotating_of_queue (h : Queue s round)
    (hrunning : ∀ i t, s.threads.threadList i = some t → t.state = .running →
      (i : Int) = s.currentThread) : Rotating s := by
  refine ⟨?_, hrunning⟩
  rw [h.roundOf_eq]
  exact h

theorem Rotating.steady (h : Rotating s) (hsteady : Steady s u) :
    Rotating u ∧ roundOf u = roundOf s := by
  have hqueue := h.queue.steady hsteady
  refine ⟨rotating_of_queue hqueue ?_, hqueue.roundOf_eq⟩
  intro i t' ht' hrun
  obtain ⟨t, ht, hrests, _⟩ := hsteady.threads.to_some ht'
  rw [hsteady.currentThread]
  exact h.running i t ht (hrests.1 hrun)

/-- The thread that comes next in the round is not ready to run once the current one has been
preempted. -/
def Stale (s : KernelState) : Prop :=
  ∃ i, s.currentq.bind (nextOf s) = some i ∧
    ∀ t, s.threads.threadList i = some t → t.Valid → ¬ Runnable s t

instance (s : KernelState) : Decidable (Stale s) :=
  decidable_of_iff (∃ i ∈ s.currentq.bind (nextOf s),
    ∀ t ∈ s.threads.threadList i, t.Valid → ¬ Runnable s t) Iff.rfl

theorem stale_of_nextStale (h : AfterTick s v) (hstale : NextStale v) : Stale s := by
  obtain ⟨i, hi, hnot⟩ := hstale
  rw [h.links, h.currentq] at hi
  refine ⟨i, hi, ?_⟩
  intro t ht hvalid hrunnable
  obtain ⟨t', ht', hticked⟩ := h.threads.of_some ht
  exact hnot t' ht' (hticked.valid.mpr hvalid) (hticked.ready.mpr hrunnable)

theorem waitsAt_of_afterTick (h : AfterTick s v) (hk : WaitsAt s k) : WaitsAt v k := by
  obtain ⟨t, ht, hvalid, hready, hevent⟩ := hk
  obtain ⟨t', ht', hticked⟩ := h.threads.of_some ht
  refine ⟨t', ht', hticked.valid.mpr hvalid, hticked.ready.mpr (.inl hready), ?_⟩
  rw [hticked.msgctl]
  exact hevent

theorem Queue.ticked (h : Queue s round) (hafter : AfterTick s v) : Queue v round := by
  refine ⟨?_, h.sorted, ?_⟩
  · rw [hafter.links, hafter.currentq]
    exact h.follows
  · intro i hi
    obtain ⟨t, ht, hfresh⟩ := h.members i hi
    obtain ⟨t', ht', hticked⟩ := hafter.threads.of_some ht
    refine ⟨t', ht', ?_⟩
    rcases hticked.state with hsame | ⟨_, hready⟩
    · rw [hsame]
      exact hfresh
    · rw [hready]
      exact not_fresh_ready

theorem Rotating.ticked (h : Rotating s) (hafter : AfterTick s v)
    (ht' : v.threads.threadList i = some t') : t'.state ≠ .running := by
  intro hrunning
  obtain ⟨t, ht, hticked⟩ := hafter.threads.to_some ht'
  rcases hticked.state with hsame | ⟨_, hready⟩
  · have hrun := hsame.symm.trans hrunning
    have hcurrent := h.running i t ht hrun
    have htid := s.threads.tid_eq i t ht
    have hready := hticked.ready.mpr (.inr ⟨hrun, htid.trans hcurrent⟩)
    exact absurd (hready.symm.trans hrunning) (by decide)
  · exact absurd (hready.symm.trans hrunning) (by decide)

def RunsAlone (s : KernelState) (i : Nat) : Prop :=
  (∃ t, s.threads.threadList i = some t ∧ t.state = .running) ∧
    ∀ j t, s.threads.threadList j = some t → t.state = .running → j = i

/-- The thread at the place `i` was `READY` when the dispatcher got it. -/
def DispatchedReady (u : KernelState) (i : Nat) : Prop :=
  ∃ v w t, dispatcher v = .ok (i, w) ∧ v.threads.threadList i = some t ∧ t.Valid ∧
    t.state = .ready ∧ Each SameState w u

inductive Outcome (s : KernelState) : Switched → KernelState → Prop where
  | same (u : KernelState) (hround : roundOf u = roundOf s) : Outcome s .same u
  | spawned (i : Nat) (u : KernelState) (hround : roundOf u = roundOf s)
      (hnot : i ∉ roundOf u) (halone : RunsAlone u i) : Outcome s (.spawned i) u
  | dispatched (i : Nat) (u : KernelState) (rest : List Nat) (hround : roundOf u = i :: rest)
      (hready : DispatchedReady u i) (halone : RunsAlone u i)
      (hturn : ¬ Stale s → Turn 0 (roundOf s) (some i) (i :: rest))
      (hbegin : ¬ Stale s → i = 0 → ∀ k, WaitsAt s k → ReadyAt u k → k ∈ i :: rest) :
      Outcome s (.dispatched i) u

theorem RunsAlone.sameState (h : RunsAlone s i) (hsame : Each SameState s u) : RunsAlone u i := by
  obtain ⟨⟨t, ht, hrunning⟩, honly⟩ := h
  constructor
  · obtain ⟨t', ht', hstate, _⟩ := hsame.of_some ht
    exact ⟨t', ht', hstate.trans hrunning⟩
  · intro j t' ht' hrunning'
    obtain ⟨t, ht, hstate, _⟩ := hsame.to_some ht'
    exact honly j t ht (hstate.symm.trans hrunning')

theorem ReadyAt.of_sameState (hsame : Each SameState s u) (h : ReadyAt u k) : ReadyAt s k := by
  obtain ⟨t', ht', hready⟩ := h
  obtain ⟨t, ht, hstate, _⟩ := hsame.to_some ht'
  exact ⟨t, ht, hstate.symm.trans hready⟩

theorem Outcome.callBack (h : Outcome s out u) (hu : Rotating u) (hsteady : Steady u v)
    (hsame : Each SameState u v) :
    Outcome s out v := by
  have hkeep := (hu.steady hsteady).2
  cases h with
  | same _ hround => exact .same v (hkeep.trans hround)
  | spawned i _ hround hnot halone =>
      exact .spawned i v (hkeep.trans hround) (by rwa [hkeep]) (halone.sameState hsame)
  | dispatched i _ rest hround hready halone hturn hbegin =>
      obtain ⟨w, x, t, hdispatch, ht, hvalid, hstate, hwu⟩ := hready
      refine .dispatched i v rest (hkeep.trans hround) ?_ (halone.sameState hsame) hturn ?_
      · exact ⟨w, x, t, hdispatch, ht, hvalid, hstate, sameState_trans hwu hsame⟩
      · exact fun hnot hi k hk hready => hbegin hnot hi k hk (hready.of_sameState hsame)

theorem Dispatches.calm {j : Nat} (h : Dispatches s i u) (ht : s.threads.threadList j = some t) :
    ∃ t', u.threads.threadList j = some t' ∧ t'.next = t.next ∧
      (j ≠ i → t'.state = t.state) ∧ (j = i → t'.state = .running) := by
  have hj := h.threads j
  split at hj
  · rename_i heq
    rw [ht] at hj
    exact ⟨_, hj, rfl, fun hne => absurd heq hne, fun _ => rfl⟩
  · rename_i hne
    exact ⟨t, hj.trans ht, rfl, fun _ => rfl, fun heq => absurd heq hne⟩

theorem Dispatches.queue (h : Dispatches s i u) (hqueue : Queue s round) : Queue u round := by
  have hnext : nextOf u = nextOf s := by
    apply nextOf_eq
    apply Each.of_map (R := fun t t' => t'.next = t.next) (fun _ => rfl) (i := i)
      (f := fun t => runThread (clampMax t))
    · intro j
      rw [h.threads j]
      split
      · rename_i heq
        rw [heq]
      · rfl
    · exact fun _ _ => rfl
  refine ⟨?_, hqueue.sorted, ?_⟩
  · rw [hnext, h.currentq]
    exact hqueue.follows
  · intro j hj
    obtain ⟨t, ht, hfresh⟩ := hqueue.members j hj
    obtain ⟨t', ht', _, hother, hself⟩ := h.calm ht
    refine ⟨t', ht', ?_⟩
    rcases eq_or_ne j i with heq | hne
    · rw [hself heq]
      exact not_fresh_running
    · rw [hother hne]
      exact hfresh

theorem Dispatches.alone (h : Dispatches s i u) (hexists : ∃ t, s.threads.threadList i = some t)
    (hnone : ∀ j t, s.threads.threadList j = some t → t.state ≠ .running) : RunsAlone u i := by
  constructor
  · obtain ⟨t, ht⟩ := hexists
    obtain ⟨t', ht', _, _, hself⟩ := h.calm ht
    exact ⟨t', ht', hself rfl⟩
  · intro j t' ht' hrunning
    by_contra hne
    have hj := h.threads j
    rw [if_neg hne] at hj
    exact hnone j t' (hj.symm.trans ht') hrunning

theorem Rotates.outcome (hs : Rotating s) (hafter : AfterTick s v)
    (h : Rotates v (roundOf s) out u) :
    Rotating u ∧ Outcome s out u := by
  obtain ⟨i, w, rest, rfl, hvisited, hqueue, hdispatches, hturn⟩ := h
  have hnone : ∀ j t, w.threads.threadList j = some t → t.state ≠ .running := by
    intro j t' ht' hrunning
    obtain ⟨t, ht, hsame⟩ := hvisited.to_some ht'
    exact hs.ticked hafter ht (hsame.rests.1 hrunning)
  have hexists : ∃ t, w.threads.threadList i = some t := by
    obtain ⟨t, ht, _⟩ := hqueue.members i List.mem_cons_self
    exact ⟨t, ht⟩
  have halone := hdispatches.alone hexists hnone
  have hround := hdispatches.queue hqueue
  have hreadyAt : ∀ k, ReadyAt u k → ReadyAt w k := by
    rintro k ⟨t, ht, hready⟩
    rcases eq_or_ne k i with rfl | hne
    · obtain ⟨⟨t', ht', hrunning⟩, _⟩ := halone
      rw [ht] at ht'
      cases ht'
      exact absurd (hready.symm.trans hrunning) (by decide)
    · have hk := hdispatches.threads k
      rw [if_neg hne] at hk
      exact ⟨t, hk.symm.trans ht, hready⟩
  constructor
  · apply rotating_of_queue hround
    intro j t ht hrunning
    rw [halone.2 j t ht hrunning, hdispatches.currentThread]
  · have hfresh : ¬ Stale s → ¬ NextStale v := fun hnot hstale =>
      hnot (stale_of_nextStale hafter hstale)
    obtain ⟨x, y, t, hdispatch, ht, hvalid, hready, hthreads⟩ := hdispatches.handed
    refine .dispatched i u rest hround.roundOf_eq ?_ halone ?_ ?_
    · refine ⟨x, y, t, hdispatch, ht, hvalid, hready, ?_⟩
      exact Each.of_eq SameState.refl hthreads
    · exact fun hnot => (hturn (hfresh hnot)).1
    · intro hnot hi k hk hready'
      exact (hturn (hfresh hnot)).2 hi k (waitsAt_of_afterTick hafter hk) (hreadyAt k hready')

theorem spawned_outcome (hs : Rotating s) (hafter : AfterTick s v) (hi : firstStandby v = some i)
    (ht : v.threads.threadList i = some t) :
    Rotating (spawnedKernel v i t) ∧ Outcome s (.spawned i) (spawnedKernel v i t) := by
  have hqueue := hs.queue.ticked hafter
  obtain ⟨t', ht', hstandby⟩ := firstStandby_some hi
  have hnot : i ∉ roundOf s := by
    intro hmem
    obtain ⟨t'', ht'', hfresh⟩ := hqueue.members i hmem
    rw [ht'] at ht''
    cases ht''
    exact hfresh (.inr hstandby)
  have hlist : ∀ j, (spawnedKernel v i t).threads.threadList j =
      if j = i then (v.threads.threadList i).map (startThread v.initThread)
      else v.threads.threadList j :=
    threadList_modify v.threads i (startThread v.initThread) fun _ => rfl
  have hother : ∀ j ∈ roundOf s,
      (spawnedKernel v i t).threads.threadList j = v.threads.threadList j := by
    intro j hj
    rw [hlist, if_neg]
    rintro rfl
    exact hnot hj
  have hround : Queue (spawnedKernel v i t) (roundOf s) := by
    refine ⟨hqueue.follows.congr ?_, hqueue.sorted, ?_⟩
    · intro j hj
      rw [nextOf, nextOf, hother j hj]
    · intro j hj
      rw [hother j hj]
      exact hqueue.members j hj
  have halone : RunsAlone (spawnedKernel v i t) i := by
    constructor
    · refine ⟨startThread v.initThread t, ?_, rfl⟩
      rw [hlist, if_pos rfl, ht]
      rfl
    · intro j u hu hrunning
      by_contra hne
      rw [hlist, if_neg hne] at hu
      exact hs.ticked hafter hu hrunning
  constructor
  · apply rotating_of_queue hround
    intro j u hu hrunning
    rw [halone.2 j u hu hrunning]
    exact (v.threads.tid_eq i t ht).symm
  · refine .spawned i _ hround.roundOf_eq ?_ halone
    rw [hround.roundOf_eq]
    exact hnot

theorem taskSwitch_outcome (hs : Rotating s) (hpolicy : s.scheduler.policy = .rr)
    (hnone : pendingResponder s = none) (h : taskSwitch fuel s = .ok (out, u)) :
    Rotating u ∧ Outcome s out u := by
  obtain ⟨hcurrent, t, ht, _, ⟨_, rfl, rfl⟩ | ⟨_, rfl, rfl⟩ | ⟨_, hend⟩⟩ := taskSwitch_cases h
  · obtain ⟨hu, hround⟩ := hs.steady (countTick_steady s t.tgid s.currentThread.toNat)
    exact ⟨hu, .same _ hround⟩
  · have htid := s.threads.tid_eq _ t ht
    obtain ⟨hu, hround⟩ := hs.steady ((tickedKernel_steady s t.tgid _).trans
      (stayInQuantum_steady _ _ htid))
    exact ⟨hu, .same _ hround⟩
  · have hafter := tickedKernel_afterTick (s := s) t.tgid hcurrent
    obtain ⟨_, hgravity⟩ | ⟨j, t', hstandby, ht', rfl, rfl⟩ := endOfQuantum_cases hend
    · apply Rotates.outcome hs hafter
      apply zeroGravity_rotates _ _ (hs.queue.ticked hafter) hgravity
      · exact hafter.controls.policy.trans hpolicy
      · rw [hafter.pendingResponder, hnone]
    · exact spawned_outcome hs hafter hstandby ht'

theorem tsTaskSwitch_outcome (hs : Rotating s) (hpolicy : s.scheduler.policy = .rr)
    (hnone : pendingResponder s = none) (h : tsTaskSwitch fuel s = .ok (out, u)) :
    Rotating u ∧ Outcome s out u := by
  obtain ⟨v, hswitch, rfl | rfl⟩ := tsTaskSwitch_cases h
  · exact taskSwitch_outcome hs hpolicy hnone hswitch
  · obtain ⟨hv, houtcome⟩ := taskSwitch_outcome hs hpolicy hnone hswitch
    have hsteady : Steady v (v.modify v.currentThread.toNat callBack callBack_tid) :=
      steady_modify calm_callBack
    exact ⟨(hv.steady hsteady).1,
      houtcome.callBack hv hsteady (sameState_modify callBack_sameState)⟩

theorem Outcome.not_mem (h : Outcome s out u) (hu : Rotating u)
    (hi : out = .dispatched i ∨ out = .spawned i) :
    i ∉ (roundOf u).tail := by
  cases h with
  | same _ _ => rcases hi with hi | hi <;> cases hi
  | spawned j _ _ hnot _ =>
      rcases hi with hi | hi <;> cases hi
      exact fun hmem => hnot (List.mem_of_mem_tail hmem)
  | dispatched j _ rest hround _ _ _ _ =>
      rcases hi with hi | hi <;> cases hi
      have hsorted := hu.queue.sorted
      rw [hround] at hsorted ⊢
      exact fun hmem => lt_irrefl i ((List.pairwise_cons.mp hsorted).1 i hmem)

theorem Outcome.ready (h : Outcome s out u) (hi : out = .dispatched i) : DispatchedReady u i := by
  cases h with
  | same _ _ => cases hi
  | spawned _ _ _ _ _ => cases hi
  | dispatched _ _ _ _ hready _ _ _ =>
      cases hi
      exact hready

theorem Outcome.alone (h : Outcome s out u) (hi : out = .dispatched i ∨ out = .spawned i) :
    RunsAlone u i := by
  cases h with
  | same _ _ => rcases hi with hi | hi <;> cases hi
  | spawned _ _ _ _ halone =>
      rcases hi with hi | hi <;> cases hi
      exact halone
  | dispatched _ _ _ _ _ halone _ _ =>
      rcases hi with hi | hi <;> cases hi
      exact halone

end Gramado.Ke.Rotation
