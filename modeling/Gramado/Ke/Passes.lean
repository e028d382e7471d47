import Gramado.Ke.Doomed
import Gramado.Ke.TaskSwitch

/-! What a pass of the scheduler does, under either policy, to the threads that have ended or
want to exit. -/

namespace Gramado.Ke.Passes

open Ke.Table Ke.RoundRobin Ke.Stages Ke.Doomed

/-- What a pass leaves of that on which the next selections depend. -/
structure SameControls (s u : KernelState) : Prop where
  responder : u.useEventResponder = s.useEventResponder
  responderThread : u.evResponderThread = s.evResponderThread
  locked : u.scheduler.isLocked = s.scheduler.isLocked
  policy : u.scheduler.policy = s.scheduler.policy
  initThread : u.initThread = s.initThread
  jiffies : u.jiffies = s.jiffies

theorem SameControls.refl (s : KernelState) : SameControls s s := ⟨rfl, rfl, rfl, rfl, rfl, rfl⟩

variable {s u : KernelState} {t : Thread} {r : Round} {tid : Int} {i : Nat} {jiffies : UInt64}
  {q : StageQueue}

theorem SameControls.trans {t : KernelState} (hst : SameControls s t) (htu : SameControls t u) :
    SameControls s u where
  responder := htu.responder.trans hst.responder
  responderThread := htu.responderThread.trans hst.responderThread
  locked := htu.locked.trans hst.locked
  policy := htu.policy.trans hst.policy
  initThread := htu.initThread.trans hst.initThread
  jiffies := htu.jiffies.trans hst.jiffies

theorem sameControls_modify (s : KernelState) (i : Nat) (f : Thread → Thread)
    (hf : ∀ t, (f t).tid = t.tid) : SameControls s (s.modify i f hf) :=
  ⟨rfl, rfl, rfl, rfl, rfl, rfl⟩

theorem sameControls_of_frame (h : Frame s u) : SameControls s u := by
  obtain ⟨_, _, _, rfl⟩ := h
  exact ⟨rfl, rfl, rfl, rfl, rfl, rfl⟩

structure PassStep (s u : KernelState) : Prop where
  controls : SameControls s u
  threads : Each Passed s u

theorem PassStep.refl (s : KernelState) : PassStep s s :=
  ⟨SameControls.refl s, Each.of_eq Passed.refl rfl⟩

theorem PassStep.trans {t : KernelState} (hst : PassStep s t) (htu : PassStep t u) : PassStep s u :=
  ⟨hst.controls.trans htu.controls,
    hst.threads.trans (fun _ _ _ hab hbc => hab.trans hbc) htu.threads⟩

theorem passStep_modify (s : KernelState) (i : Nat) (f : Thread → Thread)
    (hf : ∀ t, (f t).tid = t.tid)
    (hi : ∀ t, s.threads.threadList i = some t → Passed t (f t)) :
    PassStep s (s.modify i f hf) :=
  ⟨sameControls_modify s i f hf, Each.modify Passed.refl s i f hf hi⟩

theorem loadBalancer_passStep (s : KernelState) : PassStep s (loadBalancer s) := by
  unfold loadBalancer
  split
  · exact PassStep.refl s
  split
  · exact PassStep.refl s
  split
  · exact PassStep.refl s
  split
  · exact passStep_modify _ _ _ _ fun t _ => passed_setQuantum _ t
  · exact passStep_modify _ _ _ _ fun t _ => passed_setQuantum _ t

theorem endRound_passStep (r : Round) : PassStep r.kernel (endRound r) := by
  have hcounter : PassStep r.kernel { r.kernel with
      scheduler := { r.kernel.scheduler with rrReadyThreadsInRound := r.readyCounter } } :=
    ⟨⟨rfl, rfl, rfl, rfl, rfl, rfl⟩, Each.of_eq Passed.refl rfl⟩
  apply (hcounter.trans (loadBalancer_passStep _)).trans
  exact passStep_modify _ _ _ _ fun t _ => passed_setNext none t

/-- Condition for a round robin pass: it must not put back the idle thread, nor do what
`SafeRound` excludes to another one. -/
def SafeRr (s : KernelState) : Prop :=
  (∀ t, s.threads.threadList 0 = some t → IsDoomed t → t.state = .ready) ∧
    ∀ i t, i ≠ 0 → s.threads.threadList i = some t → SafeRound t

theorem passStep_doThreadReady (s : KernelState) (i : Nat)
    (hi : ∀ t, s.threads.threadList i = some t → t.Valid → IsDoomed t → t.state = .ready) :
    PassStep s { s with threads := doThreadReady s.threads i } :=
  ⟨⟨rfl, rfl, rfl, rfl, rfl, rfl⟩, Each.modifyTid Passed.refl s i (Thread.setState .ready) _
    fun t ht => passed_makeReady (hi t ht)⟩

theorem passed_stabilizeIdle (t : Thread) : Passed t (stabilizeIdle t) :=
  Passed.of_eq rfl rfl rfl id

theorem beginRound_passStep (h : SafeRr s) (ht : t.tid = 0) :
    PassStep s (beginRound s 0 t).kernel := by
  have hstable : PassStep s (s.modify 0 stabilizeIdle fun _ => rfl) :=
    passStep_modify _ _ _ _ fun t _ => passed_stabilizeIdle t
  have hqueue : PassStep (s.modify 0 stabilizeIdle fun _ => rfl)
      { s.modify 0 stabilizeIdle fun _ => rfl with currentq := some 0 } :=
    ⟨⟨rfl, rfl, rfl, rfl, rfl, rfl⟩, Each.of_eq Passed.refl rfl⟩
  apply (hstable.trans hqueue).trans
  unfold beginRound
  dsimp only
  rw [ht]
  apply passStep_doThreadReady
  intro u hu _ hdoomed
  obtain ⟨t', ht', rfl⟩ := Option.map_eq_some_iff.mp
    ((threadList_modify s.threads 0 stabilizeIdle (fun _ => rfl) 0).symm.trans hu)
  exact h.1 t' ht' hdoomed

theorem roundInv_passStep (h : RoundInv s 0 slots r)
    (hsafe : ∀ i t, i ≠ 0 → s.threads.threadList i = some t → SafeRound t) :
    PassStep s r.kernel := by
  refine ⟨sameControls_of_frame h.frame, ?_⟩
  intro i
  cases ht : s.threads.threadList i with
  | none =>
      rw [h.absent i ht]
      exact .none
  | some t =>
      have hmem : i = 0 ∨ i ∈ slots := by
        rcases eq_or_ne i 0 with rfl | hne
        · exact .inl rfl
        · exact .inr ((mem_slots ht).mpr hne)
      obtain ⟨next, hnext⟩ := h.touched i t ht hmem
      rw [hnext]
      constructor
      apply Passed.trans _ (passed_setNext next _)
      split
      · exact Passed.refl t
      · rename_i hne
        exact visitThread_passed (hsafe i t hne ht)

theorem roundRobinReady_of_ok (h : schedulerRr s = .ok (tid, u)) : RoundRobinReady s := by
  unfold schedulerRr at h
  split at h
  · cases h
  rename_i hinitialized
  split at h
  · cases h
  rename_i hpolicy
  split at h
  · cases h
  rename_i idle hidle
  split at h
  · cases h
  rename_i t ht
  split at h
  · cases h
  rename_i hvalid
  split at h
  · cases h
  rename_i hinit
  split at h
  · cases h
  rename_i htid
  have hzero : idle = 0 := by
    have := s.threads.tid_eq idle t ht
    rw [INIT_TID] at htid
    omega
  subst hzero
  exact ⟨by simpa using hinitialized, not_not.mp hpolicy, hidle, not_not.mp hinit,
    t, ht, not_not.mp hvalid⟩

def nextThread (s : KernelState) : Option Thread :=
  (s.currentq.bind (nextOf s)).bind s.threads.threadList

def NextAlive (s : KernelState) : Prop :=
  ∀ t, nextThread s = some t → t.Valid → t.state = .ready → ¬ IsDoomed t

theorem nextThread_endRound (h : RoundInv s 0 slots r)
    (hexists : ∃ t, s.threads.threadList 0 = some t) (hqueue : (endRound r).currentq = some 0)
    {u : Thread} (hu : nextThread (endRound r) = some u) :
    ∃ i t, i ≠ 0 ∧ s.threads.threadList i = some t ∧ Selected s.jiffies t ∧
      (endRound r).threads.threadList i = some u := by
  have hfollows := endRound_follows h hexists slots_nodup
  rw [nextThread, hqueue, Option.bind_some] at hu
  obtain ⟨i, hi, hthread⟩ := Option.bind_eq_some_iff.mp hu
  have hmem : i ∈ slots.filter (chosen s) := by
    cases hfollows with
    | cons _ _ hrest =>
        rw [hi] at hrest
        generalize slots.filter (chosen s) = l at hrest
        cases hrest with
        | cons _ l _ => exact List.mem_cons_self
  have hne : i ≠ 0 := by
    rintro rfl
    exact zero_not_mem_slots (List.mem_of_mem_filter hmem)
  obtain ⟨t, _, ht, _⟩ := h.thread hexists (List.mem_cons_of_mem _ hmem)
  have hselected := List.of_mem_filter hmem
  rw [chosen_eq ht, decide_eq_true_eq] at hselected
  exact ⟨i, t, hne, ht, hselected, hthread⟩

theorem endRound_alive (h : RoundInv s 0 slots r) (hexists : ∃ t, s.threads.threadList 0 = some t)
    (hsafe : ∀ i t, i ≠ 0 → s.threads.threadList i = some t → SafeRound t)
    (hqueue : (endRound r).currentq = some 0) : NextAlive (endRound r) := by
  intro u hu _ hready hdoomed
  obtain ⟨i, t, hi, ht, hselected, hthread⟩ := nextThread_endRound h hexists hqueue hu
  obtain ⟨next, quantum, hend⟩ := endRound_visited h ht (.inr ((mem_slots ht).mpr hi))
  rw [hthread, if_neg hi] at hend
  have hpassed : Passed t (visitThread s.jiffies t) := visitThread_passed (hsafe i t hi ht)
  cases hend
  rcases hdoomed with hzombie | hdead | hexit
  · exact absurd (hready.symm.trans hzombie) (by decide)
  · exact absurd (hready.symm.trans hdead) (by decide)
  · have hexit' := hpassed.exit.symm.trans hexit
    exact absurd (hexit'.symm.trans hselected.2.2.2.1) (by decide)

theorem endRound_safeRr (h : RoundInv s 0 slots r)
    (hidle : ∃ t, s.threads.threadList 0 = some t ∧ t.state = .ready)
    (hsafe : ∀ i t, i ≠ 0 → s.threads.threadList i = some t → SafeRound t) :
    SafeRr (endRound r) := by
  constructor
  · intro u hu _
    obtain ⟨t, ht, hready⟩ := hidle
    obtain ⟨next, quantum, hend⟩ := endRound_visited h ht (.inl rfl)
    rw [hu] at hend
    cases hend
    exact hready
  · intro i u hi hu
    have hpass := (roundInv_passStep h hsafe).trans (endRound_passStep r)
    obtain ⟨t, ht, _⟩ := hpass.threads.to_some hu
    obtain ⟨next, quantum, hend⟩ := endRound_visited h ht (.inr ((mem_slots ht).mpr hi))
    rw [hu, if_neg hi] at hend
    have hsafe' : SafeRound (visitThread s.jiffies t) := visitThread_safe (hsafe i t hi ht)
    cases hend
    exact hsafe'

theorem endRound_currentq (r : Round) : (endRound r).currentq = r.kernel.currentq := by
  unfold endRound loadBalancer
  dsimp only [KernelState.modify]
  split
  · rfl
  split
  · rfl
  split
  · rfl
  split
  · rfl
  · rfl

theorem schedulerRr_spec (hsafe : SafeRr s) (h : schedulerRr s = .ok (tid, u)) :
    s.initThread = some 0 ∧ tid = 0 ∧ PassStep s u ∧ SafeRr u ∧ NextAlive u := by
  have hready := roundRobinReady_of_ok h
  obtain ⟨t, r, ht, hvalid, hsched, hr⟩ := schedulerRr_visits hready
  rw [hsched] at h
  cases h
  have htid : t.tid = 0 := s.threads.tid_eq 0 t ht
  have hidle := beginRound_idle ht hvalid
  have hbegin := beginRound_passStep hsafe htid
  have hround : ∀ i t', i ≠ 0 → (beginRound s 0 t).kernel.threads.threadList i = some t' →
      SafeRound t' := by
    intro i t' hi ht'
    rw [beginRound_thread s t htid hi] at ht'
    exact hsafe.2 i t' hi ht'
  have hqueue : (endRound r).currentq = some 0 := by
    obtain ⟨_, _, _, heq⟩ := hr.frame
    rw [endRound_currentq, heq]
    rfl
  refine ⟨hready.initThread, rfl, ?_, ?_, ?_⟩
  · exact (hbegin.trans (roundInv_passStep hr hround)).trans (endRound_passStep r)
  · exact endRound_safeRr hr ⟨_, hidle, rfl⟩ hround
  · exact endRound_alive hr ⟨_, hidle⟩ hround hqueue

/-- Condition for a pass of a stage: it must not wake up a thread that wants to exit. -/
def SafeStages (s : KernelState) : Prop :=
  ∀ i t, i ≠ 0 → s.threads.threadList i = some t → SafeStage s.jiffies t

/-- What a step of the loop of `__build_stage_queue` does: the pass goes on being safe. -/
structure StageStep (s u : KernelState) : Prop where
  pass : PassStep s u
  safe : SafeStages s → SafeStages u

theorem StageStep.refl (s : KernelState) : StageStep s s := ⟨PassStep.refl s, id⟩

theorem StageStep.trans {t : KernelState} (hst : StageStep s t) (htu : StageStep t u) :
    StageStep s u :=
  ⟨hst.pass.trans htu.pass, fun h => htu.safe (hst.safe h)⟩

theorem stageStep_modify (s : KernelState) (i : Nat) (f : Thread → Thread)
    (hf : ∀ t, (f t).tid = t.tid) (hpassed : ∀ t, Passed t (f t))
    (hsafe : ∀ t, SafeStage s.jiffies t → SafeStage s.jiffies (f t)) :
    StageStep s (s.modify i f hf) := by
  refine ⟨passStep_modify s i f hf fun t _ => hpassed t, ?_⟩
  intro h j u hj hu
  have hlist := (threadList_modify s.threads i f hf j).symm.trans hu
  split at hlist
  · rename_i heq
    subst heq
    obtain ⟨t, ht, rfl⟩ := Option.map_eq_some_iff.mp hlist
    exact hsafe t (h j t hj ht)
  · exact h j u hj hlist

theorem stageStep_setNext (s : KernelState) (i : Nat) (next : Option Nat) :
    StageStep s (s.modify i (setNext next) fun _ => rfl) :=
  stageStep_modify _ _ _ _ (passed_setNext next) fun _ h => h

theorem stageStep_setQuantum (s : KernelState) (i : Nat) (quantum : UInt64) :
    StageStep s (s.modify i (setQuantum quantum) fun _ => rfl) :=
  stageStep_modify _ _ _ _ (passed_setQuantum quantum) fun _ h => h

theorem appendStage_stageStep (quantum : UInt64) (q : StageQueue) (i : Nat) :
    StageStep q.kernel (appendStage quantum q i).kernel := by
  apply ((stageStep_setNext q.kernel i none).trans (stageStep_setNext _ q.tail (some i))).trans
  apply stageStep_modify
  · intro t
    exact Passed.of_eq rfl rfl rfl id
  · exact fun _ h => h

def wokenStage (jiffies : UInt64) (t : Thread) : Thread :=
  if t.state = .waiting then
    if t.wakeJiffy ≤ jiffies then clearWakeJiffy (makeReady (checkAlarm jiffies t))
    else checkAlarm jiffies t
  else t

theorem wakeStage_spec (ht : s.threads.threadList i = some t) :
    (wakeStage s i t).threads.threadList =
        Function.update s.threads.threadList i (some (wokenStage s.jiffies t)) ∧
      SameControls s (wakeStage s i t) := by
  have hself : s.threads.threadList = Function.update s.threads.threadList i (some t) :=
    (Function.update_eq_self_iff.mpr ht.symm).symm
  have halarm := modify_update hself (checkAlarm s.jiffies) fun _ => rfl
  unfold wakeStage wokenStage
  dsimp only [KernelState.modify]
  split
  · split
    · have hready := modifyTid_update halarm (Thread.setState .ready) fun _ => rfl
      have hclear := modify_update hready clearWakeJiffy fun _ => rfl
      exact ⟨hclear, rfl, rfl, rfl, rfl, rfl, rfl⟩
    · exact ⟨halarm, rfl, rfl, rfl, rfl, rfl, rfl⟩
  · exact ⟨hself, SameControls.refl s⟩

theorem wokenStage_passed (h : SafeStage jiffies t) (hvalid : t.Valid) :
    Passed t (wokenStage jiffies t) := by
  unfold wokenStage
  split
  · rename_i hwaiting
    split
    · rename_i hdue
      have hready : Passed (checkAlarm jiffies t) (makeReady (checkAlarm jiffies t)) := by
        apply passed_makeReady
        intro _ hdoomed
        have hnot : ¬ IsDoomed t := not_doomed_of_waits (.inl hwaiting) (h hvalid hwaiting hdue)
        exact absurd hdoomed hnot
      exact ((passed_checkAlarm jiffies t).trans hready).trans (Passed.of_eq rfl rfl rfl id)
    · exact passed_checkAlarm jiffies t
  · exact Passed.refl t

theorem wokenStage_safe (h : SafeStage jiffies t) (hvalid : t.Valid) :
    SafeStage jiffies (wokenStage jiffies t) := by
  unfold wokenStage
  split
  · split
    · rw [makeReady, if_pos]
      · intro _ hwaiting
        cases hwaiting
      · exact hvalid
    · exact h
  · exact h

theorem wakeStage_stageStep (h : SafeStages s) (hi : i ≠ 0) (ht : s.threads.threadList i = some t)
    (hvalid : t.Valid) :
    StageStep s (wakeStage s i t) := by
  obtain ⟨hlist, hcontrols⟩ := wakeStage_spec ht
  have hsafe := h i t hi ht
  refine ⟨⟨hcontrols, ?_⟩, ?_⟩
  · apply Each.of_map Passed.refl (i := i) (f := wokenStage s.jiffies)
    · intro j
      rw [hlist, Function.update_apply, ht]
      rfl
    · intro t' ht'
      rw [ht] at ht'
      cases ht'
      exact wokenStage_passed hsafe hvalid
  · intro _ j u hj hu
    rw [hlist, Function.update_apply] at hu
    rw [hcontrols.jiffies]
    split at hu
    · cases hu
      exact wokenStage_safe hsafe hvalid
    · exact h j u hj hu

theorem stageVisit_stageStep (priority quantum : UInt64) (hi : i ≠ 0) (h : SafeStages q.kernel) :
    StageStep q.kernel (stageVisit priority quantum q i).kernel := by
  unfold stageVisit
  split
  · exact StageStep.refl q.kernel
  rename_i t ht
  split
  · exact StageStep.refl q.kernel
  rename_i hvalid
  have hwake := wakeStage_stageStep h hi ht (not_not.mp hvalid)
  unfold stageSelect
  split
  · exact hwake
  split
  · exact hwake.trans
      (appendStage_stageStep quantum { q with kernel := wakeStage q.kernel i t } i)
  · exact hwake

theorem stageLoop_stageStep (priority quantum : UInt64) {is : List Nat} (hzero : 0 ∉ is)
    (h : SafeStages q.kernel) :
    StageStep q.kernel (is.foldl (stageVisit priority quantum) q).kernel := by
  induction is generalizing q with
  | nil => exact StageStep.refl q.kernel
  | cons i is ih =>
      rw [List.mem_cons, not_or] at hzero
      have hvisit := stageVisit_stageStep priority quantum (Ne.symm hzero.1) h
      exact hvisit.trans (ih hzero.2 (hvisit.safe h))

theorem buildStageQueue_stageStep (init : Nat) (priority : UInt64) (h : SafeStages s) :
    StageStep s (buildStageQueue s init priority) := by
  have hloop : ∀ q : StageQueue, SafeStages q.kernel → StageStep q.kernel
      (slots.foldl (stageVisit priority (targetQuantum priority)) q).kernel :=
    fun q hq => stageLoop_stageStep priority _ zero_not_mem_slots hq
  unfold buildStageQueue
  dsimp only
  generalize (if s.displayServer.initialized = true then QUANTUM_MIN else QUANTUM_MAX) = quantum
  have hinit := (stageStep_setQuantum s init quantum).trans (stageStep_setNext _ init none)
  exact (hinit.trans (hloop ⟨_, init⟩ (hinit.safe h))).trans (stageStep_setNext _ _ none)

theorem stageStep_setStage (s : KernelState) (queue : Option Nat) (stage : Int) :
    StageStep s (setStage { s with currentq := queue } stage) :=
  ⟨⟨⟨rfl, rfl, rfl, rfl, rfl, rfl⟩, Each.of_eq Passed.refl rfl⟩, fun h => h⟩

theorem initQueue_stageStep (s : KernelState) (init : Nat) (stage : Int) :
    StageStep s (initQueue s init stage) :=
  (stageStep_setNext s init none).trans (stageStep_setStage _ _ stage)

theorem runStage_stageStep (init : Nat) (priority : UInt64) (stage : Int) (h : SafeStages s) :
    StageStep s (runStage s init priority stage) :=
  (buildStageQueue_stageStep init priority h).trans (stageStep_setStage _ _ stage)

theorem selectStage_stageStep (init : Nat) (stage : Int) (h : SafeStages s) :
    StageStep s (selectStage s init stage) := by
  have hinit := initQueue_stageStep s init
  have hrun := fun priority next => runStage_stageStep init priority next h
  unfold selectStage
  split
  · exact hinit 1
  iterate 6
    split
    · exact hrun _ _
  exact hinit 0

theorem schedulerPriorityinterleaving_spec (hsafe : SafeStages s)
    (h : schedulerPriorityinterleaving s = .ok (tid, u)) :
    ∃ init : Nat, s.initThread = some init ∧ tid = init ∧ StageStep s u := by
  unfold schedulerPriorityinterleaving at h
  split at h
  · cases h
  split at h
  · cases h
  dsimp only at h
  split at h
  · cases h
  rename_i init hinit
  split at h
  · cases h
  rename_i t ht
  split at h
  · cases h
  · cases h
    exact ⟨init, hinit, s.threads.tid_eq init t ht, selectStage_stageStep init _ hsafe⟩

def SafePass (s : KernelState) : Prop :=
  match s.scheduler.policy with
  | .rr => SafeRr s
  | .priorityInterleaving => SafeStages s
  | .invalid => True

structure SchedulerPass (s u : KernelState) : Prop where
  pass : PassStep s u
  safe : SafePass u
  next : s.scheduler.policy = .rr → NextAlive u

theorem safePass_rr (hpolicy : s.scheduler.policy = .rr) : SafePass s ↔ SafeRr s := by
  rw [SafePass, hpolicy]

theorem safePass_priority (hpolicy : s.scheduler.policy = .priorityInterleaving) :
    SafePass s ↔ SafeStages s := by
  rw [SafePass, hpolicy]

theorem checkFirst_ok {first : Int} (h : checkFirst first s = .ok (tid, u)) :
    first = tid ∧ u = { s with systemState := .running } := by
  unfold checkFirst at h
  split at h
  · cases h
  split at h
  · cases h
  split at h
  · cases h
  split at h
  · cases h
  · cases h
    exact ⟨rfl, rfl⟩

theorem scheduler_spec (hsafe : SafePass s) (h : scheduler s = .ok (tid, u)) :
    ∃ init : Nat, s.initThread = some init ∧ tid = init ∧ SchedulerPass s u := by
  unfold scheduler at h
  split at h
  · cases h
  dsimp only at h
  split at h
  · cases h
  split at h
  · cases h
  split at h
  · cases h
  rename_i first v hfirst
  obtain ⟨rfl, rfl⟩ := checkFirst_ok h
  have hbegin : PassStep s { s with systemState := .scheduling } :=
    ⟨⟨rfl, rfl, rfl, rfl, rfl, rfl⟩, Each.of_eq Passed.refl rfl⟩
  have hend : PassStep v { v with systemState := .running } :=
    ⟨⟨rfl, rfl, rfl, rfl, rfl, rfl⟩, Each.of_eq Passed.refl rfl⟩
  split at hfirst
  · rename_i hpolicy
    have hrr := (safePass_rr hpolicy).mp hsafe
    obtain ⟨hinit, htid, hpass, hafter, hnext⟩ :=
      schedulerRr_spec (s := { s with systemState := .scheduling }) hrr hfirst
    refine ⟨0, hinit, htid, (hbegin.trans hpass).trans hend, ?_, fun _ => hnext⟩
    have hpolicy' : ({ v with systemState := .running } : KernelState).scheduler.policy = .rr :=
      hpass.controls.policy.trans hpolicy
    exact (safePass_rr hpolicy').mpr hafter
  · rename_i hpolicy
    have hstages := (safePass_priority hpolicy).mp hsafe
    obtain ⟨init, hinit, htid, hstep⟩ := schedulerPriorityinterleaving_spec
      (s := { s with systemState := .scheduling }) hstages hfirst
    refine ⟨init, hinit, htid, (hbegin.trans hstep.pass).trans hend, ?_, ?_⟩
    · have hpolicy' : ({ v with systemState := .running } : KernelState).scheduler.policy =
          .priorityInterleaving := hstep.pass.controls.policy.trans hpolicy
      exact (safePass_priority hpolicy').mpr (hstep.safe hstages)
    · intro hrr
      exact absurd (hpolicy.symm.trans hrr) (by decide)
  · cases hfirst

theorem psScheduler_locked (hlocked : s.scheduler.isLocked = true)
    (h : psScheduler s = .ok (tid, u)) :
    tid = -1 ∧ u = s := by
  rw [psScheduler, if_pos hlocked] at h
  cases h
  exact ⟨rfl, rfl⟩

theorem psScheduler_unlocked (hlocked : s.scheduler.isLocked = false) (hsafe : SafePass s)
    (h : psScheduler s = .ok (tid, u)) :
    ∃ init : Nat, s.initThread = some init ∧ tid = init ∧ SchedulerPass s u := by
  unfold psScheduler at h
  rw [if_neg (by rw [hlocked]; decide)] at h
  split at h
  · cases h
  · exact scheduler_spec hsafe h

end Gramado.Ke.Passes
