import Gramado.Ke.StageQueue
import Gramado.Ke.Preemption

/-! When the passes of the scheduler and the task switches end the wait of a thread. -/

namespace Gramado.Ke.WakeUps

open Ke.Table Ke.RoundRobin Ke.Stages Ke.Doomed Ke.Passes Ke.StageQueue

def At (R : Thread → Thread → Prop) (s u : KernelState) (i : Nat) : Prop :=
  ∀ t, s.threads.threadList i = some t → ∃ t', u.threads.threadList i = some t' ∧ R t t'

variable {R : Thread → Thread → Prop} {s u : KernelState} {i : Nat} {t v t' : Thread}
  {jiffies : UInt64} {reached : Prop} {tid : Int}

theorem At.of_each (h : Each R s u) (i : Nat) : At R s u i := fun _ ht => h.of_some ht

theorem At.of_eq (hR : ∀ t, R t t) (h : u.threads.threadList i = s.threads.threadList i) :
    At R s u i :=
  fun t ht => ⟨t, h.trans ht, hR t⟩

theorem At.trans {R' R'' : Thread → Thread → Prop} {t : KernelState}
    (hR : ∀ a b c, R a b → R' b c → R'' a c) (hst : At R s t i) (htu : At R' t u i) :
    At R'' s u i := by
  intro a ha
  obtain ⟨b, hb, hab⟩ := hst a ha
  obtain ⟨c, hc, hbc⟩ := htu b hb
  exact ⟨c, hc, hR a b c hab hbc⟩

structure SameWait (t t' : Thread) : Prop where
  valid : t'.Valid ↔ t.Valid
  state : t'.state = t.state
  wakeJiffy : t'.wakeJiffy = t.wakeJiffy
  msgctl : t'.msgctl = t.msgctl
  exit : t'.deferred.exitInProgress = t.deferred.exitInProgress
  pending : t'.hasPendingEvent = t.hasPendingEvent

theorem SameWait.refl (t : Thread) : SameWait t t := ⟨Iff.rfl, rfl, rfl, rfl, rfl, rfl⟩

theorem SameWait.trans {u : Thread} (htu : SameWait t u) (huv : SameWait u v) : SameWait t v where
  valid := huv.valid.trans htu.valid
  state := huv.state.trans htu.state
  wakeJiffy := huv.wakeJiffy.trans htu.wakeJiffy
  msgctl := huv.msgctl.trans htu.msgctl
  exit := huv.exit.trans htu.exit
  pending := huv.pending.trans htu.pending

theorem sameWait_modify {f : Thread → Thread} {hf : ∀ t, (f t).tid = t.tid}
    (h : ∀ t, SameWait t (f t)) :
    Each SameWait s (s.modify i f hf) :=
  Each.modify SameWait.refl s i f hf fun t _ => h t

theorem sameWait_trans {t : KernelState} (hst : Each SameWait s t) (htu : Each SameWait t u) :
    Each SameWait s u :=
  hst.trans (fun _ _ _ hab hbc => hab.trans hbc) htu

theorem sameWait_setNext (next : Option Nat) (t : Thread) : SameWait t (setNext next t) :=
  ⟨Iff.rfl, rfl, rfl, rfl, rfl, rfl⟩

theorem sameWait_setQuantum (quantum : UInt64) (t : Thread) : SameWait t (setQuantum quantum t) :=
  ⟨Iff.rfl, rfl, rfl, rfl, rfl, rfl⟩

theorem SameWait.makeReady (h : SameWait t t') : SameWait (makeReady t) (makeReady t') := by
  unfold RoundRobin.makeReady
  by_cases hvalid : t.Valid
  · rw [if_pos hvalid, if_pos (h.valid.mpr hvalid)]
    exact ⟨h.valid, rfl, h.wakeJiffy, h.msgctl, h.exit, h.pending⟩
  · rw [if_neg hvalid, if_neg (fun hvalid' => hvalid (h.valid.mp hvalid'))]
    exact h

theorem SameWait.checkAlarm (h : SameWait t t') :
    SameWait (checkAlarm jiffies t) (checkAlarm jiffies t') :=
  ⟨h.valid, h.state, h.wakeJiffy, h.msgctl, h.exit, h.pending⟩

theorem SameWait.wokenStage (h : SameWait t t') :
    SameWait (wokenStage jiffies t) (wokenStage jiffies t') := by
  unfold Passes.wokenStage
  rw [h.state, h.wakeJiffy]
  split
  · split
    · have halarm : SameWait (RoundRobin.checkAlarm jiffies t) (RoundRobin.checkAlarm jiffies t') :=
        h.checkAlarm
      have hready := halarm.makeReady
      exact ⟨hready.valid, hready.state, rfl, hready.msgctl, hready.exit, hready.pending⟩
    · exact h.checkAlarm
  · exact h

/-- What the wake-up check of a stage does to a thread, if the stage gets to it. -/
structure Checked (jiffies : UInt64) (reached : Prop) (t t' : Thread) : Prop where
  woken : reached → t.Valid → SameWait (wokenStage jiffies t) t'
  kept : ¬ (reached ∧ t.Valid) → SameWait t t'

theorem Checked.of_not (hnot : ¬ (reached ∧ t.Valid)) (h : SameWait t t') :
    Checked jiffies reached t t' :=
  ⟨fun hreached hvalid => absurd ⟨hreached, hvalid⟩ hnot, fun _ => h⟩

theorem Checked.trans {u : Thread} (htu : Checked jiffies reached t u) (huv : SameWait u v) :
    Checked jiffies reached t v :=
  ⟨fun hreached hvalid => (htu.woken hreached hvalid).trans huv,
    fun hnot => (htu.kept hnot).trans huv⟩

theorem Checked.of_sameWait {u : Thread} (htu : SameWait t u) (huv : Checked jiffies reached u v) :
    Checked jiffies reached t v := by
  constructor
  · intro hreached hvalid
    exact htu.wokenStage.trans (huv.woken hreached (htu.valid.mpr hvalid))
  · intro hnot
    exact htu.trans (huv.kept fun h => hnot ⟨h.1, htu.valid.mp h.2⟩)

theorem appendStage_sameWait (quantum : UInt64) (q : StageQueue) (i : Nat) :
    Each SameWait q.kernel (appendStage quantum q i).kernel := by
  have hclear : Each SameWait q.kernel (q.kernel.modify i (setNext none) fun _ => rfl) :=
    sameWait_modify (sameWait_setNext none)
  have hlink : Each SameWait (q.kernel.modify i (setNext none) fun _ => rfl)
      ((q.kernel.modify i (setNext none) fun _ => rfl).modify q.tail (setNext (some i))
        fun _ => rfl) := sameWait_modify (sameWait_setNext (some i))
  apply sameWait_trans (sameWait_trans hclear hlink)
  exact sameWait_modify fun _ => ⟨Iff.rfl, rfl, rfl, rfl, rfl, rfl⟩

theorem stageVisit_at (priority quantum : UInt64) (q : StageQueue) (i j : Nat) :
    At (Checked q.kernel.jiffies (j = i)) q.kernel (stageVisit priority quantum q i).kernel j := by
  intro t ht
  unfold stageVisit
  split
  · rename_i hnone
    refine ⟨t, ht, Checked.of_not ?_ (SameWait.refl t)⟩
    rintro ⟨rfl, _⟩
    rw [ht] at hnone
    cases hnone
  rename_i t' ht'
  split
  · rename_i hinvalid
    refine ⟨t, ht, Checked.of_not ?_ (SameWait.refl t)⟩
    rintro ⟨rfl, hvalid⟩
    rw [ht] at ht'
    cases ht'
    exact hinvalid hvalid
  rename_i hvalid
  obtain ⟨hwake, _⟩ := wakeStage_spec ht'
  have hthread : ∃ u, (wakeStage q.kernel i t').threads.threadList j = some u ∧
      Checked q.kernel.jiffies (j = i) t u := by
    rw [hwake]
    rcases eq_or_ne j i with rfl | hne
    · rw [ht] at ht'
      cases ht'
      exact ⟨_, Function.update_self .., fun _ _ => SameWait.refl _,
        fun hnot => absurd ⟨rfl, not_not.mp hvalid⟩ hnot⟩
    · rw [Function.update_of_ne hne]
      exact ⟨t, ht, Checked.of_not (fun h => hne h.1) (SameWait.refl t)⟩
  obtain ⟨u, hu, hchecked⟩ := hthread
  unfold stageSelect
  split
  · exact ⟨u, hu, hchecked⟩
  split
  · obtain ⟨v, hv, hsame⟩ := (appendStage_sameWait quantum
      { q with kernel := wakeStage q.kernel i t' } i).of_some hu
    exact ⟨v, hv, hchecked.trans hsame⟩
  · exact ⟨u, hu, hchecked⟩

theorem stageVisit_only (priority quantum : UInt64) (q : StageQueue) (i : Nat) :
    OnlyThreads q.kernel (stageVisit priority quantum q i).kernel := by
  unfold stageVisit
  split
  · exact ⟨_, rfl⟩
  rename_i t _
  split
  · exact ⟨_, rfl⟩
  have hwake := wakeStage_only (s := q.kernel) i t
  unfold stageSelect
  split
  · exact hwake
  split
  · exact hwake.trans ⟨_, rfl⟩
  · exact hwake

theorem stageLoop_only (priority quantum : UInt64) (is : List Nat) (q : StageQueue) :
    OnlyThreads q.kernel (is.foldl (stageVisit priority quantum) q).kernel := by
  induction is generalizing q with
  | nil => exact ⟨_, rfl⟩
  | cons i is ih => exact (stageVisit_only priority quantum q i).trans (ih _)

theorem stageLoop_at (priority quantum : UInt64) {is : List Nat} (hnodup : is.Nodup)
    (q : StageQueue) (j : Nat) :
    At (Checked q.kernel.jiffies (j ∈ is)) q.kernel
      (is.foldl (stageVisit priority quantum) q).kernel j := by
  induction is generalizing q with
  | nil => exact At.of_eq (fun t => Checked.of_not (by simp) (SameWait.refl t)) rfl
  | cons i is ih =>
      obtain ⟨hnot, hnodup⟩ := List.nodup_cons.mp hnodup
      have hvisit := stageVisit_at priority quantum q i j
      have hrest := ih hnodup (stageVisit priority quantum q i)
      have hjiffies : (stageVisit priority quantum q i).kernel.jiffies = q.kernel.jiffies := by
        obtain ⟨_, heq⟩ := stageVisit_only priority quantum q i
        rw [heq]
      rw [hjiffies] at hrest
      apply hvisit.trans _ hrest
      intro a b c hab hbc
      rcases eq_or_ne j i with rfl | hne
      · have hrest := hbc.kept fun h => hnot h.1
        have hchecked := hab.trans hrest
        simpa using hchecked
      · have hsame := hab.kept fun h => hne h.1
        simpa [hne] using Checked.of_sameWait hsame hbc

/-- The kernel in which the loop of `__build_stage_queue` begins. -/
def stageBegin (s : KernelState) (init : Nat) : KernelState :=
  (s.modify init (setQuantum
    (if s.displayServer.initialized = true then QUANTUM_MIN else QUANTUM_MAX)) (stageQuantum_tid s)).modify
      init (setNext none) setNext_none_tid

theorem buildStageQueue_at (s : KernelState) (init : Nat) (priority : UInt64) :
    OnlyThreads s (buildStageQueue s init priority) ∧
      ∀ j, At (Checked s.jiffies (j ≠ 0)) s (buildStageQueue s init priority) j := by
  have hquantum : Each SameWait s (s.modify init (setQuantum
      (if s.displayServer.initialized = true then QUANTUM_MIN else QUANTUM_MAX)) fun _ => rfl) :=
    sameWait_modify (sameWait_setQuantum _)
  have hbegin : Each SameWait s (stageBegin s init) :=
    sameWait_trans hquantum (sameWait_modify (sameWait_setNext none))
  have honly := stageLoop_only priority (targetQuantum priority) slots
    ⟨stageBegin s init, init⟩
  have hloop := stageLoop_at priority (targetQuantum priority) (List.nodup_cons.mp slots_nodup).2
    ⟨stageBegin s init, init⟩
  generalize hq : slots.foldl (stageVisit priority (targetQuantum priority))
    ⟨stageBegin s init, init⟩ = q at honly hloop
  have hbuild : buildStageQueue s init priority =
      q.kernel.modify q.tail (setNext none) fun _ => rfl := by
    rw [← hq]
    rfl
  rw [hbuild]
  constructor
  · obtain ⟨_, heq⟩ := honly
    rw [heq]
    exact ⟨_, rfl⟩
  · intro j t ht
    obtain ⟨a, ha, hsame⟩ := hbegin.of_some ht
    obtain ⟨b, hb, hchecked⟩ := hloop j a ha
    have hlast : Each SameWait q.kernel (q.kernel.modify q.tail (setNext none) fun _ => rfl) :=
      sameWait_modify (sameWait_setNext none)
    obtain ⟨c, hc, hcleared⟩ := hlast.of_some hb
    have hall := (Checked.of_sameWait hsame hchecked).trans hcleared
    rw [mem_slots ht] at hall
    exact ⟨c, hc, hall⟩

/-- What a stage does to a thread, and that it leaves the controls. -/
structure StageDone (s : KernelState) (reached : Nat → Prop) (u : KernelState) : Prop where
  controls : SameControls s u
  threads : ∀ j, At (Checked s.jiffies (reached j)) s u j

theorem initQueue_done (s : KernelState) (init : Nat) (stage : Int) {reached : Nat → Prop}
    (hnot : ∀ j, ¬ reached j) : StageDone s reached (initQueue s init stage) := by
  have hnext : Each SameWait s (s.modify init (setNext none) fun _ => rfl) :=
    sameWait_modify (sameWait_setNext none)
  refine ⟨⟨rfl, rfl, rfl, rfl, rfl, rfl⟩, ?_⟩
  intro j t ht
  obtain ⟨t', ht', hsame⟩ := hnext.of_some ht
  exact ⟨t', ht', Checked.of_not (fun h => hnot j h.1) hsame⟩

theorem runStage_done (s : KernelState) (init : Nat) (priority : UInt64) (stage : Int)
    {reached : Nat → Prop} (hiff : ∀ j, reached j ↔ j ≠ 0) :
    StageDone s reached (runStage s init priority stage) := by
  obtain ⟨⟨_, heq⟩, hat⟩ := buildStageQueue_at s init priority
  constructor
  · unfold runStage
    rw [heq]
    exact ⟨rfl, rfl, rfl, rfl, rfl, rfl⟩
  · intro j t ht
    obtain ⟨t', ht', hchecked⟩ := hat j t ht
    rw [← hiff j] at hchecked
    exact ⟨t', ht', hchecked⟩

theorem selectStage_done (s : KernelState) (init : Nat) (stage : Int) :
    StageDone s (fun j => (1 ≤ stage ∧ stage ≤ 6) ∧ j ≠ 0) (selectStage s init stage) := by
  unfold selectStage
  split
  · rename_i hstage
    exact initQueue_done s init 1 fun j h => by omega
  iterate 6
    split
    · exact runStage_done s init _ _ fun j => by omega
  exact initQueue_done s init 0 fun j h => by omega

def currentStage (s : KernelState) : Int :=
  if s.scheduler.maxStage < s.scheduler.stage then 1 else s.scheduler.stage

def Walks (s : KernelState) : Prop :=
  s.scheduler.isLocked = false ∧
    (s.scheduler.policy = .rr ∨
      s.scheduler.policy = .priorityInterleaving ∧ 1 ≤ currentStage s ∧ currentStage s ≤ 6)

instance (s : KernelState) : Decidable (Walks s) :=
  inferInstanceAs (Decidable (_ ∧ _))

/-- What a pass of the scheduler makes of the thread at the place `i`. -/
inductive PassedBy (s : KernelState) (i : Nat) (t t' : Thread) : Prop where
  | idle (hpolicy : s.scheduler.policy = .rr) (hi : i = 0)
      (h : SameWait (t.setState .ready) t')
  | round (hpolicy : s.scheduler.policy = .rr) (hi : i ≠ 0)
      (h : SameWait (visitThread s.jiffies t) t')
  | stage (hpolicy : s.scheduler.policy = .priorityInterleaving) (hi : i ≠ 0)
      (hvalid : t.Valid) (h : SameWait (wokenStage s.jiffies t) t')
  | kept (hnot : s.scheduler.policy = .rr → s.scheduler.isLocked = true)
      (hunreached : ¬ (Walks s ∧ i ≠ 0 ∧ t.Valid)) (h : SameWait t t')

theorem schedulerRr_passedBy (hpolicy : s.scheduler.policy = .rr)
    (h : schedulerRr s = .ok (tid, u)) :
    SameControls s u ∧ ∀ i, At (PassedBy s i) s u i := by
  obtain ⟨t, r, ht, hvalid, hsched, hr⟩ := schedulerRr_visits (roundRobinReady_of_ok h)
  rw [hsched] at h
  cases h
  have htid : t.tid = 0 := s.threads.tid_eq 0 t ht
  have hidle := beginRound_idle ht hvalid
  have hcontrols : SameControls s (beginRound s 0 t).kernel := ⟨rfl, rfl, rfl, rfl, rfl, rfl⟩
  refine ⟨(hcontrols.trans (sameControls_of_frame hr.frame)).trans (endRound_passStep r).controls,
    ?_⟩
  intro i v hv
  rcases eq_or_ne i 0 with rfl | hne
  · rw [ht] at hv
    cases hv
    obtain ⟨next, quantum, hend⟩ := endRound_visited hr hidle (.inl rfl)
    rw [if_pos rfl] at hend
    exact ⟨_, hend, .idle hpolicy rfl ⟨Iff.rfl, rfl, rfl, rfl, rfl, rfl⟩⟩
  · have hbegin := (beginRound_thread s t htid hne).trans hv
    obtain ⟨next, quantum, hend⟩ := endRound_visited hr hbegin (.inr ((mem_slots hv).mpr hne))
    rw [if_neg hne] at hend
    exact ⟨_, hend, .round hpolicy hne ⟨Iff.rfl, rfl, rfl, rfl, rfl, rfl⟩⟩

theorem schedulerPriorityinterleaving_passedBy
    (hpolicy : s.scheduler.policy = .priorityInterleaving)
    (h : schedulerPriorityinterleaving s = .ok (tid, u)) :
    SameControls s u ∧ ∀ i, At (PassedBy s i) s u i := by
  unfold schedulerPriorityinterleaving at h
  split at h
  · cases h
  split at h
  · cases h
  dsimp only at h
  split at h
  · cases h
  rename_i init _
  split at h
  · cases h
  split at h
  · cases h
  cases h
  obtain ⟨hcontrols, hthreads⟩ := selectStage_done s init (currentStage s)
  refine ⟨hcontrols, ?_⟩
  intro i t ht
  obtain ⟨t', ht', hchecked⟩ := hthreads i t ht
  refine ⟨t', ht', ?_⟩
  by_cases hreached : ((1 ≤ currentStage s ∧ currentStage s ≤ 6) ∧ i ≠ 0) ∧ t.Valid
  · exact .stage hpolicy hreached.1.2 hreached.2 (hchecked.woken hreached.1 hreached.2)
  · have hrr : s.scheduler.policy ≠ .rr := by
      rw [hpolicy]
      decide
    refine .kept (fun heq => absurd heq hrr) ?_ (hchecked.kept hreached)
    rintro ⟨⟨_, heq | ⟨_, hstage⟩⟩, hi, hvalid⟩
    · exact hrr heq
    · exact hreached ⟨⟨hstage, hi⟩, hvalid⟩

theorem psScheduler_passedBy (h : psScheduler s = .ok (tid, u)) :
    SameControls s u ∧ ∀ i, At (PassedBy s i) s u i := by
  cases hlocked : s.scheduler.isLocked with
  | true =>
      obtain ⟨_, rfl⟩ := psScheduler_locked hlocked h
      refine ⟨SameControls.refl _, ?_⟩
      intro i t ht
      refine ⟨t, ht, .kept (fun _ => hlocked) ?_ (SameWait.refl t)⟩
      rintro ⟨⟨hunlocked, _⟩, _⟩
      exact absurd (hlocked.symm.trans hunlocked) (by decide)
  | false =>
      unfold psScheduler at h
      rw [if_neg (by simp [hlocked])] at h
      split at h
      · cases h
      unfold scheduler at h
      split at h
      · cases h
      dsimp only at h
      split at h
      · cases h
      split at h
      · cases h
      split at h
      · cases h
      rename_i first v hfirst
      obtain ⟨_, rfl⟩ := checkFirst_ok h
      have hpass : SameControls { s with systemState := .scheduling } v ∧
          ∀ i, At (PassedBy { s with systemState := .scheduling } i)
            { s with systemState := .scheduling } v i := by
        split at hfirst
        · rename_i hpolicy
          exact schedulerRr_passedBy (s := { s with systemState := .scheduling }) hpolicy hfirst
        · rename_i hpolicy
          exact schedulerPriorityinterleaving_passedBy
            (s := { s with systemState := .scheduling }) hpolicy hfirst
        · cases hfirst
      obtain ⟨hcontrols, hthreads⟩ := hpass
      refine ⟨⟨hcontrols.responder, hcontrols.responderThread, hcontrols.locked,
        hcontrols.policy, hcontrols.initThread, hcontrols.jiffies⟩, ?_⟩
      intro i t ht
      obtain ⟨t', ht', hpassed⟩ := hthreads i t ht
      refine ⟨t', ht', ?_⟩
      cases hpassed with
      | idle hpolicy hi h => exact .idle hpolicy hi h
      | round hpolicy hi h => exact .round hpolicy hi h
      | stage hpolicy hi hvalid h => exact .stage hpolicy hi hvalid h
      | kept hnot hunreached h => exact .kept hnot hunreached h

theorem endRound_idleThread (r : Round) : (endRound r).idleThread = r.kernel.idleThread := by
  unfold endRound loadBalancer
  dsimp only [KernelState.modify]
  split
  · rfl
  split
  · rfl
  split
  · rfl
  split
  · rfl
  · rfl

theorem psScheduler_roundRobin (h : RoundRobinReady s) (hlocked : s.scheduler.isLocked = false)
    (hstate : s.systemState = .running) (hcounter : s.threadsCounter ≠ 0) :
    ∃ u, psScheduler s = .ok (INIT_TID, u) := by
  obtain ⟨t, r, ht, hvalid, hsched, hr⟩ :=
    schedulerRr_visits (s := { s with systemState := .scheduling })
      ⟨h.initialized, h.policy, h.idleThread, h.initThread, h.idle⟩
  have hidle := beginRound_idle ht hvalid
  obtain ⟨next, quantum, hend⟩ := endRound_visited hr hidle (.inl rfl)
  rw [if_pos rfl] at hend
  obtain ⟨v, hv, hmagic, htid⟩ : ∃ v, (endRound r).threads.threadList 0 = some v ∧
      v.magic = 1234 ∧ INIT_TID = v.tid := ⟨_, hend, hvalid.2, (s.threads.tid_eq 0 t ht).symm⟩
  have hthread : (endRound r).idleThread = some 0 := by
    obtain ⟨_, _, _, heq⟩ := hr.frame
    rw [endRound_idleThread, heq]
    exact h.idleThread
  have hcheck : checkFirst INIT_TID (endRound r) =
      .ok (INIT_TID, { endRound r with systemState := .running }) := by
    rw [checkFirst, hthread]
    dsimp only
    rw [hv]
    dsimp only
    rw [if_neg (not_not_intro hmagic), if_neg (not_not_intro htid), ← hthread]
  refine ⟨{ endRound r with systemState := .running }, ?_⟩
  unfold psScheduler scheduler
  rw [if_neg (by simp [hlocked]), if_neg hcounter, if_neg (not_not_intro hstate)]
  dsimp only
  rw [if_neg hcounter, if_neg (by simp [h.initialized]), h.policy]
  dsimp only
  rw [hsched]
  exact hcheck

def StillWaits (t t' : Thread) : Prop :=
  t'.state = .waiting → t.state = .waiting ∧ t'.wakeJiffy = t.wakeJiffy ∧ (t.Valid → t'.Valid)

theorem StillWaits.of_sameWait (h : SameWait t t') : StillWaits t t' :=
  fun hwaiting => ⟨h.state.symm.trans hwaiting, h.wakeJiffy, h.valid.mpr⟩

theorem StillWaits.of_not (h : t'.state ≠ .waiting) : StillWaits t t' :=
  fun hwaiting => absurd hwaiting h

theorem StillWaits.refl (t : Thread) : StillWaits t t := StillWaits.of_sameWait (SameWait.refl t)

theorem StillWaits.trans {u : Thread} (htu : StillWaits t u) (huv : StillWaits u v) :
    StillWaits t v := by
  intro hwaiting
  obtain ⟨hu, hwake, hvalid⟩ := huv hwaiting
  obtain ⟨ht, hwake', hvalid'⟩ := htu hu
  exact ⟨ht, hwake.trans hwake', fun h => hvalid (hvalid' h)⟩

theorem stillWaits_trans {t : KernelState} (hst : At StillWaits s t i) (htu : At StillWaits t u i) :
    At StillWaits s u i :=
  hst.trans (fun _ _ _ hab hbc => hab.trans hbc) htu

theorem stillWaits_makeReady (t : Thread) : StillWaits t (makeReady t) := by
  unfold makeReady
  split
  · exact StillWaits.of_not (by simp [Thread.setState])
  · exact StillWaits.refl t

theorem stillWaits_makeBlocked (t : Thread) : StillWaits t (makeBlocked t) := by
  unfold makeBlocked
  split
  · exact StillWaits.of_not (by simp [Thread.setState])
  · exact StillWaits.refl t

theorem stillWaits_checkAlarm (jiffies : UInt64) (t : Thread) :
    StillWaits t (checkAlarm jiffies t) :=
  fun hwaiting => ⟨hwaiting, rfl, id⟩

theorem stillWaits_wakeIfDue (jiffies : UInt64) (t : Thread) :
    StillWaits t (wakeIfDue jiffies t) := by
  unfold wakeIfDue
  split
  · split
    · exact (stillWaits_checkAlarm jiffies t).trans (stillWaits_makeReady _)
    · exact stillWaits_checkAlarm jiffies t
  · exact StillWaits.refl t

theorem stillWaits_visitThread (jiffies : UInt64) (t : Thread) :
    StillWaits t (visitThread jiffies t) := by
  have hwake := stillWaits_wakeIfDue jiffies t
  unfold visitThread
  split
  · split
    · exact (stillWaits_makeReady t).trans fun hwaiting => ⟨hwaiting, rfl, id⟩
    · exact fun hwaiting => ⟨hwaiting, rfl, id⟩
  split
  · exact (stillWaits_makeBlocked t).trans fun hwaiting => ⟨hwaiting, rfl, id⟩
  split
  · exact StillWaits.of_not (by simp [Thread.setState])
  split
  · rename_i hzombie
    apply StillWaits.of_not
    change (wakeIfDue jiffies t).state ≠ .waiting
    simp [hzombie.2]
  split
  · exact hwake.trans fun hwaiting => ⟨hwaiting, rfl, id⟩
  · exact hwake

theorem stillWaits_wokenStage (jiffies : UInt64) (hvalid : t.Valid) :
    StillWaits t (wokenStage jiffies t) := by
  unfold wokenStage
  split
  · split
    · apply StillWaits.of_not
      have hready : makeReady (checkAlarm jiffies t) = Thread.setState .ready (checkAlarm jiffies t) :=
        if_pos hvalid
      rw [hready]
      simp [Thread.setState, clearWakeJiffy]
    · exact stillWaits_checkAlarm jiffies t
  · exact StillWaits.refl t

theorem PassedBy.stillWaits (h : PassedBy s i t t') : StillWaits t t' := by
  cases h with
  | idle _ _ hsame =>
      apply StillWaits.of_not
      rw [hsame.state]
      simp [Thread.setState]
  | round _ _ hsame =>
      exact (stillWaits_visitThread s.jiffies t).trans (StillWaits.of_sameWait hsame)
  | stage _ _ hvalid hsame =>
      exact (stillWaits_wokenStage s.jiffies hvalid).trans (StillWaits.of_sameWait hsame)
  | kept _ _ hsame => exact StillWaits.of_sameWait hsame

/-- A thread that is neither ready to run nor due, and to which no event has been posted. -/
structure Dormant (jiffies : UInt64) (t : Thread) : Prop where
  event : t.msgctl.hasEventFromDs = false
  pending : t.hasPendingEvent = false
  live : ¬ Live t.state
  standby : t.state ≠ .standby
  due : t.state = .waiting → jiffies < t.wakeJiffy

theorem Dormant.of_sameWait (h : Dormant jiffies t) (hsame : SameWait t t') :
    Dormant jiffies t' where
  event := by rw [hsame.msgctl, h.event]
  pending := hsame.pending.trans h.pending
  live := by
    rw [hsame.state]
    exact h.live
  standby := by
    rw [hsame.state]
    exact h.standby
  due hwaiting := by
    rw [hsame.wakeJiffy]
    exact h.due (hsame.state.symm.trans hwaiting)

theorem Dormant.of_state (h : Dormant jiffies t)
    (hmsgctl : t'.msgctl.hasEventFromDs = t.msgctl.hasEventFromDs)
    (hpending : t'.hasPendingEvent = t.hasPendingEvent)
    (hstate : t'.state = .blocked ∨ t'.state = .zombie) : Dormant jiffies t' where
  event := hmsgctl.trans h.event
  pending := hpending.trans h.pending
  live := by rcases hstate with heq | heq <;> simp [heq, Live]
  standby := by rcases hstate with heq | heq <;> simp [heq]
  due hwaiting := by rcases hstate with heq | heq <;> simp [heq] at hwaiting

theorem dormant_checkAlarm (h : Dormant jiffies t) : Dormant jiffies (checkAlarm jiffies t) :=
  ⟨h.event, h.pending, h.live, h.standby, h.due⟩

theorem dormant_wakeIfDue (h : Dormant jiffies t) : Dormant jiffies (wakeIfDue jiffies t) := by
  unfold wakeIfDue
  split
  · rename_i hwaiting
    rw [if_neg (UInt64.not_le.mpr (h.due hwaiting.2))]
    exact dormant_checkAlarm h
  · exact h

theorem dormant_visitThread (h : Dormant jiffies t) : Dormant jiffies (visitThread jiffies t) := by
  have hwake := dormant_wakeIfDue h
  unfold visitThread
  rw [if_neg (by simp [h.event])]
  split
  · by_cases hvalid : t.Valid
    · rw [makeBlocked, if_pos hvalid]
      exact h.of_state rfl rfl (.inl rfl)
    · rw [makeBlocked, if_neg hvalid]
      exact ⟨h.event, h.pending, h.live, h.standby, h.due⟩
  split
  · exact h.of_state rfl rfl (.inr rfl)
  split
  · exact ⟨hwake.event, hwake.pending, hwake.live, hwake.standby, hwake.due⟩
  split
  · exact ⟨hwake.event, hwake.pending, hwake.live, hwake.standby, hwake.due⟩
  · exact hwake

theorem dormant_wokenStage (h : Dormant jiffies t) : Dormant jiffies (wokenStage jiffies t) := by
  unfold wokenStage
  split
  · rename_i hwaiting
    rw [if_neg (UInt64.not_le.mpr (h.due hwaiting))]
    exact dormant_checkAlarm h
  · exact h

theorem PassedBy.dormant (h : PassedBy s i t t') (hi : i ≠ 0) (hdormant : Dormant s.jiffies t) :
    Dormant s.jiffies t' := by
  cases h with
  | idle _ hidle _ => exact absurd hidle hi
  | round _ _ hsame => exact (dormant_visitThread hdormant).of_sameWait hsame
  | stage _ _ _ hsame => exact (dormant_wokenStage hdormant).of_sameWait hsame
  | kept _ _ hsame => exact hdormant.of_sameWait hsame

/-- Nothing is asked of the thread that the round robin pass serves before the wake-up. -/
def Unflagged (t : Thread) : Prop :=
  t.msgctl.hasEventFromDs = false ∧ t.msgctl.blockInProgress = false ∧
    t.deferred.exitInProgress = false

instance (t : Thread) : Decidable (Unflagged t) :=
  inferInstanceAs (Decidable (_ ∧ _))

/-- The passes under this policy that walk the threads get to the wake-up check of this one. -/
def Reaches (policy : Policy) (i : Nat) (t : Thread) : Prop :=
  match policy with
  | .rr => i = 0 ∨ Unflagged t
  | .priorityInterleaving | .invalid => i ≠ 0

def Due (jiffies : UInt64) (t : Thread) : Prop :=
  t.Valid ∧ t.state = .waiting ∧ t.wakeJiffy ≤ jiffies

theorem Unflagged.of_sameWait (h : Unflagged t) (hsame : SameWait t t') : Unflagged t' := by
  unfold Unflagged
  rw [hsame.msgctl, hsame.exit]
  exact h

theorem Reaches.of_sameWait {policy : Policy} (h : Reaches policy i t) (hsame : SameWait t t') :
    Reaches policy i t' := by
  cases policy with
  | rr => exact h.imp_right fun hflags => hflags.of_sameWait hsame
  | priorityInterleaving => exact h
  | invalid => exact h

theorem wakeIfDue_unflagged (h : Unflagged t) : Unflagged (wakeIfDue jiffies t) := by
  have hexit : (wakeIfDue jiffies t).deferred = t.deferred := by
    unfold wakeIfDue makeReady
    split
    · split
      · split <;> rfl
      · rfl
    · rfl
  unfold Unflagged
  rw [wakeIfDue_msgctl, hexit]
  exact h

theorem visitThread_unflagged (h : Unflagged t) (hready : t.state = .ready ∨ Due jiffies t) :
    (visitThread jiffies t).state = .ready ∧ Unflagged (visitThread jiffies t) := by
  obtain ⟨hevent, hblock, hexit⟩ := h
  have hflags : Unflagged (wakeIfDue jiffies t) := wakeIfDue_unflagged ⟨hevent, hblock, hexit⟩
  have hstate : (wakeIfDue jiffies t).state = .ready := by
    rcases hready with hready | ⟨hvalid, hwaiting, hdue⟩
    · rw [wakeIfDue, if_neg (by simp [hready])]
      exact hready
    · exact ((wakeIfDue_ready jiffies t).mpr ⟨hvalid, .inr ⟨hwaiting, hdue⟩⟩).2
  unfold visitThread
  rw [if_neg (by simp [hevent]), if_neg (by simp [hblock]), if_neg (by simp [hexit]),
    if_neg (by simp [hstate])]
  split
  · exact ⟨hstate, hflags⟩
  · exact ⟨hstate, hflags⟩

theorem PassedBy.awake (h : PassedBy s i t t') (hreaches : Reaches s.scheduler.policy i t)
    (hready : t.state = .ready ∨ Walks s ∧ Due s.jiffies t) :
    t'.state = .ready ∧ Reaches s.scheduler.policy i t' := by
  cases h with
  | idle hpolicy hi hsame =>
      rw [hpolicy]
      exact ⟨hsame.state, .inl hi⟩
  | round hpolicy hi hsame =>
      rw [hpolicy] at hreaches ⊢
      have hflags : Unflagged t := hreaches.resolve_left hi
      obtain ⟨hstate, hflags'⟩ := visitThread_unflagged hflags (hready.imp_right And.right)
      exact ⟨hsame.state.trans hstate, .inr (hflags'.of_sameWait hsame)⟩
  | stage hpolicy hi hvalid hsame =>
      rw [hpolicy]
      refine ⟨?_, hi⟩
      rw [hsame.state]
      rcases hready with hready | ⟨_, _, hwaiting, hdue⟩
      · rw [wokenStage_ready s.jiffies hready]
        exact hready
      · have hmade : makeReady (checkAlarm s.jiffies t) =
            Thread.setState .ready (checkAlarm s.jiffies t) := if_pos hvalid
        rw [wokenStage, if_pos hwaiting, if_pos hdue, hmade]
        rfl
  | kept hnot hunreached hsame =>
      refine ⟨?_, hreaches.of_sameWait hsame⟩
      rcases hready with hready | ⟨hwalks, hdue⟩
      · exact hsame.state.trans hready
      · rcases hwalks.2 with hpolicy | ⟨hpolicy, _⟩
        · have hlocked := hnot hpolicy
          exact absurd (hlocked.symm.trans hwalks.1) (by decide)
        · rw [hpolicy] at hreaches
          exact absurd ⟨hwalks, hreaches, hdue.1⟩ hunreached

end Gramado.Ke.WakeUps
