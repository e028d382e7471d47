import Gramado.Ke.Passes

/-! The queue that `__build_stage_queue` builds for a stage. -/

namespace Gramado.Ke.StageQueue

open Library Library.ListBuilding Ke.Table Ke.RoundRobin Ke.Stages Ke.Doomed Ke.Passes

def OnlyThreads (s u : KernelState) : Prop :=
  ∃ threads, u = { s with threads := threads }

variable {s u : KernelState} {i : Nat} {t v : Thread} {priority quantum : UInt64} {q : StageQueue}
  {visited : List Nat} {stage : Int}

theorem OnlyThreads.trans {t : KernelState} (hst : OnlyThreads s t) (htu : OnlyThreads t u) :
    OnlyThreads s u := by
  obtain ⟨_, rfl⟩ := hst
  obtain ⟨_, rfl⟩ := htu
  exact ⟨_, rfl⟩

/-- What a stage makes of a thread, apart from the links between the threads. -/
def stagedThread (jiffies priority quantum : UInt64) (t : Thread) : Thread :=
  if t.Valid then
    if t.priority = priority ∧ (wokenStage jiffies t).state = .ready then
      resetStage quantum false (wokenStage jiffies t)
    else wokenStage jiffies t
  else t

/-- The thread at the place `i` is one that the stage takes. -/
def staged (s : KernelState) (priority : UInt64) (i : Nat) : Bool :=
  match s.threads.threadList i with
  | none => false
  | some t => t.Valid ∧ t.priority = priority ∧ (wokenStage s.jiffies t).state = .ready

theorem staged_eq (priority : UInt64) (ht : s.threads.threadList i = some t) :
    staged s priority i = decide (t.Valid ∧ t.priority = priority ∧
      (wokenStage s.jiffies t).state = .ready) := by
  rw [staged, ht]

theorem staged_exists (h : staged s priority i = true) : ∃ t, s.threads.threadList i = some t := by
  unfold staged at h
  split at h
  · cases h
  · rename_i t ht
    exact ⟨t, ht⟩

theorem makeReady_priority (t : Thread) :
    (makeReady t).priority = t.priority ∧ (makeReady t).basePriority = t.basePriority := by
  unfold makeReady
  split <;> exact ⟨rfl, rfl⟩

theorem wokenStage_priority (jiffies : UInt64) (t : Thread) :
    (wokenStage jiffies t).priority = t.priority ∧
      (wokenStage jiffies t).basePriority = t.basePriority := by
  unfold wokenStage
  split
  · split
    · exact makeReady_priority (checkAlarm jiffies t)
    · exact ⟨rfl, rfl⟩
  · exact ⟨rfl, rfl⟩

theorem wokenStage_valid (jiffies : UInt64) (t : Thread) :
    (wokenStage jiffies t).Valid ↔ t.Valid := by
  unfold wokenStage
  split
  · split
    · exact makeReady_valid (checkAlarm jiffies t)
    · exact Iff.rfl
  · exact Iff.rfl

theorem wakeStage_only (i : Nat) (t : Thread) : OnlyThreads s (wakeStage s i t) := by
  unfold wakeStage
  split
  · dsimp only
    split
    · exact ⟨_, rfl⟩
    · exact ⟨_, rfl⟩
  · exact ⟨_, rfl⟩

theorem appendStage_spec {L : Nat → Option Thread} (quantum : UInt64)
    (h : q.kernel.threads.threadList = Function.update L i (some t)) (hne : q.tail ≠ i)
    (hinit : q.kernel.initThread ≠ some i) :
    (appendStage quantum q i).kernel.threads.threadList =
        Function.update (Function.update L q.tail ((L q.tail).map (setNext (some i)))) i
          (some (setNext none (resetStage quantum false t))) ∧
      OnlyThreads q.kernel (appendStage quantum q i).kernel := by
  have hclear := modify_update h (setNext none) fun _ => rfl
  have hlink : ((q.kernel.threads.modify i (setNext none) fun _ => rfl).modify q.tail
      (setNext (some i)) fun _ => rfl).threadList =
        Function.update (Function.update L q.tail ((L q.tail).map (setNext (some i)))) i
          (some (setNext none t)) := by
    change Function.update (q.kernel.threads.modify i (setNext none) fun _ => rfl).threadList
      q.tail _ = _
    rw [hclear, Function.update_of_ne hne, Function.update_comm hne.symm]
  have hinit' : ((q.kernel.modify i (setNext none) fun _ => rfl).modify q.tail (setNext (some i))
      fun _ => rfl).initThread ≠ some i := hinit
  have hreset := modify_update hlink (resetStage quantum false) fun _ => rfl
  unfold appendStage
  dsimp only
  rw [decide_eq_false hinit']
  exact ⟨hreset, _, rfl⟩

theorem stageVisit_spec (priority quantum : UInt64) (ht : q.kernel.threads.threadList i = some t)
    (hne : q.tail ≠ i) (hinit : q.kernel.initThread ≠ some i) :
    OnlyThreads q.kernel (stageVisit priority quantum q i).kernel ∧
      (staged q.kernel priority i = true ∧ (stageVisit priority quantum q i).tail = i ∧
          (stageVisit priority quantum q i).kernel.threads.threadList =
            Function.update (Function.update q.kernel.threads.threadList q.tail
              ((q.kernel.threads.threadList q.tail).map (setNext (some i)))) i
              (some (setNext none (stagedThread q.kernel.jiffies priority quantum t))) ∨
        staged q.kernel priority i = false ∧ (stageVisit priority quantum q i).tail = q.tail ∧
          (stageVisit priority quantum q i).kernel.threads.threadList =
            Function.update q.kernel.threads.threadList i
              (some (stagedThread q.kernel.jiffies priority quantum t))) := by
  obtain ⟨hwake, _⟩ := wakeStage_spec ht
  have hthread : (wakeStage q.kernel i t).threads.threadList i =
      some (wokenStage q.kernel.jiffies t) := by
    rw [hwake, Function.update_self]
  have honly := wakeStage_only (s := q.kernel) i t
  rw [staged_eq priority ht, decide_eq_true_eq, decide_eq_false_iff_not]
  unfold stageVisit stagedThread
  rw [ht]
  dsimp only
  by_cases hvalid : t.Valid
  · rw [if_neg (not_not_intro hvalid), if_pos hvalid]
    unfold stageSelect
    dsimp only
    rw [hthread]
    dsimp only
    rw [(wokenStage_priority q.kernel.jiffies t).1]
    by_cases htaken : t.priority = priority ∧ (wokenStage q.kernel.jiffies t).state = .ready
    · rw [if_pos htaken, if_pos htaken]
      have hinit' : (wakeStage q.kernel i t).initThread ≠ some i := by
        obtain ⟨_, heq⟩ := honly
        rw [heq]
        exact hinit
      obtain ⟨hlist, honly'⟩ := appendStage_spec (q := { q with kernel := wakeStage q.kernel i t })
        quantum hwake hne hinit'
      exact ⟨honly.trans honly', .inl ⟨⟨hvalid, htaken⟩, rfl, hlist⟩⟩
    · rw [if_neg htaken, if_neg htaken]
      exact ⟨honly, .inr ⟨fun h => htaken h.2, rfl, hwake⟩⟩
  · rw [if_pos hvalid, if_neg hvalid]
    refine ⟨⟨_, rfl⟩, .inr ⟨fun h => hvalid h.1, rfl, ?_⟩⟩
    exact (Function.update_eq_self_iff.mpr ht.symm).symm

/-- What the loop has achieved once it has visited some threads. -/
structure StageInv (s : KernelState) (priority quantum : UInt64) (visited : List Nat)
    (q : StageQueue) : Prop where
  only : OnlyThreads s q.kernel
  built : Built nextField (stagedThread s.jiffies priority quantum) (staged s priority) 0
    s.threads.threadList q.kernel.threads.threadList visited q.tail

theorem staged_exists_or (hexists : ∃ t, s.threads.threadList 0 = some t) (i : Nat)
    (h : i = 0 ∨ staged s priority i = true) : ∃ t, s.threads.threadList i = some t := by
  rcases h with rfl | hstaged
  · exact hexists
  · exact staged_exists hstaged

theorem stageInv_visit (h : StageInv s priority quantum visited q) (hinit : s.initThread = some 0)
    (hexists : ∃ t, s.threads.threadList 0 = some t) (hzero : i ≠ 0) (hi : i ∉ visited)
    (hnodup : (0 :: visited).Nodup) :
    StageInv s priority quantum (visited ++ [i]) (stageVisit priority quantum q i) := by
  have hsame := h.built.untouched i hzero hi
  cases ht : s.threads.threadList i with
  | none =>
      have hvisit : stageVisit priority quantum q i = q := by
        rw [stageVisit, hsame, ht]
      have hnot : staged s priority i = false := by
        rw [staged, ht]
      rw [hvisit]
      exact ⟨h.only, built_absent h.built ht hnot⟩
  | some t =>
      obtain ⟨_, heq⟩ := h.only
      have hjiffies : q.kernel.jiffies = s.jiffies := by rw [heq]
      have hqinit : q.kernel.initThread ≠ some i := by
        rw [heq]
        dsimp only
        rw [hinit]
        exact fun heq => hzero (Option.some.inj heq).symm
      have hstaged : staged q.kernel priority i = staged s priority i := by
        rw [staged_eq priority ht, staged_eq priority (hsame.trans ht), hjiffies]
      obtain ⟨front, hfront⟩ := h.built.last
      have hne := (h.built.mem hi hzero hfront (b := q.tail) (by simp)).2
      obtain ⟨honly, hcase⟩ := stageVisit_spec priority quantum (hsame.trans ht) hne hqinit
      rw [hstaged, hjiffies] at hcase
      refine ⟨h.only.trans honly, ?_⟩
      rcases hcase with ⟨htaken, htail, hlist⟩ | ⟨hnot, htail, hlist⟩
      · rw [htail]
        exact built_link h.built (staged_exists_or hexists) hnodup ht hzero hi htaken hlist
      · rw [htail]
        exact built_skip h.built ht hzero hi hnot hlist

theorem stageInv_loop (hinit : s.initThread = some 0)
    (hexists : ∃ t, s.threads.threadList 0 = some t) {is : List Nat}
    (hnodup : (0 :: (visited ++ is)).Nodup) (h : StageInv s priority quantum visited q) :
    StageInv s priority quantum (visited ++ is) (is.foldl (stageVisit priority quantum) q) := by
  induction is generalizing visited q with
  | nil =>
      rw [List.append_nil]
      exact h
  | cons i is ih =>
      have hsplit : visited ++ i :: is = visited ++ [i] ++ is := by simp
      have hfront : (0 :: (visited ++ [i])).Nodup := by
        rw [hsplit, ← List.cons_append] at hnodup
        exact (List.nodup_append.mp hnodup).1
      obtain ⟨hzero, hvisited⟩ := List.nodup_cons.mp hfront
      rw [List.nodup_append] at hvisited
      obtain ⟨hold, _, hdisjoint⟩ := hvisited
      have hvisit := stageInv_visit h hinit hexists (i := i)
        (fun heq => hzero (by simp [heq]))
        (fun hmem => hdisjoint i hmem i (by simp) rfl)
        (List.nodup_cons.mpr ⟨fun hmem => hzero (List.mem_append_left _ hmem), hold⟩)
      rw [hsplit] at hnodup ⊢
      exact ih hnodup hvisit

def initHead (s : KernelState) (t : Thread) : Thread :=
  setNext none (setQuantum
    (if s.displayServer.initialized = true then QUANTUM_MIN else QUANTUM_MAX) t)

/-- The kernel in which the loop of `__build_stage_queue` begins. -/
def stageStart (s : KernelState) : KernelState :=
  (s.modify 0 (setQuantum
    (if s.displayServer.initialized = true then QUANTUM_MIN else QUANTUM_MAX)) (stageQuantum_tid s)).modify
      0 (setNext none) setNext_none_tid

theorem stageStart_threads (s : KernelState) (i : Nat) : (stageStart s).threads.threadList i =
      if i = 0 then (s.threads.threadList 0).map (initHead s) else s.threads.threadList i := by
  have hquantum := threadList_modify s.threads 0 (setQuantum
    (if s.displayServer.initialized = true then QUANTUM_MIN else QUANTUM_MAX)) (fun _ => rfl) i
  have hnext := threadList_modify (s.threads.modify 0 (setQuantum
    (if s.displayServer.initialized = true then QUANTUM_MIN else QUANTUM_MAX)) fun _ => rfl) 0
      (setNext none) (fun _ => rfl) i
  rcases eq_or_ne i 0 with rfl | hne
  · rw [if_pos rfl] at hquantum hnext ⊢
    rw [hquantum, Option.map_map] at hnext
    exact hnext
  · rw [if_neg hne] at hquantum hnext ⊢
    exact hnext.trans hquantum

theorem staged_stageStart (s : KernelState) (priority : UInt64) (hi : i ≠ 0) :
    staged (stageStart s) priority i = staged s priority i := by
  unfold staged
  rw [stageStart_threads, if_neg hi]
  rfl

def SamePriority (t t' : Thread) : Prop :=
  (t'.Valid ↔ t.Valid) ∧ t'.priority = t.priority ∧ t'.basePriority = t.basePriority

theorem SamePriority.refl (t : Thread) : SamePriority t t := ⟨Iff.rfl, rfl, rfl⟩

theorem SamePriority.trans {u : Thread} (htu : SamePriority t u) (huv : SamePriority u v) :
    SamePriority t v :=
  ⟨huv.1.trans htu.1, huv.2.1.trans htu.2.1, huv.2.2.trans htu.2.2⟩

/-- What a stage leaves of a thread: its priorities, and that it is ready to run. -/
structure StageKept (t t' : Thread) : Prop where
  priority : SamePriority t t'
  ready : t.state = .ready → t'.state = .ready

theorem StageKept.refl (t : Thread) : StageKept t t := ⟨SamePriority.refl t, id⟩

theorem StageKept.trans {u : Thread} (htu : StageKept t u) (huv : StageKept u v) : StageKept t v :=
  ⟨htu.priority.trans huv.priority, fun h => huv.ready (htu.ready h)⟩

theorem stageKept_modify {f : Thread → Thread} {hf : ∀ t, (f t).tid = t.tid}
    (h : ∀ t, StageKept t (f t)) :
    Each StageKept s (s.modify i f hf) :=
  Each.modify StageKept.refl s i f hf fun t _ => h t

theorem stageKept_trans {t : KernelState} (hst : Each StageKept s t) (htu : Each StageKept t u) :
    Each StageKept s u :=
  hst.trans (fun _ _ _ hab hbc => hab.trans hbc) htu

theorem stageKept_setNext (next : Option Nat) (t : Thread) : StageKept t (setNext next t) :=
  ⟨⟨Iff.rfl, rfl, rfl⟩, id⟩

theorem stageKept_setQuantum (quantum : UInt64) (t : Thread) : StageKept t (setQuantum quantum t) :=
  ⟨⟨Iff.rfl, rfl, rfl⟩, id⟩

theorem wokenStage_ready (jiffies : UInt64) (h : t.state = .ready) : wokenStage jiffies t = t := by
  rw [wokenStage, if_neg]
  rw [h]
  decide

theorem stagedThread_kept (jiffies priority quantum : UInt64) (t : Thread) :
    StageKept t (stagedThread jiffies priority quantum t) := by
  have hwoken : StageKept t (wokenStage jiffies t) := by
    refine ⟨⟨wokenStage_valid jiffies t, wokenStage_priority jiffies t⟩, ?_⟩
    intro h
    rw [wokenStage_ready jiffies h]
    exact h
  unfold stagedThread
  split
  · split
    · exact ⟨hwoken.priority, hwoken.ready⟩
    · exact hwoken
  · exact StageKept.refl t

theorem stageInv_kept (h : StageInv s priority quantum slots q) : Each StageKept s q.kernel := by
  intro i
  cases ht : s.threads.threadList i with
  | none =>
      rw [h.built.absent i ht]
      exact .none
  | some t =>
      have hmem : i = 0 ∨ i ∈ slots := by
        rcases eq_or_ne i 0 with rfl | hne
        · exact .inl rfl
        · exact .inr ((mem_slots ht).mpr hne)
      obtain ⟨n, hn⟩ := h.built.touched i t ht hmem
      rw [hn]
      constructor
      apply StageKept.trans _ (stageKept_setNext n _)
      split
      · exact StageKept.refl t
      · exact stagedThread_kept s.jiffies priority quantum t

theorem buildStageQueue_spec (hinit : s.initThread = some 0)
    (hexists : ∃ t, s.threads.threadList 0 = some t) (priority : UInt64) :
    OnlyThreads s (buildStageQueue s 0 priority) ∧ Each StageKept s (buildStageQueue s 0 priority) ∧
        LinkedList.Follows (nextOf (buildStageQueue s 0 priority)) (some 0)
          (0 :: slots.filter (staged s priority)) := by
  have hstart : ∃ t, (stageStart s).threads.threadList 0 = some t := by
    obtain ⟨t, ht⟩ := hexists
    exact ⟨initHead s t, by rw [stageStart_threads, if_pos rfl, ht]; rfl⟩
  obtain ⟨t, ht⟩ := hstart
  have hbegin : StageInv (stageStart s) priority (targetQuantum priority) []
      ⟨stageStart s, 0⟩ := ⟨⟨_, rfl⟩, built_begin ht⟩
  have hinit' : (stageStart s).initThread = some 0 := hinit
  have hloop : StageInv (stageStart s) priority (targetQuantum priority) ([] ++ slots)
      (slots.foldl (stageVisit priority (targetQuantum priority)) ⟨stageStart s, 0⟩) :=
    stageInv_loop hinit' ⟨t, ht⟩ slots_nodup hbegin
  rw [List.nil_append] at hloop
  generalize hq : slots.foldl (stageVisit priority (targetQuantum priority)) ⟨stageStart s, 0⟩ = q
    at hloop
  have hbuild : buildStageQueue s 0 priority =
      q.kernel.modify q.tail (setNext none) fun _ => rfl := by
    rw [← hq]
    rfl
  have hfilter : slots.filter (staged (stageStart s) priority) =
      slots.filter (staged s priority) := by
    apply List.filter_congr
    intro i hi
    apply staged_stageStart
    rintro rfl
    exact zero_not_mem_slots hi
  rw [hbuild]
  refine ⟨?_, ?_, ?_⟩
  · obtain ⟨threads, heq⟩ := hloop.only
    rw [heq]
    exact ⟨_, rfl⟩
  · have hbegin : Each StageKept s (stageStart s) :=
      stageKept_trans (stageKept_modify (stageKept_setQuantum _)) (stageKept_modify (stageKept_setNext none))
    exact stageKept_trans (stageKept_trans hbegin (stageInv_kept hloop))
      (stageKept_modify (stageKept_setNext none))
  · have hfollows := built_follows hloop.built (staged_exists_or ⟨t, ht⟩) slots_nodup rfl
    rw [hfilter] at hfollows
    exact hfollows

def nextStage (stage : Int) : Int :=
  if stage = 6 then 1 else stage + 1

def stagePriority (stage : Int) : UInt64 :=
  UInt64.ofNat (7 - stage).toNat

def stageMembers (s : KernelState) (stage : Int) : List Nat :=
  if stage = 0 then [] else slots.filter (staged s (stagePriority stage))

structure StageCalled (s : KernelState) (stage : Int) (u : KernelState) : Prop where
  initThread : u.initThread = s.initThread
  scheduler : u.scheduler = { s.scheduler with stage := nextStage stage }
  threads : Each StageKept s u
  currentq : u.currentq = some 0
  queue : LinkedList.Follows (nextOf u) (some 0) (0 :: stageMembers s stage)

theorem initQueue_called (hexists : ∃ t, s.threads.threadList 0 = some t) :
    StageCalled s 0 (initQueue s 0 1) := by
  refine ⟨rfl, rfl, ?_, rfl, ?_⟩
  · have hnext : Each StageKept s (s.modify 0 (setNext none) fun _ => rfl) :=
      stageKept_modify (stageKept_setNext none)
    exact hnext
  · obtain ⟨t, ht⟩ := hexists
    have hnone : nextOf (initQueue s 0 1) 0 = none := by
      have hlist := threadList_modify s.threads 0 (setNext none) (fun _ => rfl) 0
      rw [if_pos rfl, ht] at hlist
      exact congrArg (fun o => Option.bind o Thread.next) hlist
    have hnil : LinkedList.Follows (nextOf (initQueue s 0 1)) (nextOf (initQueue s 0 1) 0) [] := by
      rw [hnone]
      exact .nil
    exact .cons 0 [] hnil

theorem runStage_called (hinit : s.initThread = some 0)
    (hexists : ∃ t, s.threads.threadList 0 = some t) {next : Int} (hstage : stage ≠ 0)
    (hpriority : priority = stagePriority stage) (hnext : next = nextStage stage) :
    StageCalled s stage (runStage s 0 priority next) := by
  obtain ⟨⟨threads, heq⟩, hsame, hfollows⟩ := buildStageQueue_spec hinit hexists priority
  have hmembers : stageMembers s stage = slots.filter (staged s priority) := by
    rw [stageMembers, if_neg hstage, hpriority]
  rw [← hmembers] at hfollows
  rw [runStage]
  generalize buildStageQueue s 0 priority = b at heq hsame hfollows ⊢
  subst heq hnext
  exact ⟨rfl, rfl, hsame, rfl, hfollows⟩

theorem selectStage_called (hinit : s.initThread = some 0)
    (hexists : ∃ t, s.threads.threadList 0 = some t) (hlow : 0 ≤ stage) (hhigh : stage ≤ 6) :
    StageCalled s stage (selectStage s 0 stage) := by
  have hcases : stage = 0 ∨ stage = 1 ∨ stage = 2 ∨ stage = 3 ∨ stage = 4 ∨ stage = 5 ∨
      stage = 6 := by omega
  rcases hcases with rfl | rfl | rfl | rfl | rfl | rfl | rfl
  · exact initQueue_called hexists
  all_goals exact runStage_called hinit hexists (by decide) rfl rfl

theorem schedulerPriorityinterleaving_called {tid : Int} (hinit : s.initThread = some 0)
    (hmax : s.scheduler.maxStage = 6) (hlow : 0 ≤ s.scheduler.stage) (hhigh : s.scheduler.stage ≤ 6)
    (h : schedulerPriorityinterleaving s = .ok (tid, u)) :
    tid = INIT_TID ∧ StageCalled s s.scheduler.stage u := by
  unfold schedulerPriorityinterleaving at h
  split at h
  · cases h
  split at h
  · cases h
  dsimp only at h
  rw [hinit, hmax, if_neg (by omega)] at h
  dsimp only at h
  split at h
  · cases h
  rename_i t ht
  split at h
  · cases h
  · cases h
    exact ⟨s.threads.tid_eq 0 t ht, selectStage_called hinit ⟨t, ht⟩ hlow hhigh⟩

end Gramado.Ke.StageQueue
