import Gramado.Ke.Rotation

/-! How often a thread that is ready to run may be passed over under the round robin policy. -/

namespace Gramado.Ke.BoundedBypass

open Library Library.Run Library.Rounds Ke.Table Ke.RoundRobin Ke.TaskSwitch Ke.Doomed Ke.Rotation

/-- A task switch, or what the threads do between two of them. -/
inductive KernelEvent where
  | taskSwitch (fuel : Nat)
  | meanwhile (f : KernelState → KernelState)

/-- An event with what runs behind it and the kernel around it. -/
structure KernelTurn where
  before : KernelState
  out : Switched
  after : KernelState

def turnStep (s : KernelState) : KernelEvent → Except String (KernelTurn × KernelState)
  | .taskSwitch fuel =>
      match tsTaskSwitch fuel s with
      | .error e => .error e
      | .ok (out, u) => .ok (⟨s, out, u⟩, u)
  | .meanwhile f => .ok (⟨s, .same, f s⟩, f s)

/-- Threads block, sleep, wake up, exit and are created. None runs but by the task switch, none
gets ready for its first run twice, and the links belong to the scheduler. -/
structure Meanwhile (s u : KernelState) : Prop where
  currentThread : u.currentThread = s.currentThread
  currentq : u.currentq = s.currentq
  threads : ∀ i t, s.threads.threadList i = some t →
    ∃ t', u.threads.threadList i = some t' ∧ Calm t t'
  created : ∀ i t', s.threads.threadList i = none → u.threads.threadList i = some t' →
    t'.state ≠ .running

def Allowed (s : KernelState) : KernelEvent → Prop
  | .taskSwitch _ => s.scheduler.policy = .rr ∧ pendingResponder s = none
  | .meanwhile f => Meanwhile s (f s)

structure Booted (s : KernelState) : Prop where
  currentThread : s.currentThread = 0
  currentq : s.currentq = some 0
  init : ∃ t, s.threads.threadList 0 = some t ∧ t.state = .running ∧ t.next = none
  running : ∀ i t, s.threads.threadList i = some t → t.state = .running → i = 0

variable {s u : KernelState} {events : List KernelEvent} {before rest between : List KernelTurn}
  {i k : Nat} {last second : KernelTurn}

theorem Booted.rotating (h : Booted s) : Rotating s := by
  obtain ⟨t, ht, hrunning, hnext⟩ := h.init
  have hqueue : Queue s [0] := by
    refine ⟨?_, List.pairwise_singleton _ 0, ?_⟩
    · have hend : nextOf s 0 = none := by
        rw [nextOf, ht]
        exact hnext
      rw [h.currentq]
      apply LinkedList.Follows.cons
      rw [hend]
      exact .nil
    · intro i hi
      rw [List.mem_singleton.mp hi]
      refine ⟨t, ht, ?_⟩
      rw [hrunning]
      exact not_fresh_running
  apply rotating_of_queue hqueue
  intro i t' ht' hrun
  rw [h.running i t' ht' hrun, h.currentThread]
  rfl

theorem rotating_meanwhile (h : Rotating s) (hmeanwhile : Meanwhile s u) :
    Rotating u ∧ roundOf u = roundOf s := by
  have hqueue : Queue u (roundOf s) := by
    refine ⟨?_, h.queue.sorted, ?_⟩
    · rw [hmeanwhile.currentq]
      apply h.queue.follows.congr
      intro i hi
      obtain ⟨t, ht, _⟩ := h.queue.members i hi
      obtain ⟨t', ht', _, hnext⟩ := hmeanwhile.threads i t ht
      rw [nextOf, nextOf, ht, ht']
      exact hnext
    · intro i hi
      obtain ⟨t, ht, hfresh⟩ := h.queue.members i hi
      obtain ⟨t', ht', hrests, _⟩ := hmeanwhile.threads i t ht
      exact ⟨t', ht', fun hfresh' => hfresh (hrests.2 hfresh')⟩
  refine ⟨rotating_of_queue hqueue ?_, hqueue.roundOf_eq⟩
  intro i t' ht' hrunning
  rw [hmeanwhile.currentThread]
  cases ht : s.threads.threadList i with
  | none => exact absurd hrunning (hmeanwhile.created i t' ht ht')
  | some t =>
      obtain ⟨t'', ht'', hrests, _⟩ := hmeanwhile.threads i t ht
      rw [ht'] at ht''
      cases ht''
      exact h.running i t ht (hrests.1 hrunning)

theorem turnStep_spec {event : KernelEvent} {turn : KernelTurn} (hs : Rotating s)
    (hallowed : Allowed s event) (h : turnStep s event = .ok (turn, u)) :
    turn.before = s ∧ turn.after = u ∧ Rotating u ∧ Outcome s turn.out u := by
  cases event with
  | taskSwitch fuel =>
      dsimp only [turnStep] at h
      split at h
      · cases h
      rename_i out v hswitch
      cases h
      exact ⟨rfl, rfl, tsTaskSwitch_outcome hs hallowed.1 hallowed.2 hswitch⟩
  | meanwhile f =>
      cases h
      obtain ⟨hu, hround⟩ := rotating_meanwhile hs hallowed
      exact ⟨rfl, rfl, hu, .same _ hround⟩

/-- Turns of which each starts where the one before it has ended. -/
inductive Chained : KernelState → List KernelTurn → Prop where
  | nil (s : KernelState) : Chained s []
  | cons {s : KernelState} {turn : KernelTurn} {turns : List KernelTurn}
      (hbefore : turn.before = s) (hafter : Rotating turn.after)
      (houtcome : Outcome s turn.out turn.after) (hrest : Chained turn.after turns) :
      Chained s (turn :: turns)

theorem run_chained {turns : List KernelTurn} (hs : Rotating s)
    (hallowed : Guarded turnStep Allowed s events) (hrun : run turnStep s events = .ok (turns, u)) :
    Chained s turns := by
  induction events generalizing s turns with
  | nil =>
      cases hrun
      exact .nil _
  | cons event events ih =>
      obtain ⟨turn, t, turns', hstep, htail, rfl⟩ := run_cons_ok hrun
      obtain ⟨rfl, rfl, hafter, houtcome⟩ := turnStep_spec hs hallowed.1 hstep
      exact .cons rfl hafter houtcome (ih hafter (hallowed.tail hstep) htail)

theorem Chained.append (h : Chained s (before ++ rest)) : ∃ t, Chained t rest := by
  induction before generalizing s with
  | nil => exact ⟨s, h⟩
  | cons turn before ih =>
      cases h with
      | cons _ _ _ hrest => exact ih hrest

theorem Chained.take (h : Chained s (before ++ rest)) : Chained s before := by
  induction before generalizing s with
  | nil => exact .nil s
  | cons turn before ih =>
      cases h with
      | cons hbefore hafter houtcome hrest => exact .cons hbefore hafter houtcome (ih hrest)

def served : Switched → Option Nat
  | .dispatched i => some i
  | _ => none

/-- The turn gives up the rest of the round, since the next thread in it is not ready. -/
def KernelTurn.Restarts (turn : KernelTurn) : Prop :=
  (∃ i, turn.out = .dispatched i) ∧ Stale turn.before

theorem served_eq_some {out : Switched} : served out = some i ↔ out = .dispatched i := by
  cases out <;> simp [served]

instance (turn : KernelTurn) : Decidable turn.Restarts :=
  decidable_of_iff ((served turn.out).isSome = true ∧ Stale turn.before) <| by
    rw [KernelTurn.Restarts, Option.isSome_iff_exists]
    simp only [served_eq_some]

def KernelTurn.abstract (turn : KernelTurn) : Option Nat × List Nat :=
  (served turn.out, roundOf turn.after)

theorem Chained.turns {turns : List KernelTurn} (h : Chained s turns)
    (hregular : ∀ turn ∈ turns, ¬ turn.Restarts) :
    Turns 0 (roundOf s) (turns.map KernelTurn.abstract) := by
  induction h with
  | nil s => exact .nil (roundOf s)
  | @cons s turn turns hbefore _ houtcome _ ih =>
      have hrest := ih fun turn hmem => hregular turn (List.mem_cons_of_mem _ hmem)
      have hfirst := hregular turn List.mem_cons_self
      refine .cons ?_ hrest
      obtain ⟨before, out, after⟩ := turn
      obtain rfl : before = s := hbefore
      cases houtcome with
      | same _ hround =>
          rw [hround]
          exact .rest _
      | spawned _ _ hround _ _ =>
          rw [hround]
          exact .rest _
      | dispatched i _ rest hround _ _ hturn _ =>
          rw [hround]
          exact hturn fun hstale => hfirst ⟨⟨i, rfl⟩, hstale⟩

theorem Chained.begins {turns : List KernelTurn} (h : Chained s (turns ++ [last]))
    (hwaits : ∀ turn ∈ turns ++ [last], ¬ turn.Restarts ∧ WaitsAt turn.before k) :
    ∀ turn ∈ turns, turn.abstract.1 = some 0 → k ∈ turn.abstract.2 := by
  induction turns generalizing s with
  | nil =>
      intro turn hturn
      cases hturn
  | cons first turns ih =>
      cases h with
      | cons hbefore _ houtcome hrest =>
          change Chained first.after (turns ++ [last]) at hrest
          have hlater := fun turn hmem => hwaits turn (List.mem_cons_of_mem _ hmem)
          have hready : ReadyAt first.after k := by
            cases hnext : turns ++ [last] with
            | nil => simp at hnext
            | cons next rest =>
                have hmem : next ∈ turns ++ [last] := by
                  rw [hnext]
                  exact List.mem_cons_self
                have hwait := (hlater next hmem).2
                rw [hnext] at hrest
                cases hrest with
                | cons hsame _ _ _ =>
                    obtain ⟨t, ht, hwaits'⟩ := hwait
                    rw [hsame] at ht
                    exact ⟨t, ht, hwaits'.2.1⟩
          intro turn hturn hserved
          rcases List.mem_cons.mp hturn with rfl | hmem
          · obtain ⟨hregular, hwait⟩ := hwaits turn List.mem_cons_self
            obtain ⟨before, out, after⟩ := turn
            obtain rfl : before = s := hbefore
            cases houtcome with
            | same _ _ => cases hserved
            | spawned _ _ _ _ _ => cases hserved
            | dispatched i _ rest hround _ _ _ hbegin =>
                have hi : i = 0 := Option.some.inj hserved
                rw [KernelTurn.abstract, hround]
                exact hbegin (fun hstale => hregular ⟨⟨i, rfl⟩, hstale⟩) hi k hwait hready
          · exact ih hrest hlater turn hmem hserved

theorem Chained.outcome {turns : List KernelTurn} (h : Chained s turns) :
    ∀ turn ∈ turns, Rotating turn.after ∧ Outcome turn.before turn.out turn.after := by
  induction h with
  | nil => simp
  | @cons s turn turns hbefore hafter houtcome _ ih =>
      rw [← hbefore] at houtcome
      exact List.forall_mem_cons.mpr ⟨⟨hafter, houtcome⟩, ih⟩

theorem mem_served {turns : List KernelTurn} :
    some k ∈ (turns.map KernelTurn.abstract).map Prod.fst ↔
      ∃ turn ∈ turns, turn.out = .dispatched k := by
  simp [KernelTurn.abstract, served_eq_some]

theorem Chained.turns_concat (h : Chained s (between ++ [last])) (hlast : last.out = .dispatched i)
    (hregular : ∀ turn ∈ between ++ [last], ¬ turn.Restarts) :
    Turns 0 (roundOf s) (between.map KernelTurn.abstract ++ [(some i, roundOf last.after)]) := by
  have hturns := h.turns hregular
  rw [List.map_append, List.map_singleton, KernelTurn.abstract, hlast] at hturns
  exact hturns

theorem Chained.served_between (h : Chained s (between ++ [last])) (hs : Rotating s)
    (hlast : last.out = .dispatched i)
    (hwaits : ∀ turn ∈ between ++ [last], ¬ turn.Restarts ∧ WaitsAt turn.before k)
    (hi : i ∉ (roundOf s).tail) (hne : k ≠ i) (hk : k ∈ (roundOf s).tail ∨ k < i) :
    ∃ turn ∈ between, turn.out = .dispatched k := by
  have hturns := h.turns_concat hlast fun turn hmem => (hwaits turn hmem).1
  obtain ⟨a, rest, hround⟩ := hturns.ne_nil
  have hsorted := hs.queue.sorted
  rw [hround] at hturns hsorted hi hk
  rw [← mem_served]
  apply hturns.served_between hsorted _ _ (Nat.not_lt_zero k) hi hne hk
  · intro turn hmem
    obtain ⟨t, ht, rfl⟩ := List.mem_map.mp hmem
    exact (h.take.outcome t ht).1.queue.sorted
  · intro turn hmem hserved
    obtain ⟨t, ht, rfl⟩ := List.mem_map.mp hmem
    exact h.begins hwaits t ht hserved

theorem Chained.served_or_waits
    (h : Chained s (between ++ second :: (rest ++ [last]))) (hsecond : second.out = .dispatched i)
    (hwaits : ∀ turn ∈ between ++ second :: (rest ++ [last]),
      ¬ turn.Restarts ∧ WaitsAt turn.before k)
    (hi : i ∉ (roundOf s).tail) (hne : k ≠ i) :
    (∃ turn ∈ between, turn.out = .dispatched k) ∨ k ∈ (roundOf second.after).tail := by
  have hsplit : between ++ second :: (rest ++ [last]) = (between ++ [second] ++ rest) ++ [last] :=
    by simp
  rw [hsplit] at h hwaits
  have hbegins := h.begins hwaits
  have hfirst : Chained s (between ++ [second]) := h.take.take
  have hturns := hfirst.turns_concat hsecond fun turn hmem =>
    (hwaits turn (List.mem_append_left _ (List.mem_append_left _ hmem))).1
  obtain ⟨a, round, hround⟩ := hturns.ne_nil
  rw [hround] at hturns hi
  rw [← mem_served]
  apply hturns.served_or_waits_next _ hi hne
  intro turn hmem hserved
  have hmem' : turn ∈ (between ++ [second]).map KernelTurn.abstract := by
    rw [List.map_append, List.map_singleton, KernelTurn.abstract, hsecond]
    exact hmem
  obtain ⟨t, ht, rfl⟩ := List.mem_map.mp hmem'
  exact hbegins t (List.mem_append_left _ ht) hserved

/-- Up to the turn that dispatches it, the thread waits, and no turn gives up a round. -/
def WaitsUntil (k : Nat) : List KernelTurn → Prop
  | [] => True
  | turn :: turns =>
      ¬ turn.Restarts ∧ WaitsAt turn.before k ∧ (turn.out = .dispatched k ∨ WaitsUntil k turns)

instance instDecidableWaitsUntil (k : Nat) : ∀ turns, Decidable (WaitsUntil k turns)
  | [] => inferInstanceAs (Decidable True)
  | turn :: turns =>
      have : Decidable (WaitsUntil k turns) := instDecidableWaitsUntil k turns
      inferInstanceAs (Decidable (_ ∧ _ ∧ (_ ∨ _)))

theorem WaitsUntil.waits {turns : List KernelTurn} (h : WaitsUntil k turns)
    (hnot : ∀ turn ∈ turns, turn.out ≠ .dispatched k) :
    ∀ turn ∈ turns, ¬ turn.Restarts ∧ WaitsAt turn.before k := by
  induction turns with
  | nil => simp
  | cons turn turns ih =>
      obtain ⟨hregular, hwait, hserved | hrest⟩ := h
      · exact absurd hserved (hnot turn List.mem_cons_self)
      · rw [List.forall_mem_cons] at hnot ⊢
        exact ⟨⟨hregular, hwait⟩, ih hrest hnot.2⟩

theorem Chained.served_until (h : Chained s (between ++ [last])) (hs : Rotating s)
    (hlast : last.out = .dispatched i) (hwaits : WaitsUntil k (between ++ [last]))
    (hi : i ∉ (roundOf s).tail) (hne : k ≠ i) (hk : k ∈ (roundOf s).tail ∨ k < i) :
    ∃ turn ∈ between, turn.out = .dispatched k := by
  by_contra hnot
  have hnone : ∀ turn ∈ between ++ [last], turn.out ≠ .dispatched k := by
    intro turn hturn hout
    rcases List.mem_append.mp hturn with hturn | hturn
    · exact hnot ⟨turn, hturn, hout⟩
    · rw [List.mem_singleton.mp hturn, hlast] at hout
      exact hne (Switched.dispatched.inj hout).symm
  exact hnot (h.served_between hs hlast (hwaits.waits hnone) hi hne hk)

theorem Chained.served_twice (h : Chained s (between ++ second :: (rest ++ [last])))
    (hsecond : second.out = .dispatched i) (hlast : last.out = .dispatched i)
    (hwaits : WaitsUntil k (between ++ second :: (rest ++ [last]))) (hi : i ∉ (roundOf s).tail)
    (hne : k ≠ i) :
    ∃ turn ∈ between ++ rest, turn.out = .dispatched k := by
  by_contra hnot
  have hnone : ∀ turn ∈ between ++ second :: (rest ++ [last]), turn.out ≠ .dispatched k := by
    intro turn hturn hout
    rw [List.mem_append, List.mem_cons, List.mem_append, List.mem_singleton] at hturn
    rcases hturn with hturn | rfl | hturn | rfl
    · exact hnot ⟨turn, List.mem_append_left _ hturn, hout⟩
    · rw [hsecond] at hout
      exact hne (Switched.dispatched.inj hout).symm
    · exact hnot ⟨turn, List.mem_append_right _ hturn, hout⟩
    · rw [hlast] at hout
      exact hne (Switched.dispatched.inj hout).symm
  have hall := hwaits.waits hnone
  rcases h.served_or_waits hsecond hall hi hne with ⟨turn, hturn, hout⟩ | hk
  · exact hnot ⟨turn, List.mem_append_left _ hturn, hout⟩
  obtain ⟨t, htail⟩ := h.append
  cases htail with
  | cons _ hrotating houtcome hrest =>
      have hlater : ∀ turn ∈ rest ++ [last], ¬ turn.Restarts ∧ WaitsAt turn.before k :=
        fun turn hmem => hall turn (List.mem_append_right _ (List.mem_cons_of_mem _ hmem))
      obtain ⟨turn, hturn, hout⟩ := hrest.served_between hrotating hlast hlater
        (houtcome.not_mem hrotating (.inl hsecond)) hne (.inl hk)
      exact hnot ⟨turn, List.mem_append_right _ hturn, hout⟩

/-- Round robin: whatever the threads do between the task switches, the dispatched thread was
`READY` and is the only one that runs. Unless the rest of a round is given up, a thread that
waits from one dispatch of the thread `i` on is dispatched before the next one, if it comes later
in the round or has a lower tid than `i`, and before the next but one in any case. -/
theorem bounded_bypass {s u : KernelState} {events : List KernelEvent} {turns : List KernelTurn}
    (hs : Booted s) (hallowed : Guarded turnStep Allowed s events)
    (hrun : run turnStep s events = .ok (turns, u)) :
    (∀ turn ∈ turns, ∀ i, (turn.out = .dispatched i → DispatchedReady turn.after i) ∧
      (turn.out = .dispatched i ∨ turn.out = .spawned i → RunsAlone turn.after i)) ∧
    (∀ before first between second after i k,
      turns = before ++ first :: (between ++ second :: after) →
      first.out = .dispatched i ∨ first.out = .spawned i → second.out = .dispatched i → k ≠ i →
      WaitsUntil k (between ++ [second]) →
      k ∈ (roundOf first.after).tail ∨ k < i → ∃ turn ∈ between, turn.out = .dispatched k) ∧
    (∀ before first between second rest third after i k,
      turns = before ++ first :: (between ++ second :: (rest ++ third :: after)) →
      first.out = .dispatched i ∨ first.out = .spawned i → second.out = .dispatched i →
      third.out = .dispatched i → k ≠ i →
      WaitsUntil k (between ++ second :: (rest ++ [third])) →
      ∃ turn ∈ between ++ rest, turn.out = .dispatched k) := by
  have hchained := run_chained hs.rotating hallowed hrun
  refine ⟨?_, ?_, ?_⟩
  · intro turn hturn i
    obtain ⟨_, houtcome⟩ := hchained.outcome turn hturn
    exact ⟨houtcome.ready, houtcome.alone⟩
  · rintro before first between second after i k rfl hfirst hsecond hne hwaits hk
    obtain ⟨t, hafter⟩ := hchained.append
    cases hafter with
    | cons _ hrotating houtcome hrest =>
        have hsplit : between ++ second :: after = (between ++ [second]) ++ after := by simp
        rw [hsplit] at hrest
        exact hrest.take.served_until hrotating hsecond hwaits
          (houtcome.not_mem hrotating hfirst) hne hk
  · rintro before first between second rest third after i k rfl hfirst hsecond hthird hne hwaits
    obtain ⟨t, hafter⟩ := hchained.append
    cases hafter with
    | cons _ hrotating houtcome hrest =>
        have hsplit : between ++ second :: (rest ++ third :: after) =
            (between ++ second :: (rest ++ [third])) ++ after := by simp
        rw [hsplit] at hrest
        exact hrest.take.served_twice hsecond hthird hwaits
          (houtcome.not_mem hrotating hfirst) hne

theorem meanwhile_setState (s : KernelState) (i : Nat) {state : ThreadState}
    (hrunning : state ≠ .running) (hfresh : ¬ Fresh state) :
    Meanwhile s { s with
      threads := s.threads.modifyTid i (Thread.setState state) fun _ => rfl } := by
  have heach : Each Calm s { s with
      threads := s.threads.modifyTid i (Thread.setState state) fun _ => rfl } := by
    apply Each.modifyTid Calm.refl
    intro t _
    split
    · exact ⟨Rests.of_settled hrunning hfresh, rfl⟩
    · exact Calm.refl t
  refine ⟨rfl, rfl, ?_, ?_⟩
  · exact fun i t ht => heach.of_some ht
  · intro j t' hnone ht'
    obtain ⟨t, ht, _⟩ := heach.to_some ht'
    rw [hnone] at ht
    cases ht

def wakeUp (i : Nat) (s : KernelState) : KernelState :=
  { s with threads := doThreadReady s.threads i }

def block (i : Nat) (s : KernelState) : KernelState :=
  { s with threads := doThreadBlocked s.threads i }

/-- The init thread runs, 1 is ready, and 2 is blocked until the list of the first round has been
built. -/
def lateKernel : KernelState :=
  bootedKernel .rr (ThreadTable.ofFn 3 fun i =>
    newThread 0 i (if i = 0 then .running else if i = 1 then .ready else .blocked))

def lateEvents : List KernelEvent :=
  [.taskSwitch 1, .meanwhile (wakeUp 2), .taskSwitch 1, .taskSwitch 1, .taskSwitch 1,
    .taskSwitch 1, .taskSwitch 1, .taskSwitch 1]

theorem booted_ofFn (n : Nat) (threads : Nat → Thread) (hn : 0 < n)
    (hinit : (threads 0).state = .running) (hnext : (threads 0).next = none)
    (hother : ∀ i, 0 < i → (threads i).state ≠ .running) :
    Booted (bootedKernel .rr (ThreadTable.ofFn n threads)) := by
  have hzero : (bootedKernel .rr (ThreadTable.ofFn n threads)).threads.threadList 0 =
      some { threads 0 with tid := 0 } :=
    if_pos ⟨hn, by decide⟩
  refine ⟨rfl, rfl, ⟨_, hzero, hinit, hnext⟩, ?_⟩
  intro i t ht hrunning
  by_contra hne
  unfold bootedKernel ThreadTable.ofFn at ht
  dsimp only at ht
  split at ht
  · cases ht
    exact hother i (Nat.pos_of_ne_zero hne) hrunning
  · cases ht

theorem lateKernel_booted : Booted lateKernel := by
  apply booted_ofFn 3 _ (by decide) rfl rfl
  intro i hi
  dsimp only [newThread]
  rw [if_neg (Nat.ne_of_gt hi)]
  split <;> decide

def SwitchAllowed (s : KernelState) : KernelEvent → Prop
  | .taskSwitch _ => s.scheduler.policy = .rr ∧ pendingResponder s = none
  | .meanwhile _ => True

instance (s : KernelState) : ∀ event, Decidable (SwitchAllowed s event)
  | .taskSwitch _ => inferInstanceAs (Decidable (_ ∧ _))
  | .meanwhile _ => inferInstanceAs (Decidable True)

theorem guarded_allowed (hswitch : Guarded turnStep SwitchAllowed s events)
    (hother : ∀ f, .meanwhile f ∈ events → ∀ s, Meanwhile s (f s)) :
    Guarded turnStep Allowed s events := by
  have hmeanwhile : Guarded turnStep (fun s event => ∀ f, event = .meanwhile f →
      Meanwhile s (f s)) s events := by
    apply guarded_of_forall
    rintro event hevent s f rfl
    exact hother f hevent s
  apply (hswitch.and hmeanwhile).imp
  rintro s event ⟨hallowed, hf⟩
  cases event with
  | taskSwitch fuel => exact hallowed
  | meanwhile f => exact hf f rfl

/-- A run in which the thread `i` is dispatched twice, and `k` waits all along. -/
def Passes (s : KernelState) (events : List KernelEvent) (i k : Nat) : Prop :=
  Booted s ∧ Guarded turnStep Allowed s events ∧
    ∃ before first between second u,
      run turnStep s events = .ok (before ++ first :: (between ++ [second]), u) ∧
      first.out = .dispatched i ∧ second.out = .dispatched i ∧
      (∀ turn ∈ between ++ [second], WaitsAt turn.before k) ∧
      ∀ turn ∈ between, turn.out ≠ .dispatched k

def lateCheck : Except String (List KernelTurn × KernelState) → Bool
  | .ok ([_, _, _, first, t4, t5, t6, second], _) =>
      decide (first.out = .dispatched 1 ∧ second.out = .dispatched 1 ∧
        (∀ turn ∈ [t4, t5, t6, second], WaitsAt turn.before 2) ∧
        (∀ turn ∈ [t4, t5, t6], turn.out ≠ .dispatched 2) ∧
        WaitsUntil 0 [t4, t5, t6, second])
  | _ => false

variable {r : Except String (List KernelTurn × KernelState)}

theorem late_checked : Guarded turnStep SwitchAllowed lateKernel lateEvents ∧
    lateCheck (run turnStep lateKernel lateEvents) = true := by
  decide +kernel

theorem lateEvents_allowed : Guarded turnStep Allowed lateKernel lateEvents := by
  apply guarded_allowed late_checked.1
  intro f hf s
  have hwake : f = wakeUp 2 := by simpa [lateEvents] using hf
  rw [hwake]
  exact meanwhile_setState s 2 (by decide) not_fresh_ready

theorem of_lateCheck (h : lateCheck r = true) : ∃ t0 t1 t2 first t4 t5 t6 second u,
    r = .ok ([t0, t1, t2, first, t4, t5, t6, second], u) ∧
    first.out = .dispatched 1 ∧ second.out = .dispatched 1 ∧
    (∀ turn ∈ [t4, t5, t6, second], WaitsAt turn.before 2) ∧
    (∀ turn ∈ [t4, t5, t6], turn.out ≠ .dispatched 2) ∧
    WaitsUntil 0 [t4, t5, t6, second] := by
  unfold lateCheck at h
  split at h
  · rename_i t0 t1 t2 first t4 t5 t6 second u
    exact ⟨t0, t1, t2, first, t4, t5, t6, second, u, rfl, of_decide_eq_true h⟩
  · cases h

/-- The init thread runs, 1 to 3 are ready, and 2 gets blocked while it waits for its turn. -/
def staleKernel : KernelState :=
  bootedKernel .rr (ThreadTable.ofFn 4 fun i => newThread 0 i (if i = 0 then .running else .ready))

def staleEvents : List KernelEvent :=
  [.taskSwitch 1, .taskSwitch 1, .taskSwitch 1, .meanwhile (block 2), .taskSwitch 1,
    .taskSwitch 2]

theorem staleKernel_booted : Booted staleKernel := by
  apply booted_ofFn 4 _ (by decide) rfl rfl
  intro i hi
  dsimp only [newThread]
  rw [if_neg (Nat.ne_of_gt hi)]
  decide

def staleCheck : Except String (List KernelTurn × KernelState) → Bool
  | .ok ([_, _, first, t3, t4, second], _) =>
      decide (first.out = .dispatched 1 ∧ second.out = .dispatched 1 ∧
        (∀ turn ∈ [t3, t4, second], WaitsAt turn.before 3) ∧
        ∀ turn ∈ [t3, t4], turn.out ≠ .dispatched 3)
  | _ => false

theorem stale_checked : Guarded turnStep SwitchAllowed staleKernel staleEvents ∧
    staleCheck (run turnStep staleKernel staleEvents) = true := by
  decide +kernel

theorem staleEvents_allowed : Guarded turnStep Allowed staleKernel staleEvents := by
  apply guarded_allowed stale_checked.1
  intro f hf s
  have hblock : f = block 2 := by simpa [staleEvents] using hf
  rw [hblock]
  exact meanwhile_setState s 2 (by decide) (by rintro (h | h) <;> cases h)

theorem of_staleCheck (h : staleCheck r = true) : ∃ t0 t1 first t3 t4 second u,
    r = .ok ([t0, t1, first, t3, t4, second], u) ∧
    first.out = .dispatched 1 ∧ second.out = .dispatched 1 ∧
    (∀ turn ∈ [t3, t4, second], WaitsAt turn.before 3) ∧
    ∀ turn ∈ [t3, t4], turn.out ≠ .dispatched 3 := by
  unfold staleCheck at h
  split at h
  · rename_i t0 t1 first t3 t4 second u
    exact ⟨t0, t1, first, t3, t4, second, u, rfl, of_decide_eq_true h⟩
  · cases h

/-- The init thread is dispatched between two dispatches of 1, since it has the lower tid. -/
theorem bounded_bypass_late :
    ∃ before first between second u,
      run turnStep lateKernel lateEvents = .ok (before ++ first :: (between ++ [second]), u) ∧
      first.out = .dispatched 1 ∧ second.out = .dispatched 1 ∧
      (∃ turn ∈ between, turn.out = .dispatched 0) ∧ RunsAlone second.after 1 := by
  obtain ⟨t0, t1, t2, first, t4, t5, t6, second, u, hrun, hfirst, hsecond, _, _, hwaits⟩ :=
    of_lateCheck late_checked.2
  obtain ⟨hdispatched, hbetween, _⟩ := bounded_bypass lateKernel_booted lateEvents_allowed hrun
  refine ⟨[t0, t1, t2], first, [t4, t5, t6], second, u, hrun, hfirst, hsecond, ?_, ?_⟩
  · exact hbetween [t0, t1, t2] first [t4, t5, t6] second [] 1 0 rfl (.inl hfirst) hsecond
      (by decide) hwaits (.inr (by decide))
  · exact (hdispatched second (by simp) 1).2 (.inl hsecond)

/-- Two runs in which a thread that is `READY` all along is not dispatched between two dispatches
of 1: it was not ready yet when the list of the round was built, or a thread in front of it in
the round got blocked, so that the rest of the round was given up. -/
theorem thread_bypassed : Passes lateKernel lateEvents 1 2 ∧ Passes staleKernel staleEvents 1 3 := by
  constructor
  · obtain ⟨t0, t1, t2, first, t4, t5, t6, second, u, hrun, hfirst, hsecond, hwaits, hnone, _⟩ :=
      of_lateCheck late_checked.2
    exact ⟨lateKernel_booted, lateEvents_allowed, [t0, t1, t2], first, [t4, t5, t6], second, u,
      hrun, hfirst, hsecond, hwaits, hnone⟩
  · obtain ⟨t0, t1, first, t3, t4, second, u, hrun, hfirst, hsecond, hwaits, hnone⟩ :=
      of_staleCheck stale_checked.2
    exact ⟨staleKernel_booted, staleEvents_allowed, [t0, t1], first, [t3, t4], second, u, hrun,
      hfirst, hsecond, hwaits, hnone⟩

end Gramado.Ke.BoundedBypass
