import Gramado.Ke.Stages

/-! Threads that have ended or want to exit, and what the passes of the two schedulers do with
them. -/

namespace Gramado.Ke.Doomed

open Ke.Table Ke.RoundRobin

def IsDoomed (t : Thread) : Prop :=
  t.state = .zombie ∨ t.state = .dead ∨ t.deferred.exitInProgress = true

instance (t : Thread) : Decidable (IsDoomed t) :=
  inferInstanceAs (Decidable (_ ∨ _))

def Live (state : ThreadState) : Prop :=
  state = .ready ∨ state = .running

instance (state : ThreadState) : Decidable (Live state) :=
  inferInstanceAs (Decidable (_ ∨ _))

/-- A doomed thread stays doomed, and is not put back to `READY` or `RUNNING`. -/
def Kept (t t' : Thread) : Prop :=
  IsDoomed t → IsDoomed t' ∧ (Live t'.state → t'.state = t.state)

theorem Kept.refl (t : Thread) : Kept t t := fun h => ⟨h, fun _ => rfl⟩

variable {t u v t' : Thread} {R : Thread → Thread → Prop} {s s' : KernelState} {i : Nat}
  {jiffies : UInt64}

theorem Kept.trans (htu : Kept t u) (huv : Kept u v) : Kept t v := by
  intro h
  obtain ⟨hu, hlive⟩ := htu h
  obtain ⟨hv, hlive'⟩ := huv hu
  refine ⟨hv, ?_⟩
  intro hl
  have heq := hlive' hl
  rw [heq]
  rw [heq] at hl
  exact hlive hl

def Each (R : Thread → Thread → Prop) (s s' : KernelState) : Prop :=
  ∀ i, Option.Rel R (s.threads.threadList i) (s'.threads.threadList i)

theorem Each.trans {t u : KernelState} (hR : ∀ a b c, R a b → R b c → R a c) (hst : Each R s t)
    (htu : Each R t u) :
    Each R s u := by
  intro i
  have hab := hst i
  have hbc := htu i
  generalize s.threads.threadList i = a at hab ⊢
  generalize t.threads.threadList i = b at hab hbc
  generalize u.threads.threadList i = c at hbc ⊢
  cases hab with
  | none =>
      cases hbc
      exact .none
  | some hab =>
      cases hbc with
      | some hbc => exact .some (hR _ _ _ hab hbc)

theorem Each.mono {R' : Thread → Thread → Prop} (hR : ∀ a b, R a b → R' a b) (h : Each R s s') :
    Each R' s s' := by
  intro i
  have hi := h i
  generalize s.threads.threadList i = a at hi ⊢
  generalize s'.threads.threadList i = b at hi ⊢
  cases hi with
  | none => exact .none
  | some hab => exact .some (hR _ _ hab)

theorem Each.of_eq (hR : ∀ t, R t t) (h : s'.threads = s.threads) : Each R s s' := by
  intro i
  rw [h]
  cases s.threads.threadList i with
  | none => exact .none
  | some t => exact .some (hR t)

theorem Each.of_map (hR : ∀ t, R t t)
    {f : Thread → Thread}
    (h : ∀ j, s'.threads.threadList j =
      if j = i then (s.threads.threadList i).map f else s.threads.threadList j)
    (hi : ∀ t, s.threads.threadList i = some t → R t (f t)) : Each R s s' := by
  intro j
  rw [h j]
  split
  · rename_i heq
    rw [heq]
    cases ht : s.threads.threadList i with
    | none => exact .none
    | some t => exact .some (hi t ht)
  · cases s.threads.threadList j with
    | none => exact .none
    | some t => exact .some (hR t)

theorem Each.modify (hR : ∀ t, R t t) (s : KernelState) (i : Nat) (f : Thread → Thread)
    (hf : ∀ t, (f t).tid = t.tid) (hi : ∀ t, s.threads.threadList i = some t → R t (f t)) :
    Each R s (s.modify i f hf) :=
  Each.of_map hR (threadList_modify s.threads i f hf) hi

theorem Each.modifyTid (hR : ∀ t, R t t) (s : KernelState) (i : Nat) (f : Thread → Thread)
    (hf : ∀ t, (f t).tid = t.tid)
    (hi : ∀ t, s.threads.threadList i = some t → R t (if t.Valid then f t else t)) :
    Each R s { s with threads := s.threads.modifyTid i f hf } :=
  Each.of_map hR (threadList_modifyTid s.threads i f hf) hi

theorem Each.of_some (h : Each R s s') (ht : s.threads.threadList i = some t) :
    ∃ t', s'.threads.threadList i = some t' ∧ R t t' := by
  have hi := h i
  rw [ht] at hi
  generalize hs' : s'.threads.threadList i = o at hi
  cases hi with
  | some hR => exact ⟨_, rfl, hR⟩

theorem Each.to_some (h : Each R s s') (ht' : s'.threads.threadList i = some t') :
    ∃ t, s.threads.threadList i = some t ∧ R t t' := by
  have hi := h i
  rw [ht'] at hi
  generalize hs : s.threads.threadList i = o at hi
  cases hi with
  | some hR => exact ⟨_, rfl, hR⟩

structure Passed (t t' : Thread) : Prop where
  kept : Kept t t'
  doomed : IsDoomed t' → IsDoomed t
  pending : t'.hasPendingEvent = t.hasPendingEvent
  exit : t'.deferred.exitInProgress = t.deferred.exitInProgress
  valid : t'.Valid → t.Valid

theorem Passed.refl (t : Thread) : Passed t t := ⟨Kept.refl t, id, rfl, rfl, id⟩

theorem Passed.trans (htu : Passed t u) (huv : Passed u v) : Passed t v where
  kept := htu.kept.trans huv.kept
  doomed h := htu.doomed (huv.doomed h)
  pending := huv.pending.trans htu.pending
  exit := huv.exit.trans htu.exit
  valid h := htu.valid (huv.valid h)

theorem Passed.of_eq (hstate : t'.state = t.state)
    (hexit : t'.deferred.exitInProgress = t.deferred.exitInProgress)
    (hpending : t'.hasPendingEvent = t.hasPendingEvent) (hvalid : t'.Valid → t.Valid) :
    Passed t t' := by
  have hiff : IsDoomed t' ↔ IsDoomed t := by
    rw [IsDoomed, IsDoomed, hstate, hexit]
  exact ⟨fun h => ⟨hiff.mpr h, fun _ => hstate⟩, hiff.mp, hpending, hexit, hvalid⟩

/-- The round robin pass neither wakes up the thread for an event while it exits, nor blocks
it for a message when it has ended. -/
def SafeRound (t : Thread) : Prop :=
  t.Valid →
    (t.msgctl.hasEventFromDs = true → t.state = .waiting ∨ t.state = .blocked →
      t.waitReason.wakes = true → t.deferred.exitInProgress = false) ∧
    (t.msgctl.blockInProgress = true → t.state = .zombie ∨ t.state = .dead →
      t.deferred.exitInProgress = true)

instance (t : Thread) : Decidable (SafeRound t) :=
  inferInstanceAs (Decidable (_ → _ ∧ _))

def SafeStage (jiffies : UInt64) (t : Thread) : Prop :=
  t.Valid → t.state = .waiting → t.wakeJiffy ≤ jiffies → t.deferred.exitInProgress = false

instance (jiffies : UInt64) (t : Thread) : Decidable (SafeStage jiffies t) :=
  inferInstanceAs (Decidable (_ → _))

theorem passed_eventServed (t : Thread) : Passed t (eventServed t) := Passed.of_eq rfl rfl rfl id

theorem passed_endWait (t : Thread) : Passed t (endWait t) := Passed.of_eq rfl rfl rfl id

theorem passed_waitForMessage (t : Thread) : Passed t (waitForMessage t) :=
  Passed.of_eq rfl rfl rfl id

theorem passed_checkAlarm (jiffies : UInt64) (t : Thread) : Passed t (checkAlarm jiffies t) :=
  Passed.of_eq rfl rfl rfl id

theorem passed_balance (t : Thread) : Passed t (balance t) := Passed.of_eq rfl rfl rfl id

theorem passed_freeThread (t : Thread) : Passed t (freeThread t) := by
  have hfreed : ¬ (freeThread t).Valid := by
    rintro ⟨hused, _⟩
    cases hused
  exact Passed.of_eq rfl rfl rfl fun h => absurd h hfreed

theorem passed_setNext (next : Option Nat) (t : Thread) : Passed t (setNext next t) :=
  Passed.of_eq rfl rfl rfl id

theorem passed_setQuantum (quantum : UInt64) (t : Thread) : Passed t (setQuantum quantum t) :=
  Passed.of_eq rfl rfl rfl id

theorem passed_makeReady (h : t.Valid → IsDoomed t → t.state = .ready) :
    Passed t (makeReady t) := by
  unfold makeReady
  split
  · rename_i hvalid
    refine ⟨?_, ?_, rfl, rfl, id⟩
    · intro hdoomed
      have hready := h hvalid hdoomed
      refine ⟨?_, fun _ => hready.symm⟩
      rcases hdoomed with hzombie | hdead | hexit
      · exact absurd (hready.symm.trans hzombie) (by decide)
      · exact absurd (hready.symm.trans hdead) (by decide)
      · exact .inr (.inr hexit)
    · rintro (hzombie | hdead | hexit)
      · cases hzombie
      · cases hdead
      · exact .inr (.inr hexit)
  · exact Passed.refl t

theorem not_doomed_of_waits (hwaits : t.state = .waiting ∨ t.state = .blocked)
    (hexit : t.deferred.exitInProgress = false) : ¬ IsDoomed t := by
  rintro (hzombie | hdead | hexit')
  · rw [hzombie] at hwaits
    exact absurd hwaits (by decide)
  · rw [hdead] at hwaits
    exact absurd hwaits (by decide)
  · exact absurd (hexit'.symm.trans hexit) (by decide)

theorem passed_wakeIfDue (h : t.deferred.exitInProgress = false) :
    Passed t (wakeIfDue jiffies t) := by
  unfold wakeIfDue
  split
  · rename_i hwaiting
    split
    · apply (passed_checkAlarm jiffies t).trans
      apply passed_makeReady
      intro _ hdoomed
      exact absurd hdoomed (not_doomed_of_waits (t := checkAlarm jiffies t) (.inl hwaiting.2) h)
    · exact passed_checkAlarm jiffies t
  · exact Passed.refl t

theorem passed_wakeForEvent (h : SafeRound t) (hevent : t.msgctl.hasEventFromDs = true) :
    Passed t (eventServed
      (if (t.state = .waiting ∨ t.state = .blocked) ∧ t.waitReason.wakes = true then
        endWait (makeReady t)
      else t)) := by
  apply Passed.trans _ (passed_eventServed _)
  split
  · rename_i hwaits
    apply Passed.trans _ (passed_endWait _)
    apply passed_makeReady
    intro hvalid hdoomed
    have hexit := (h hvalid).1 hevent hwaits.1 hwaits.2
    exact absurd hdoomed (not_doomed_of_waits hwaits.1 hexit)
  · exact Passed.refl t

theorem passed_makeBlocked (h : SafeRound t) (hblock : t.msgctl.blockInProgress = true) :
    Passed t (makeBlocked t) := by
  unfold makeBlocked
  split
  · rename_i hvalid
    refine ⟨?_, ?_, rfl, rfl, id⟩
    · intro hdoomed
      refine ⟨.inr (.inr ?_), ?_⟩
      · rcases hdoomed with hzombie | hdead | hexit
        · exact (h hvalid).2 hblock (.inl hzombie)
        · exact (h hvalid).2 hblock (.inr hdead)
        · exact hexit
      · rintro (hlive | hlive) <;> cases hlive
    · rintro (hzombie | hdead | hexit)
      · cases hzombie
      · cases hdead
      · exact .inr (.inr hexit)
  · exact Passed.refl t

theorem visitThread_passed (h : SafeRound t) : Passed t (visitThread jiffies t) := by
  unfold visitThread
  split
  · rename_i hevent
    exact passed_wakeForEvent h hevent.2
  split
  · rename_i hblock
    exact (passed_makeBlocked h hblock.2).trans (passed_waitForMessage _)
  split
  · rename_i hexit
    refine ⟨?_, fun _ => .inr (.inr hexit.2), rfl, rfl, id⟩
    intro _
    refine ⟨.inl rfl, ?_⟩
    rintro (hlive | hlive) <;> cases hlive
  rename_i hexit
  have hwake : Passed t (wakeIfDue jiffies t) := by
    rcases Decidable.em t.Valid with hvalid | hinvalid
    · apply passed_wakeIfDue
      simpa [hvalid.2] using hexit
    · rw [wakeIfDue, if_neg fun h => hinvalid h.1]
      exact Passed.refl t
  apply hwake.trans
  split
  · exact passed_freeThread _
  split
  · exact passed_balance _
  · exact Passed.refl _

theorem makeReady_valid (t : Thread) : (makeReady t).Valid ↔ t.Valid := by
  unfold makeReady
  split <;> exact Iff.rfl

theorem makeReady_msgctl (t : Thread) : (makeReady t).msgctl = t.msgctl := by
  unfold makeReady
  split <;> rfl

theorem makeBlocked_msgctl (t : Thread) : (makeBlocked t).msgctl = t.msgctl := by
  unfold makeBlocked
  split <;> rfl

theorem wakeIfDue_valid (jiffies : UInt64) (t : Thread) :
    (wakeIfDue jiffies t).Valid ↔ t.Valid := by
  unfold wakeIfDue
  split
  · split
    · exact makeReady_valid _
    · exact Iff.rfl
  · exact Iff.rfl

theorem wakeIfDue_msgctl (jiffies : UInt64) (t : Thread) :
    (wakeIfDue jiffies t).msgctl = t.msgctl := by
  unfold wakeIfDue
  split
  · split
    · exact makeReady_msgctl _
    · rfl
  · rfl

theorem safeRound_of_no_request
    (h : t.Valid → t.msgctl.hasEventFromDs = false ∧ t.msgctl.blockInProgress = false) :
    SafeRound t := by
  intro hvalid
  obtain ⟨hevent, hblock⟩ := h hvalid
  simp [hevent, hblock]

theorem visitThread_safe (h : SafeRound t) : SafeRound (visitThread jiffies t) := by
  unfold visitThread
  split
  · intro hvalid
    refine ⟨fun hevent => (by cases hevent), ?_⟩
    intro hblock hended
    split at hvalid
    · rename_i hwaits
      rw [if_pos hwaits, makeReady, if_pos ((makeReady_valid t).mp hvalid)] at hended
      rcases hended with hzombie | hdead
      · cases hzombie
      · cases hdead
    · rename_i hwaits
      rw [if_neg hwaits] at hblock hended ⊢
      exact (h hvalid).2 hblock hended
  rename_i hevent
  split
  · rename_i hblock
    apply safeRound_of_no_request
    intro _
    refine ⟨?_, rfl⟩
    change (makeBlocked t).msgctl.hasEventFromDs = false
    rw [makeBlocked_msgctl]
    simpa [hblock.1] using hevent
  rename_i hblock
  split
  · rename_i hexit
    intro _
    refine ⟨?_, fun _ _ => hexit.2⟩
    rintro _ (hwaits | hwaits) <;> cases hwaits
  have hquiet : SafeRound (wakeIfDue jiffies t) := by
    apply safeRound_of_no_request
    intro hvalid
    have hmagic := ((wakeIfDue_valid jiffies t).mp hvalid).2
    rw [wakeIfDue_msgctl]
    simpa [hmagic] using And.intro hevent hblock
  split
  · rintro ⟨hused, _⟩
    cases hused
  split
  · exact hquiet
  · exact hquiet

end Gramado.Ke.Doomed
