import Gramado.Ke.Mailbox

/-! `sys_get_message2`, which reads the message at an index and may restart the queue. -/

namespace Gramado.Ke.IndexedGet

open Library Ke.Table Ke.Ipc Ke.Mailbox

inductive Failure where
  | panic (message : String)
  /-- A read of `m` before anything is stored in it. -/
  | uninitialised
  deriving DecidableEq, Repr

def seekMessage (index : Nat) (t : Thread) : Thread :=
  { t with msgQueueHead := index }

def restartQueue (t : Thread) : Thread :=
  { t with msgQueueHead := 0, msgQueueTail := 0 }

def leaveSlot (restart : Int) (t : Thread) : Thread :=
  if restart = 1 then restartQueue t else skipMessage t

def requestBlock (t : Thread) : Thread :=
  if t.msgctl.blockOnEmpty = true then
    { t with msgctl := { t.msgctl with blockInProgress := true } }
  else t

def clearSlot (m : Message) (index : Nat) (t : Thread) : Thread :=
  { t with msgQueue := Function.update t.msgQueue index (some (clearMessage m)) }

def leaveInvalid (index : Nat) (restart : Int) (t : Thread) : Thread :=
  leaveSlot restart (seekMessage index t)

def leaveEmpty (index : Nat) (restart : Int) (t : Thread) : Thread :=
  leaveSlot restart (requestBlock (seekMessage index t))

def leaveTaken (m : Message) (index : Nat) (restart : Int) (t : Thread) : Thread :=
  leaveSlot restart (clearSlot m index (seekMessage index t))

theorem leaveSlot_tid (restart : Int) (t : Thread) : (leaveSlot restart t).tid = t.tid := by
  unfold leaveSlot
  split <;> rfl

theorem leaveEmpty_tid (index : Nat) (restart : Int) (t : Thread) :
    (leaveEmpty index restart t).tid = t.tid := by
  rw [leaveEmpty, leaveSlot_tid, requestBlock]
  split <;> rfl

def sysGetMessage2 (s : KernelState) (ubuf : Option (Nat → UInt64)) (index restart : Int) :
    Except Failure (GetOutcome × KernelState) :=
  match ubuf with
  | none => .error (.panic "sys_get_message2: ubuf\n")
  | some words =>
      if s.currentThread < 0 ∨ THREAD_COUNT_MAX ≤ s.currentThread then .ok (⟨0, words⟩, s)
      else
        match s.threads.threadList s.currentThread.toNat with
        | none => .error (.panic "sys_get_message2: t\n")
        | some t =>
            if ¬ t.Valid then .error (.panic "sys_get_message2: t validation\n")
            -- `fail0` looks at `m`, which has no value yet
            else if index < 0 ∨ MSG_QUEUE_MAX ≤ index then .error .uninitialised
            else
              let tid := s.currentThread.toNat
              let i := index.toNat
              match t.msgQueue i with
              | none => .ok (⟨0, words⟩, s.modify tid (seekMessage i) fun _ => rfl)
              | some m =>
                  if ¬ m.Valid then
                    .ok (⟨0, words⟩, s.modify tid (leaveInvalid i restart)
                      fun t => leaveSlot_tid restart (seekMessage i t))
                  else if m.msg ≤ 0 then
                    .ok (⟨0, words⟩, s.modify tid (leaveEmpty i restart)
                      (leaveEmpty_tid i restart))
                  else
                    .ok (⟨1, storeMessage s.jiffies m words⟩,
                      s.modify tid (leaveTaken m i restart)
                        fun t => leaveSlot_tid restart (clearSlot m i (seekMessage i t)))

/-- The thread has all its slots, and the indices are among them. -/
structure QueueState (t : Thread) : Prop where
  valid : t.Valid
  slots : ∀ i, i < MSG_QUEUE_MAX → ∃ m, t.msgQueue i = some m ∧ m.Valid
  head_lt : t.msgQueueHead < MSG_QUEUE_MAX
  tail_lt : t.msgQueueTail < MSG_QUEUE_MAX

def holdsMessage (t : Thread) (i : Nat) : Bool :=
  match t.msgQueue i with
  | none => false
  | some m => m.Valid ∧ 0 < m.msg

/-- The slots of the pending messages, in the order in which gets find them that follow. -/
def pendingSlots (t : Thread) : List Nat :=
  (Ring.window id MSG_QUEUE_MAX t.msgQueueHead MSG_QUEUE_MAX).filter (holdsMessage t)

def fromHead (t : Thread) (i : Nat) : Nat :=
  Ring.offset MSG_QUEUE_MAX t.msgQueueHead i

/-- How far the tail is from the head, which may stand at the same slot of a full queue. -/
def tailFromHead (t : Thread) : Nat :=
  if t.msgQueueTail = t.msgQueueHead ∧ ∀ i, i < MSG_QUEUE_MAX → holdsMessage t i = true then
    MSG_QUEUE_MAX
  else fromHead t t.msgQueueTail

def TailBehind (t : Thread) : Prop :=
  ∀ i ∈ pendingSlots t, fromHead t i < tailFromHead t

/-- A call that ends with the thread `t'` in place of `t` has returned nothing but the pending
message at the index and leaves the others where and in the order they were, with the tail
still behind them. -/
structure Retrieves (t t' : Thread) (index : Int) (out : GetOutcome) : Prop where
  result : out.result = 0 ∨ out.result = 1
  delivers : out.result = 1 → 0 ≤ index ∧ index.toNat ∈ pendingSlots t ∧
    (t.msgQueue index.toNat).map messageContent = some (readContent out.words)
  pending : pendingSlots t' =
    if out.result = 1 then (pendingSlots t).filter (· ≠ index.toNat) else pendingSlots t
  kept : ∀ i ∈ pendingSlots t', t'.msgQueue i = t.msgQueue i
  tail : TailBehind t → TailBehind t'

def RetrievesFrom (s : KernelState) (t : Thread) (index : Int) :
    Except Failure (GetOutcome × KernelState) → Prop
  | .error (.panic _) => True
  | .error .uninitialised => False
  | .ok (out, u) => ∃ t', u.threads.threadList s.currentThread.toNat = some t' ∧
      Retrieves t t' index out

/-- No message but the one at the index is between the head and it, or none is behind it and
the tail is not either. -/
def AloneAhead (t : Thread) (i : Nat) : Prop :=
  (∀ j ∈ pendingSlots t, j ≠ i → fromHead t i < fromHead t j) ∨
    (∀ j ∈ pendingSlots t, j ≠ i → fromHead t j < fromHead t i) ∧
      (TailBehind t → tailFromHead t ≤ fromHead t i)

/-- No message but the one at the index is pending, or the tail was among the messages before
and slot 0 does not stand between two of them. -/
def AloneInQueue (t : Thread) (i : Nat) : Prop :=
  (∀ j ∈ pendingSlots t, j = i) ∨
    ¬ TailBehind t ∧
      ((∀ j ∈ pendingSlots t, j ≠ i → j < t.msgQueueHead) ∨
        ∀ j ∈ pendingSlots t, j ≠ i → t.msgQueueHead ≤ j)

def MayRetrieve (t : Thread) (index restart : Int) : Prop :=
  0 ≤ index ∧ index < MSG_QUEUE_MAX ∧
    if restart = 1 then AloneInQueue t index.toNat else AloneAhead t index.toNat

instance (t : Thread) : Decidable (TailBehind t) :=
  inferInstanceAs (Decidable (∀ i ∈ _, _))

instance (t : Thread) (i : Nat) : Decidable (AloneAhead t i) :=
  inferInstanceAs (Decidable ((∀ j ∈ _, _) ∨ (∀ j ∈ _, _) ∧ _))

variable {t t' : Thread} {i j : Nat} {restart : Int}

theorem mem_pendingSlots (h : t.msgQueueHead < MSG_QUEUE_MAX) :
    i ∈ pendingSlots t ↔ i < MSG_QUEUE_MAX ∧ holdsMessage t i = true := by
  rw [pendingSlots, List.mem_filter, Ring.mem_window_id h le_rfl]
  constructor
  · rintro ⟨⟨hi, _⟩, hholds⟩
    exact ⟨hi, hholds⟩
  · rintro ⟨hi, hholds⟩
    exact ⟨⟨hi, Ring.offset_lt h hi⟩, hholds⟩

/-- The thread `t'` is what `t` is when no message is at the slot `i` any more and the head is
at the slot `head`. -/
structure Leaves (t t' : Thread) (i : Nat) : Prop where
  holds : ∀ j, holdsMessage t' j = (holdsMessage t j && decide (j ≠ i))
  kept : ∀ j, j ≠ i → t'.msgQueue j = t.msgQueue j
  head_lt : t'.msgQueueHead < MSG_QUEUE_MAX

theorem leaves_pending_iff (h : t.msgQueueHead < MSG_QUEUE_MAX) (hleaves : Leaves t t' i) :
    pendingSlots t' = (pendingSlots t).filter (· ≠ i) ↔
      (∀ j ∈ pendingSlots t, j ≠ i → fromHead t t'.msgQueueHead ≤ fromHead t j) ∨
        ∀ j ∈ pendingSlots t, j ≠ i → fromHead t j < fromHead t t'.msgQueueHead := by
  have hfilter : (pendingSlots t).filter (· ≠ i) =
      (Ring.window id MSG_QUEUE_MAX t.msgQueueHead MSG_QUEUE_MAX).filter
        (holdsMessage t') := by
    rw [pendingSlots, List.filter_filter]
    apply List.filter_congr
    intro j _
    rw [hleaves.holds, Bool.and_comm]
  rw [hfilter, pendingSlots, Ring.filter_window_iff h hleaves.head_lt]
  simp only [hleaves.holds, Bool.and_eq_true, decide_eq_true_eq, mem_pendingSlots h, and_imp,
    fromHead]

theorem leaves_tailBehind_iff (h : t.msgQueueHead < MSG_QUEUE_MAX) (hi : i < MSG_QUEUE_MAX)
    (hleaves : Leaves t t' i) :
    TailBehind t' ↔ ∀ j ∈ pendingSlots t, j ≠ i → fromHead t' j < fromHead t' t'.msgQueueTail := by
  have htail : tailFromHead t' = fromHead t' t'.msgQueueTail := by
    apply if_neg
    rintro ⟨_, hfull⟩
    have hempty := hfull i hi
    simp [hleaves.holds] at hempty
  simp only [TailBehind, htail, mem_pendingSlots h, mem_pendingSlots hleaves.head_lt,
    hleaves.holds, Bool.and_eq_true, decide_eq_true_eq, and_imp]

theorem retrieves_iff {index : Int} {out : GetOutcome}
    (h : t.msgQueueHead < MSG_QUEUE_MAX) (hleaves : Leaves t t' i) (hindex : index = i)
    (hresult : out.result = 0 ∧ holdsMessage t i = false ∨ out.result = 1 ∧ i ∈ pendingSlots t ∧
        (t.msgQueue i).map messageContent = some (readContent out.words)) :
    Retrieves t t' index out ↔
      ((∀ j ∈ pendingSlots t, j ≠ i → fromHead t t'.msgQueueHead ≤ fromHead t j) ∨
        ∀ j ∈ pendingSlots t, j ≠ i → fromHead t j < fromHead t t'.msgQueueHead) ∧
      (TailBehind t → TailBehind t') := by
  subst hindex
  rw [← leaves_pending_iff h hleaves]
  have hexpected : (if out.result = 1 then (pendingSlots t).filter (· ≠ i)
      else pendingSlots t) = (pendingSlots t).filter (· ≠ i) := by
    rcases hresult with ⟨hzero, hnone⟩ | ⟨hone, _⟩
    · rw [hzero, if_neg (by decide)]
      symm
      apply List.filter_eq_self.mpr
      intro j hj
      have hholds := ((mem_pendingSlots h).mp hj).2
      apply decide_eq_true
      rintro rfl
      rw [hnone] at hholds
      cases hholds
    · rw [hone, if_pos rfl]
  constructor
  · intro hretrieves
    have hpending := hretrieves.pending
    rw [Int.toNat_natCast, hexpected] at hpending
    exact ⟨hpending, hretrieves.tail⟩
  · rintro ⟨hpending, htail⟩
    constructor
    · rcases hresult with hzero | hone
      · exact .inl hzero.1
      · exact .inr hone.1
    · intro hone
      rcases hresult with hzero | hdelivers
      · rw [hzero.1] at hone
        cases hone
      · exact ⟨by omega, hdelivers.2⟩
    · rw [Int.toNat_natCast, hexpected]
      exact hpending
    · intro j hj
      rw [hpending] at hj
      apply hleaves.kept
      exact of_decide_eq_true (List.mem_filter.mp hj).2
    · exact htail

theorem fromHead_lt (h : QueueState t) (hj : j < MSG_QUEUE_MAX) : fromHead t j < MSG_QUEUE_MAX :=
  Ring.offset_lt h.head_lt hj

theorem fromHead_ne (h : QueueState t) (hi : i < MSG_QUEUE_MAX) (hj : j < MSG_QUEUE_MAX)
    (hne : j ≠ i) : fromHead t j ≠ fromHead t i := by
  have := h.head_lt
  simp only [fromHead, Ring.offset]
  split <;> split <;> omega

theorem tailFromHead_cases (t : Thread) : tailFromHead t = fromHead t t.msgQueueTail ∨
      tailFromHead t = MSG_QUEUE_MAX ∧ fromHead t t.msgQueueTail = 0 := by
  unfold tailFromHead
  split
  · rename_i hfull
    refine .inr ⟨rfl, ?_⟩
    simp [fromHead, Ring.offset, hfull.1]
  · exact .inl rfl

theorem aloneAhead_iff (h : QueueState t) (hi : i < MSG_QUEUE_MAX) (hleaves : Leaves t t' i)
    (hhead : t'.msgQueueHead = nextIndex i) (htail : t'.msgQueueTail = t.msgQueueTail) :
    ((∀ j ∈ pendingSlots t, j ≠ i → fromHead t t'.msgQueueHead ≤ fromHead t j) ∨
        ∀ j ∈ pendingSlots t, j ≠ i → fromHead t j < fromHead t t'.msgQueueHead) ∧
      (TailBehind t → TailBehind t') ↔ AloneAhead t i := by
  have hnext : fromHead t t'.msgQueueHead =
      if fromHead t i + 1 = MSG_QUEUE_MAX then 0 else fromHead t i + 1 := by
    rw [hhead]
    exact Ring.offset_next h.head_lt hi
  have hmoved : ∀ j, j < MSG_QUEUE_MAX → fromHead t' j =
      if fromHead t i < fromHead t j then fromHead t j - fromHead t i - 1
      else if fromHead t i + 1 = MSG_QUEUE_MAX then fromHead t j
      else fromHead t j + MSG_QUEUE_MAX - fromHead t i - 1 := by
    intro j hj
    rw [fromHead, hhead]
    exact Ring.offset_from_next h.head_lt hi hj
  have hslot : ∀ j ∈ pendingSlots t, j ≠ i → fromHead t j < MSG_QUEUE_MAX ∧
      fromHead t j ≠ fromHead t i ∧ j < MSG_QUEUE_MAX := by
    intro j hj hne
    have hjlt := ((mem_pendingSlots h.head_lt).mp hj).1
    exact ⟨fromHead_lt h hjlt, fromHead_ne h hi hjlt hne, hjlt⟩
  have hilt := fromHead_lt h hi
  have htlt := fromHead_lt h h.tail_lt
  have hcases := tailFromHead_cases t
  rw [leaves_tailBehind_iff h.head_lt hi hleaves, htail, hmoved _ h.tail_lt, hnext]
  by_cases hnone : ∀ j ∈ pendingSlots t, j = i
  · constructor
    · intro _
      exact .inl fun j hj hne => absurd (hnone j hj) hne
    · intro _
      exact ⟨.inl fun j hj hne => absurd (hnone j hj) hne,
        fun _ j hj hne => absurd (hnone j hj) hne⟩
  simp only [not_forall] at hnone
  obtain ⟨j₀, hj₀, hne₀⟩ := hnone
  obtain ⟨hlt₀, hside₀, hj₀lt⟩ := hslot j₀ hj₀ hne₀
  constructor
  · rintro ⟨horder, hbehind⟩
    have hbehind₀ : TailBehind t → _ := fun hb => hbehind hb j₀ hj₀ hne₀
    rw [hmoved j₀ hj₀lt] at hbehind₀
    rcases horder with hle | hlt
    · by_cases hend : fromHead t i + 1 = MSG_QUEUE_MAX
      · refine .inr ⟨fun j hj hne => ?_, fun hb => ?_⟩
        · have := hslot j hj hne
          omega
        · have hb₀ := hbehind₀ hb
          rw [if_neg (by omega), if_pos hend, if_neg (by omega), if_pos hend] at hb₀
          omega
      · refine .inl fun j hj hne => ?_
        have hlej := hle j hj hne
        rw [if_neg hend] at hlej
        omega
    · have hend : ¬ fromHead t i + 1 = MSG_QUEUE_MAX := by
        intro hend
        have hlt₀ := hlt j₀ hj₀ hne₀
        rw [if_pos hend] at hlt₀
        omega
      rw [if_neg hend] at hlt
      refine .inr ⟨fun j hj hne => ?_, fun hb => ?_⟩
      · have := hslot j hj hne
        have := hlt j hj hne
        omega
      · have hb₀ := hbehind₀ hb
        have := hlt j₀ hj₀ hne₀
        rw [if_neg (by omega), if_neg hend, if_neg hend] at hb₀
        split at hb₀ <;> omega
  · rintro (hahead | ⟨hpassed, hbehind⟩)
    · have hahead₀ := hahead j₀ hj₀ hne₀
      rw [if_neg (show ¬ fromHead t i + 1 = MSG_QUEUE_MAX by omega),
        if_neg (show ¬ fromHead t i + 1 = MSG_QUEUE_MAX by omega)]
      refine ⟨.inl hahead, fun hb j hj hne => ?_⟩
      have hb' := hb j hj
      have := hahead j hj hne
      have := hslot j hj hne
      rw [hmoved j this.2.2, if_pos (by omega)]
      split <;> omega
    · constructor
      · by_cases hend : fromHead t i + 1 = MSG_QUEUE_MAX
        · rw [if_pos hend]
          exact .inl fun _ _ _ => Nat.zero_le _
        · rw [if_neg hend]
          refine .inr fun j hj hne => ?_
          have := hpassed j hj hne
          omega
      · intro hb j hj hne
        have hle := hbehind hb
        have := hb j hj
        have := hpassed j hj hne
        have := hslot j hj hne
        rw [hmoved j this.2.2, if_neg (show ¬ fromHead t i < fromHead t j by omega),
          if_neg (show ¬ fromHead t i < fromHead t t.msgQueueTail by omega)]
        split <;> omega

theorem aloneInQueue_iff (h : QueueState t) (hi : i < MSG_QUEUE_MAX) (hleaves : Leaves t t' i)
    (hhead : t'.msgQueueHead = 0) (htail : t'.msgQueueTail = 0) :
    ((∀ j ∈ pendingSlots t, j ≠ i → fromHead t t'.msgQueueHead ≤ fromHead t j) ∨
        ∀ j ∈ pendingSlots t, j ≠ i → fromHead t j < fromHead t t'.msgQueueHead) ∧
      (TailBehind t → TailBehind t') ↔ AloneInQueue t i := by
  have hzero : ∀ j, fromHead t' j = j := by
    intro j
    simp [fromHead, Ring.offset, hhead]
  have hbehind : TailBehind t' ↔ ∀ j ∈ pendingSlots t, j = i := by
    rw [leaves_tailBehind_iff h.head_lt hi hleaves, htail]
    simp only [hzero, Nat.not_lt_zero, imp_false, not_not]
  have hside : ∀ j ∈ pendingSlots t, (fromHead t t'.msgQueueHead ≤ fromHead t j ↔
      t.msgQueueHead = 0 ∨ j < t.msgQueueHead) := by
    intro j hj
    have hjlt := ((mem_pendingSlots h.head_lt).mp hj).1
    have := h.head_lt
    rw [hhead]
    simp only [fromHead, Ring.offset]
    split <;> split <;> omega
  rw [hbehind, AloneInQueue]
  constructor
  · rintro ⟨horder, himplies⟩
    by_cases hb : TailBehind t
    · exact .inl (himplies hb)
    refine .inr ⟨hb, ?_⟩
    rcases horder with hle | hlt
    · rcases Nat.eq_zero_or_pos t.msgQueueHead with hz | hpos
      · exact .inr fun j _ _ => by omega
      · refine .inl fun j hj hne => ?_
        have := (hside j hj).mp (hle j hj hne)
        omega
    · refine .inr fun j hj hne => ?_
      have hnot := mt (hside j hj).mpr (Nat.not_le.mpr (hlt j hj hne))
      omega
  · rintro (halone | ⟨hb, horder⟩)
    · exact ⟨.inl fun j hj hne => absurd (halone j hj) hne, fun _ => halone⟩
    refine ⟨?_, fun hb' => absurd hb' hb⟩
    rcases horder with hbefore | hafter
    · exact .inl fun j hj hne => (hside j hj).mpr (.inr (hbefore j hj hne))
    · rcases Nat.eq_zero_or_pos t.msgQueueHead with hz | hpos
      · exact .inl fun j hj _ => (hside j hj).mpr (.inl hz)
      · refine .inr fun j hj hne => Nat.not_le.mp fun hle => ?_
        have := (hside j hj).mp hle
        have := hafter j hj hne
        omega

@[simp] theorem leaveSlot_msgQueue (restart : Int) (t : Thread) :
    (leaveSlot restart t).msgQueue = t.msgQueue := by
  unfold leaveSlot
  split <;> rfl

theorem leaveSlot_head (restart : Int) (t : Thread) : (leaveSlot restart t).msgQueueHead =
      if restart = 1 then 0 else nextIndex t.msgQueueHead := by
  unfold leaveSlot
  split <;> rfl

theorem leaveSlot_tail (restart : Int) (t : Thread) :
    (leaveSlot restart t).msgQueueTail = if restart = 1 then 0 else t.msgQueueTail := by
  unfold leaveSlot
  split <;> rfl

theorem requestBlock_sameQueue (t : Thread) : SameQueue t (requestBlock t) := by
  unfold requestBlock
  split <;> exact ⟨rfl, rfl, rfl, rfl, rfl⟩

theorem leaveSlot_head_lt (h : t.msgQueueHead < MSG_QUEUE_MAX) :
    (leaveSlot restart t).msgQueueHead < MSG_QUEUE_MAX := by
  rw [leaveSlot_head]
  split
  · exact Nat.zero_lt_succ 63
  · exact Ring.next_lt h

theorem leaves_empty (hi : i < MSG_QUEUE_MAX) (hempty : holdsMessage t i = false) (restart : Int) :
    Leaves t (leaveEmpty i restart t) i := by
  obtain ⟨_, _, hqueue, hhead, _⟩ := requestBlock_sameQueue (seekMessage i t)
  have hsame : (leaveEmpty i restart t).msgQueue = t.msgQueue := by
    rw [leaveEmpty, leaveSlot_msgQueue, hqueue]
    rfl
  constructor
  · intro j
    rw [holdsMessage, hsame]
    change holdsMessage t j = _
    rcases eq_or_ne j i with rfl | hne
    · rw [hempty, Bool.false_and]
    · simp [hne]
  · intro j _
    rw [hsame]
  · apply leaveSlot_head_lt
    rw [hhead]
    exact hi

theorem leaves_taken (hi : i < MSG_QUEUE_MAX) (m : Message) (restart : Int) :
    Leaves t (leaveTaken m i restart t) i := by
  have hsame : (leaveTaken m i restart t).msgQueue =
      Function.update t.msgQueue i (some (clearMessage m)) := by
    rw [leaveTaken, leaveSlot_msgQueue]
    rfl
  constructor
  · intro j
    rw [holdsMessage, hsame]
    rcases eq_or_ne j i with rfl | hne
    · simp [clearMessage]
    · simp [holdsMessage, hne]
  · intro j hne
    rw [hsame, Function.update_of_ne hne]
  · exact leaveSlot_head_lt hi

theorem leaves_iff (h : QueueState t) (hi : i < MSG_QUEUE_MAX) (hleaves : Leaves t t' i)
    (hhead : t'.msgQueueHead = if restart = 1 then 0 else nextIndex i)
    (htail : t'.msgQueueTail = if restart = 1 then 0 else t.msgQueueTail) :
    ((∀ j ∈ pendingSlots t, j ≠ i → fromHead t t'.msgQueueHead ≤ fromHead t j) ∨
        ∀ j ∈ pendingSlots t, j ≠ i → fromHead t j < fromHead t t'.msgQueueHead) ∧
      (TailBehind t → TailBehind t') ↔
      if restart = 1 then AloneInQueue t i else AloneAhead t i := by
  split
  · rename_i hrestart
    rw [if_pos hrestart] at hhead htail
    exact aloneInQueue_iff h hi hleaves hhead htail
  · rename_i hrestart
    rw [if_neg hrestart] at hhead htail
    exact aloneAhead_iff h hi hleaves hhead htail

theorem retrievesFrom_modify {s : KernelState}
    (ht : s.threads.threadList s.currentThread.toNat = some t) (index : Int) (out : GetOutcome)
    (f : Thread → Thread) (hf : ∀ t, (f t).tid = t.tid) :
    RetrievesFrom s t index (.ok (out, s.modify s.currentThread.toNat f hf)) ↔
      Retrieves t (f t) index out := by
  have hself := threadList_modify s.threads s.currentThread.toNat f hf s.currentThread.toNat
  rw [if_pos rfl, ht, Option.map_some] at hself
  constructor
  · rintro ⟨t', ht', hretrieves⟩
    have heq := hself.symm.trans ht'
    rwa [Option.some.inj heq]
  · intro hretrieves
    exact ⟨f t, hself, hretrieves⟩

/-- A call with a buffer retrieves if the index is the one of a slot and, without a restart,
the other messages and the tail are all ahead of the slot or else all behind it, or, with a
restart, no other message is pending. -/
theorem get_message2_iff {s : KernelState} {t : Thread} (hcurrent : 0 ≤ s.currentThread)
    (ht : s.threads.threadList s.currentThread.toNat = some t) (h : QueueState t)
    (ubuf : Option (Nat → UInt64)) (index restart : Int) :
    RetrievesFrom s t index (sysGetMessage2 s ubuf index restart) ↔
      ubuf = none ∨ MayRetrieve t index restart := by
  rcases ubuf with _ | words
  · simp [sysGetMessage2, RetrievesFrom]
  have hlt := s.threads.lt_max _ t ht
  have hrange : ¬ (s.currentThread < 0 ∨ (THREAD_COUNT_MAX : Int) ≤ s.currentThread) := by
    omega
  simp only [reduceCtorEq, false_or, sysGetMessage2, if_neg hrange, ht,
    if_neg (not_not_intro h.valid)]
  split
  · rename_i hout
    constructor
    · exact False.elim
    · rintro ⟨hge, hindex, _⟩
      omega
  rename_i hin
  obtain ⟨i, rfl⟩ := Int.eq_ofNat_of_zero_le (show 0 ≤ index by omega)
  have hi : i < MSG_QUEUE_MAX := by omega
  obtain ⟨m, hm, hvalid⟩ := h.slots i hi
  simp only [Int.toNat_natCast, hm, if_neg (not_not_intro hvalid)]
  have hmay : MayRetrieve t i restart ↔
      if restart = 1 then AloneInQueue t i else AloneAhead t i := by
    rw [MayRetrieve, Int.toNat_natCast]
    constructor
    · exact fun hmay => hmay.2.2
    · exact fun halone => ⟨by omega, by omega, halone⟩
  rw [hmay]
  split
  · rename_i hmsg
    have hempty : holdsMessage t i = false := by
      simp only [holdsMessage, hm]
      exact decide_eq_false fun hpos => absurd hpos.2 (by omega)
    have hleaves := leaves_empty hi hempty restart
    obtain ⟨_, _, _, hhead, htail⟩ := requestBlock_sameQueue (seekMessage i t)
    rw [retrievesFrom_modify ht, retrieves_iff h.head_lt hleaves rfl (.inl ⟨rfl, hempty⟩)]
    apply leaves_iff h hi hleaves
    · rw [leaveEmpty, leaveSlot_head, hhead]
      rfl
    · rw [leaveEmpty, leaveSlot_tail, htail]
      rfl
  · rename_i hmsg
    have hholds : i ∈ pendingSlots t := by
      rw [mem_pendingSlots h.head_lt]
      refine ⟨hi, ?_⟩
      simp only [holdsMessage, hm]
      exact decide_eq_true ⟨hvalid, by omega⟩
    have hleaves : Leaves t (leaveTaken m i restart t) i := leaves_taken hi m restart
    rw [retrievesFrom_modify ht, retrieves_iff h.head_lt hleaves rfl]
    · apply leaves_iff h hi hleaves
      · rw [leaveTaken, leaveSlot_head]
        rfl
      · rw [leaveTaken, leaveSlot_tail]
        rfl
    · refine .inr ⟨rfl, hholds, ?_⟩
      rw [hm, readContent_storeMessage]
      rfl

def callerThread : Thread :=
  pushMessage { emptyMessage with msg := 11 }
    (pushMessage { emptyMessage with msg := 10 } (newThread 0 0 .running))

def callerKernel : KernelState :=
  bootedKernel .rr (ThreadTable.ofFn 1 fun _ => callerThread)

theorem callerThread_queueState : QueueState callerThread := by
  refine ⟨⟨rfl, rfl⟩, ?_, by decide, by decide⟩
  intro i _
  simp only [callerThread, pushMessage, newThread, Function.update_apply]
  split
  · exact ⟨_, rfl, rfl, rfl⟩
  split
  · exact ⟨_, rfl, rfl, rfl⟩
  · exact ⟨emptyMessage, by simp, rfl, rfl⟩

/-- The read at the head is right. -/
theorem get_message2_iff_head :
    RetrievesFrom callerKernel callerThread 0
      (sysGetMessage2 callerKernel (some fun _ => 0) 0 0) := by
  have hthread : callerKernel.threads.threadList callerKernel.currentThread.toNat =
      some callerThread := rfl
  have halone : AloneAhead callerThread 0 := by decide
  exact (get_message2_iff (by decide) hthread callerThread_queueState (some fun _ => 0) 0
    0).mpr (.inr ⟨by decide, by decide, halone⟩)

/-- An index behind the last slot leads to a pointer without a value, and the restart brings
the tail to the slot of the first message, before the second. -/
theorem restart_loses_tail :
    ¬ RetrievesFrom callerKernel callerThread 64
        (sysGetMessage2 callerKernel (some fun _ => 0) 64 0) ∧
      ¬ RetrievesFrom callerKernel callerThread 0
        (sysGetMessage2 callerKernel (some fun _ => 0) 0 1) := by
  constructor
  · exact id
  · rintro ⟨t', ht', hretrieves⟩
    cases ht'
    exact absurd (hretrieves.tail (by decide)) (by decide)

end Gramado.Ke.IndexedGet
