import Gramado.Library.Grouping
import Gramado.Ke.Mailbox

/-! Messages that repeat the last one of a queue: what `ipc_post_message_to_tid` merges, and
what a thread is given for it. -/

namespace Gramado.Ke.Coalescing

open Library Library.Grouping Ke.Table Ke.Ipc Ke.Mailbox

/-- A message that was posted, by the routine that merges or by the one that does not. -/
structure Posted where
  message : Message
  merges : Bool

def joins (last p : Posted) : Bool :=
  p.merges && decide (Repeats p.message.receiverTid p.message.msg p.message.long1 last.message)

def absorb (last m : Message) : Message :=
  if m.msg = MSG_MOUSEMOVE then
    { last with
      long1 := m.long1, long2 := m.long2, long3 := m.long3, long4 := m.long4
      senderTid := m.senderTid, receiverTid := m.receiverTid }
  else if m.msg = MSG_KEYDOWN then
    { last with
      long1 := m.long1, long2 := m.long2, long3 := m.long3, long4 := last.long4 + 1
      senderTid := m.senderTid, receiverTid := m.receiverTid }
  else
    { last with
      long3 := m.long3, long4 := last.long4 + 1
      senderTid := m.senderTid, receiverTid := m.receiverTid }

def merged : List Posted → Message
  | [] => emptyMessage
  | p :: run => run.foldl (fun last q => absorb last q.message) p.message

/-- The machine and the messages that were posted to one thread and not returned to it yet. -/
structure CoalesceSystem where
  kernel : KernelState
  pending : List Posted

def CoalesceSystem.runs (s : CoalesceSystem) : List (List Posted) :=
  s.pending.splitBy joins

/-- What a call posts to the thread, what it returns to it, and for which posts. -/
structure CoalesceOutcome where
  result : Int
  posted : List Posted
  returned : List Content
  delivered : List (List Posted)

def recordPosted (tid : Nat) (s : CoalesceSystem) (receiver : Int) (p : Posted) :
    Except String (Int × KernelState) → Except String (CoalesceOutcome × CoalesceSystem)
  | .error e => .error e
  | .ok (rc, kernel) =>
      let posted := if rc = 0 ∧ receiver % 0x10000 = tid then [p] else []
      .ok (⟨rc, posted, [], []⟩, ⟨kernel, s.pending ++ posted⟩)

def coalesceStep (tid : Nat) (s : CoalesceSystem) :
    MailCall → Except String (CoalesceOutcome × CoalesceSystem)
  | .post jiffies sender receiver msg long1 long2 =>
      recordPosted tid s receiver
        ⟨fillMessage (sender % 0x10000) (receiver % 0x10000) msg long1 long2 jiffies jiffies
          emptyMessage, true⟩
        (ipcPostMessageToTid { s.kernel with jiffies := jiffies } sender receiver msg
          long1 long2)
  | .post2 jiffies sender receiver msg long1 long2 long3 long4 =>
      recordPosted tid s receiver
        ⟨fillMessage (sender % 0x10000) (receiver % 0x10000) msg long1 long2 long3 long4
          emptyMessage, false⟩
        (ipcPostMessageToTid2 { s.kernel with jiffies := jiffies } sender receiver msg
          long1 long2 long3 long4)
  | .get jiffies caller ubuf =>
      match ipcGetMessage { s.kernel with jiffies := jiffies, currentThread := caller } ubuf
        with
      | .error e => .error e
      | .ok (out, kernel) =>
          if out.result = 1 ∧ caller = tid then
            .ok (⟨out.result, [], [readContent out.words], s.runs.take 1⟩,
              ⟨kernel, (s.runs.drop 1).flatten⟩)
          else .ok (⟨out.result, [], [], []⟩, ⟨kernel, s.pending⟩)

/-- Fewer than `MSG_QUEUE_MAX` messages are pending when one is posted. -/
def Fewer (tid : Nat) (s : CoalesceSystem) : MailCall → Prop
  | .post _ _ receiver _ _ _ => receiver % 0x10000 = tid → s.runs.length < MSG_QUEUE_MAX
  | .post2 _ _ receiver _ _ _ _ _ => receiver % 0x10000 = tid → s.runs.length < MSG_QUEUE_MAX
  | .get _ _ _ => True

/-- No message of code 0 is posted to the thread, and it gets only while a message is
pending. -/
def Deliverable (tid : Nat) (s : CoalesceSystem) : MailCall → Prop
  | .post _ _ _ _ _ _ => True
  | .post2 _ _ receiver msg _ _ _ _ => receiver % 0x10000 = tid → msg ≠ 0
  | .get _ caller _ => caller = tid → 0 < s.pending.length

instance (tid : Nat) (s : CoalesceSystem) : ∀ call, Decidable (Fewer tid s call)
  | .post _ _ _ _ _ _ => inferInstanceAs (Decidable (_ → _))
  | .post2 _ _ _ _ _ _ _ _ => inferInstanceAs (Decidable (_ → _))
  | .get _ _ _ => inferInstanceAs (Decidable True)

instance (tid : Nat) (s : CoalesceSystem) : ∀ call, Decidable (Deliverable tid s call)
  | .post _ _ _ _ _ _ => inferInstanceAs (Decidable True)
  | .post2 _ _ _ _ _ _ _ _ => inferInstanceAs (Decidable (_ → _))
  | .get _ _ _ => inferInstanceAs (Decidable (_ → _))

/-- A message and the last one of the posts that it stands for. -/
structure Looks (m last : Message) : Prop where
  valid : m.Valid
  msg : m.msg = last.msg
  receiver : m.receiverTid = last.receiverTid
  key : last.msg = MSG_KEYDOWN → m.long1 = last.long1

variable {m last : Message} {jiffies long1 long2 long3 long4 : UInt64}
  {src dst msg rc sender receiver : Int} {run pending : List Posted} {t t' : Thread} {n tid : Nat}
  {front : List Message} {p : Posted} {rest : List (List Posted)} {s u : KernelState}
  {ubuf : Option (Nat → UInt64)} {out : CoalesceOutcome}

theorem repeats_congr (h : Looks m last) (dst msg : Int) (long1 : UInt64) :
    Repeats dst msg long1 m ↔ Repeats dst msg long1 last := by
  unfold Repeats
  rw [h.receiver, h.msg]
  refine and_congr_right fun _ => and_congr_right fun hmsg => ?_
  refine or_congr Iff.rfl (or_congr (and_congr_right fun hkey => ?_) Iff.rfl)
  rw [h.key (hmsg.trans hkey)]

theorem coalesce_absorb (h : Repeats dst msg long1 last) :
    coalesce jiffies src dst msg long1 long2 last = some (absorb last
        (fillMessage src dst msg long1 long2 jiffies jiffies emptyMessage)) := by
  obtain ⟨hreceiver, hlast, hcase⟩ := h
  unfold coalesce absorb fillMessage
  dsimp only
  by_cases hmouse : msg = MSG_MOUSEMOVE
  · rw [if_pos hmouse, if_pos hmouse, if_pos ⟨hlast.trans hmouse, hreceiver⟩]
  rw [if_neg hmouse, if_neg hmouse]
  by_cases hkey : msg = MSG_KEYDOWN
  · rw [if_pos hkey, if_pos hkey]
    rcases hcase with hmouse' | ⟨_, hlong1⟩ | harrow
    · exact absurd hmouse' hmouse
    · rw [if_pos ⟨hreceiver, hlast.trans hkey, hlong1⟩]
    · rw [hkey] at harrow
      exact absurd harrow (by decide)
  · rw [if_neg hkey, if_neg hkey]
    rcases hcase with hmouse' | ⟨hkey', _⟩ | harrow
    · exact absurd hmouse' hmouse
    · exact absurd hkey' hkey
    · rw [if_pos harrow, if_pos ⟨hreceiver, hlast⟩]

theorem mayCoalesce_of_repeats (h : Repeats dst msg long1 last) : mayCoalesce msg = true := by
  obtain ⟨_, _, hmouse | ⟨hkey, _⟩ | harrow⟩ := h
  · rw [hmouse]
    rfl
  · rw [hkey]
    rfl
  · simp [mayCoalesce, harrow]

theorem looks_absorb {p : Message} (h : Looks m last)
    (hrepeats : Repeats p.receiverTid p.msg p.long1 last) :
    Looks (absorb m p) p := by
  obtain ⟨hvalid, hmsg, hreceiver, hkey⟩ := h
  obtain ⟨hreceiver', hmsg', _⟩ := hrepeats
  unfold absorb
  split
  · exact ⟨hvalid, hmsg.trans hmsg', rfl, fun _ => rfl⟩
  split
  · exact ⟨hvalid, hmsg.trans hmsg', rfl, fun _ => rfl⟩
  · rename_i hno
    exact ⟨hvalid, hmsg.trans hmsg', rfl, fun hyes => absurd hyes hno⟩

theorem merged_concat (h : run ≠ []) (p : Posted) :
    merged (run ++ [p]) = absorb (merged run) p.message := by
  obtain ⟨q, rest, rfl⟩ := List.exists_cons_of_ne_nil h
  rw [List.cons_append, merged, merged, List.foldl_append]
  rfl

/-- What a message has of the first and of the last post that are merged into it. -/
structure MergedFrom (first last m : Message) : Prop where
  looks : Looks m last
  long1 : m.long1 = if isControlArrow last.msg = true then first.long1 else last.long1
  long2 : m.long2 = if isControlArrow last.msg = true then first.long2 else last.long2
  long3 : m.long3 = last.long3
  sender : m.senderTid = last.senderTid

theorem mergedFrom_absorb {first p : Message} (h : MergedFrom first last m)
    (hrepeats : Repeats p.receiverTid p.msg p.long1 last) : MergedFrom first p (absorb m p) := by
  obtain ⟨hlooks, hlong1, hlong2, _, _⟩ := h
  have hlooks' := looks_absorb hlooks hrepeats
  obtain ⟨_, hmsg, hcase⟩ := hrepeats
  by_cases harrow : isControlArrow p.msg = true
  · have hmouse : p.msg ≠ MSG_MOUSEMOVE := fun heq => absurd (heq ▸ harrow) (by decide)
    have hkey : p.msg ≠ MSG_KEYDOWN := fun heq => absurd (heq ▸ harrow) (by decide)
    have habsorb : absorb m p = { m with
          long3 := p.long3, long4 := m.long4 + 1
          senderTid := p.senderTid, receiverTid := p.receiverTid } := by
      rw [absorb, if_neg hmouse, if_neg hkey]
    rw [hmsg, if_pos harrow] at hlong1 hlong2
    rw [habsorb] at hlooks' ⊢
    exact ⟨hlooks', by rw [if_pos harrow, hlong1], by rw [if_pos harrow, hlong2], rfl, rfl⟩
  · have habsorb : (absorb m p).long1 = p.long1 ∧ (absorb m p).long2 = p.long2 ∧
        (absorb m p).long3 = p.long3 ∧ (absorb m p).senderTid = p.senderTid := by
      unfold absorb
      rcases hcase with hmouse | ⟨hkey, _⟩ | harrow'
      · rw [if_pos hmouse]
        exact ⟨rfl, rfl, rfl, rfl⟩
      · rw [if_neg (by rw [hkey]; decide), if_pos hkey]
        exact ⟨rfl, rfl, rfl, rfl⟩
      · exact absurd harrow' harrow
    obtain ⟨hfirst, hsecond, hthird, hsender⟩ := habsorb
    exact ⟨hlooks', by rw [if_neg harrow, hfirst], by rw [if_neg harrow, hsecond], hthird, hsender⟩

theorem mergedFrom_merged {first last : Posted} (hfirst : run.head? = some first)
    (hlast : run.getLast? = some last) (hchain : run.IsChain fun p q => joins p q = true)
    (hvalid : ∀ p ∈ run, p.message.Valid) :
    MergedFrom first.message last.message (merged run) ∧
      (run.length = 1 ∨ last.message.msg = MSG_MOUSEMOVE →
        (merged run).long4 = last.message.long4) := by
  induction run using List.reverseRecOn generalizing last with
  | nil => cases hlast
  | append_singleton run p ih =>
      rw [List.getLast?_concat, Option.some.injEq] at hlast
      subst hlast
      rcases List.eq_nil_or_concat run with rfl | ⟨front, q, hrun⟩
      · rw [List.nil_append, List.head?_cons, Option.some.injEq] at hfirst
        subst hfirst
        exact ⟨⟨⟨hvalid _ (by simp), rfl, rfl, fun _ => rfl⟩, (ite_self _).symm,
          (ite_self _).symm, rfl, rfl⟩, fun _ => rfl⟩
      · rw [List.concat_eq_append] at hrun
        subst hrun
        rw [List.isChain_append] at hchain
        have hjoins := hchain.2.2 q (by simp) p (by simp)
        rw [joins, Bool.and_eq_true, decide_eq_true_eq] at hjoins
        rw [List.head?_append_of_ne_nil _ (by simp)] at hfirst
        have hq : (front ++ [q]).getLast? = some q := by simp
        obtain ⟨hmerged, _⟩ := ih hfirst hq hchain.1
          fun p hp => hvalid p (List.mem_append_left _ hp)
        rw [merged_concat (by simp)]
        refine ⟨mergedFrom_absorb hmerged hjoins.2, ?_⟩
        rintro (hone | hmouse)
        · simp at hone
        · rw [absorb, if_pos hmouse]

def Cleared (t : Thread) (n : Nat) : Prop :=
  ∀ j, n ≤ j → j < MSG_QUEUE_MAX →
    ∃ m, t.msgQueue ((t.msgQueueHead + j) % MSG_QUEUE_MAX) = some m ∧ m.msg ≤ 0

theorem cleared_congr (h : Cleared t n) (hsame : SameQueue t t') : Cleared t' n := by
  obtain ⟨_, _, hqueue, hhead, _⟩ := hsame
  unfold Cleared
  rw [hqueue, hhead]
  exact h

theorem cleared_push {pending : List Message} (h : QueueInv t pending)
    (hclear : Cleared t pending.length) (m : Message) :
    Cleared (pushMessage m t) (pending.length + 1) := by
  intro j hj hlt
  obtain ⟨m', hm', hmsg⟩ := hclear j (by omega) hlt
  refine ⟨m', ?_, hmsg⟩
  change Function.update t.msgQueue t.msgQueueTail (some m) _ = _
  rw [Function.update_of_ne _ _ _]
  · exact hm'
  · rw [h.tail_eq]
    exact (Ring.offset_ne (by omega) hlt).symm

theorem cleared_pop (hhead : t.msgQueueHead < MSG_QUEUE_MAX) (hclear : Cleared t (n + 1))
    (m : Message) : Cleared (takeMessage m t) n := by
  intro j hj hlt
  have hnext : nextIndex t.msgQueueHead = (t.msgQueueHead + 1) % MSG_QUEUE_MAX :=
    Ring.next_eq_mod hhead
  change ∃ m', Function.update t.msgQueue t.msgQueueHead (some (clearMessage m))
    ((nextIndex t.msgQueueHead + j) % MSG_QUEUE_MAX) = some m' ∧ _
  have hposition : (nextIndex t.msgQueueHead + j) % MSG_QUEUE_MAX =
      (t.msgQueueHead + (j + 1)) % MSG_QUEUE_MAX := by
    rw [hnext, Nat.mod_add_mod]
    congr 1
    omega
  rw [hposition]
  rcases Nat.lt_or_ge (j + 1) MSG_QUEUE_MAX with hin | hout
  · obtain ⟨m', hm', hmsg⟩ := hclear (j + 1) (by omega) hin
    refine ⟨m', ?_, hmsg⟩
    rw [Function.update_of_ne]
    · exact hm'
    · have hne : (t.msgQueueHead + 0) % MSG_QUEUE_MAX ≠
          (t.msgQueueHead + (j + 1)) % MSG_QUEUE_MAX := Ring.offset_ne (by omega) hin
      rw [Nat.add_zero, Nat.mod_eq_of_lt hhead] at hne
      exact hne.symm
  · -- The slot that has just been read comes last now.
    have hround : (t.msgQueueHead + (j + 1)) % MSG_QUEUE_MAX = t.msgQueueHead := by
      rw [show j + 1 = MSG_QUEUE_MAX by omega, Nat.add_mod_right, Nat.mod_eq_of_lt hhead]
    rw [hround, Function.update_self]
    exact ⟨clearMessage m, rfl, le_refl 0⟩

theorem lastIndex_eq (hn : 0 < n) (htail : t.msgQueueTail = (t.msgQueueHead + n) % MSG_QUEUE_MAX) :
    lastIndex t = (t.msgQueueHead + (n - 1)) % MSG_QUEUE_MAX := by
  unfold lastIndex
  rw [htail]
  unfold MSG_QUEUE_MAX
  omega

theorem queueInv_last (h : QueueInv t (front ++ [m])) :
    lastIndex t = (t.msgQueueHead + front.length) % MSG_QUEUE_MAX ∧
      t.msgQueue (lastIndex t) = some m := by
  have hindex : lastIndex t = (t.msgQueueHead + front.length) % MSG_QUEUE_MAX := by
    have hlast := lastIndex_eq (t := t) (n := (front ++ [m]).length) (by simp) h.tail_eq
    rw [hlast]
    simp
  refine ⟨hindex, ?_⟩
  have hwindow := h.window
  rw [List.length_append, List.length_singleton, Ring.window_add, Ring.window_succ,
    List.map_append] at hwindow
  have hlength : (Ring.window t.msgQueue MSG_QUEUE_MAX t.msgQueueHead front.length).length =
      (front.map some).length := by simp
  have hlast := (List.append_inj hwindow hlength).2
  rw [List.map_singleton, List.cons.injEq] at hlast
  rw [hindex, hlast.1]

theorem queueInv_merge {m' : Message} (h : QueueInv t (front ++ [m])) (hvalid : m'.Valid)
    (hmsg : 0 < m'.msg) :
    QueueInv (mergeMessage m' t) (front ++ [m']) := by
  obtain ⟨hindex, _⟩ := queueInv_last h
  have hle := h.length_le
  rw [List.length_append, List.length_singleton] at hle
  have hlength : (front ++ [m']).length = front.length + 1 := by simp
  constructor
  · exact h.valid
  · intro i hi
    rcases eq_or_ne i (lastIndex t) with rfl | hne
    · exact ⟨m', Function.update_self .., hvalid⟩
    · obtain ⟨m₀, hm₀, hvalid₀⟩ := h.slots i hi
      exact ⟨m₀, (Function.update_of_ne hne ..).trans hm₀, hvalid₀⟩
  · exact h.head_lt
  · omega
  · rw [hlength]
    have htail := h.tail_eq
    rw [List.length_append, List.length_singleton] at htail
    exact htail
  · have hwindow := h.window
    rw [List.length_append, List.length_singleton, Ring.window_add, List.map_append] at hwindow
    have hfront := (List.append_inj hwindow (by simp)).1
    rw [hlength, List.map_append, ← hfront]
    exact Ring.window_push _ _ (by omega) hindex
  · intro m₀ hm₀
    rcases List.mem_append.mp hm₀ with hold | hnew
    · exact h.msg_pos m₀ (List.mem_append_left _ hold)
    · rw [List.mem_singleton.mp hnew]
      exact hmsg

theorem cleared_merge (h : QueueInv t (front ++ [m])) (hclear : Cleared t (front.length + 1))
    (m' : Message) :
    Cleared (mergeMessage m' t) (front.length + 1) := by
  intro j hj hlt
  obtain ⟨m₀, hm₀, hmsg⟩ := hclear j hj hlt
  refine ⟨m₀, ?_, hmsg⟩
  change Function.update t.msgQueue (lastIndex t) (some m') _ = _
  rw [Function.update_of_ne _ _ _]
  · exact hm₀
  · rw [(queueInv_last h).1]
    exact (Ring.offset_ne (by omega) hlt).symm

/-- The queue of a thread holds one message for each maximal run of the pending posts. -/
structure RunsInv (t : Thread) (pending : List Posted) : Prop where
  queue : QueueInv t ((pending.splitBy joins).map merged)
  clear : Cleared t (pending.splitBy joins).length
  valid : ∀ p ∈ pending, p.message.Valid

theorem runsInv_congr (h : RunsInv t pending) (hsame : SameQueue t t') : RunsInv t' pending :=
  ⟨queueInv_congr h.queue hsame, cleared_congr h.clear hsame, h.valid⟩

theorem valid_concat (h : ∀ p ∈ pending, p.message.Valid) (hp : p.message.Valid) :
    ∀ q ∈ pending ++ [p], q.message.Valid := by
  intro q hq
  rcases List.mem_append.mp hq with hold | hnew
  · exact h q hold
  · rw [List.mem_singleton.mp hnew]
    exact hp

theorem runsInv_new (h : RunsInv t pending) (hnew : ∀ last ∈ pending.getLast?, joins last p = false)
    (hp : p.message.Valid) (hmsg : 0 < p.message.msg)
    (hroom : (pending.splitBy joins).length < MSG_QUEUE_MAX) :
    RunsInv (pushMessage p.message t) (pending ++ [p]) := by
  have hsplit := splitBy_concat_new hnew
  refine ⟨?_, ?_, valid_concat h.valid hp⟩
  · rw [hsplit, List.map_append]
    exact queueInv_push h.queue (by rwa [List.length_map]) hp hmsg
  · have hclear := h.clear
    rw [← List.length_map merged] at hclear
    have hpush := cleared_push h.queue hclear p.message
    rw [hsplit, List.length_append]
    rwa [List.length_map] at hpush

theorem runsInv_last (h : RunsInv t pending) {last : Posted}
    (hlast : pending.getLast? = some last) :
    ∃ front g, pending.splitBy joins = front ++ [g] ∧ g.getLast? = some last ∧
      Looks (merged g) last.message ∧ t.msgQueue (lastIndex t) = some (merged g) := by
  have hpending : pending ≠ [] := by
    rintro rfl
    cases hlast
  obtain ⟨front, g, hsplit⟩ : ∃ front g, pending.splitBy joins = front ++ [g] := by
    rcases List.eq_nil_or_concat (pending.splitBy joins) with hnil | ⟨front, g, hconcat⟩
    · exact absurd (List.splitBy_eq_nil.mp hnil) hpending
    · exact ⟨front, g, by rw [hconcat, List.concat_eq_append]⟩
  have hg : g.getLast? = some last := by rw [← splitBy_last hsplit, hlast]
  have hmem : g ∈ pending.splitBy joins := by simp [hsplit]
  have hqueue := h.queue
  rw [hsplit, List.map_append] at hqueue
  have hfirst := List.head?_eq_some_head (List.ne_nil_of_mem (List.mem_of_getLast? hg))
  refine ⟨front, g, hsplit, hg, ?_, (queueInv_last hqueue).2⟩
  apply (mergedFrom_merged hfirst hg (List.isChain_of_mem_splitBy hmem) _).1.looks
  intro p hp
  apply h.valid p
  rw [← List.flatten_splitBy joins pending]
  exact List.mem_flatten.mpr ⟨g, hmem, hp⟩

theorem runsInv_join {g : List Posted} {front : List (List Posted)} (h : RunsInv t pending)
    (hsplit : pending.splitBy joins = front ++ [g]) {last : Posted} (hlast : g.getLast? = some last)
    (hlooks : Looks (merged g) last.message) (hjoins : joins last p = true) (hp : p.message.Valid) :
    RunsInv (mergeMessage (absorb (merged g) p.message) t) (pending ++ [p]) := by
  have hg : g ≠ [] := by
    rintro rfl
    cases hlast
  have hrepeats := hjoins
  rw [joins, Bool.and_eq_true, decide_eq_true_eq] at hrepeats
  have hlooks' := looks_absorb hlooks hrepeats.2
  have hconcat : (pending ++ [p]).splitBy joins = front ++ [g ++ [p]] := by
    apply splitBy_concat_join hsplit
    intro x hx
    rw [hlast, Option.mem_some_iff] at hx
    exact hx ▸ hjoins
  have hqueue := h.queue
  have hclear := h.clear
  rw [hsplit, List.map_append, List.map_singleton] at hqueue
  rw [hsplit, List.length_append, List.length_singleton] at hclear
  have hpos : 0 < (absorb (merged g) p.message).msg := by
    have hold := hqueue.msg_pos (merged g) (by simp)
    rwa [hlooks'.msg, ← hrepeats.2.2.1, ← hlooks.msg]
  refine ⟨?_, ?_, valid_concat h.valid hp⟩
  · rw [hconcat, List.map_append, List.map_singleton, merged_concat hg]
    exact queueInv_merge hqueue hlooks'.valid hpos
  · rw [hconcat, List.length_append, List.length_singleton]
    rw [← List.length_map merged] at hclear ⊢
    exact cleared_merge hqueue hclear _

theorem runsInv_pop (h : RunsInv t pending) (hsplit : pending.splitBy joins = run :: rest) :
    t.msgQueue t.msgQueueHead = some (merged run) ∧ 0 < (merged run).msg ∧
      RunsInv (takeMessage (merged run) t) rest.flatten := by
  have hqueue := h.queue
  rw [hsplit, List.map_cons] at hqueue
  obtain ⟨hhead, hpos⟩ := queueInv_head hqueue
  obtain ⟨m, hm, hvalid⟩ := hqueue.slots _ hqueue.head_lt
  rw [hhead, Option.some.injEq] at hm
  have hclear := h.clear
  rw [hsplit, List.length_cons] at hclear
  obtain ⟨hflat, hrest⟩ := splitBy_cons hsplit
  refine ⟨hhead, hpos, ?_, ?_, ?_⟩
  · rw [hrest]
    exact queueInv_pop hqueue (hm ▸ hvalid)
  · rw [hrest]
    exact cleared_pop hqueue.head_lt hclear _
  · intro p hp
    apply h.valid p
    rw [hflat]
    exact List.mem_append_right _ hp

theorem runsInv_empty (h : EmptyQueue t) : RunsInv t [] := by
  refine ⟨emptyQueue_inv h, ?_, by simp⟩
  intro j _ _
  obtain ⟨m, hm, _, hmsg⟩ := h.slots _ (Nat.mod_lt _ (by decide))
  exact ⟨m, hm, hmsg⟩

def CoalesceInv (tid : Nat) (s : CoalesceSystem) : Prop :=
  ∃ t, s.kernel.threads.threadList tid = some t ∧ RunsInv t s.pending

theorem coalesceInv_push (h : CoalesceInv tid ⟨s, pending⟩) (hdst : 0 ≤ dst)
    (hvalid : p.message.Valid) (hroom : dst = tid → (pending.splitBy joins).length < MSG_QUEUE_MAX)
    (hmsg : dst = tid → 0 < p.message.msg)
    (hnew : dst = tid → ∀ last ∈ pending.getLast?, joins last p = false) :
    CoalesceInv tid ⟨s.modify dst.toNat (pushMessage p.message) fun _ => rfl,
      pending ++ if dst = tid then [p] else []⟩ := by
  refine Has.modify h _ _ (fun heq t hruns => ?_) fun hne t hruns => ?_
  · have hself : dst = tid := by omega
    rw [if_pos hself]
    exact runsInv_new hruns (hnew hself) hvalid (hmsg hself) (hroom hself)
  · rw [if_neg (by omega), List.append_nil]
    exact hruns

theorem coalesceInv_post2
    (h : CoalesceInv tid ⟨s, pending⟩)
    (hp : p = ⟨fillMessage (sender % 0x10000) (receiver % 0x10000) msg long1 long2 long3 long4
      emptyMessage, false⟩)
    (hroom : receiver % 0x10000 = tid → (pending.splitBy joins).length < MSG_QUEUE_MAX)
    (hmsg : receiver % 0x10000 = tid → msg ≠ 0)
    (hpost : ipcPostMessageToTid2 s sender receiver msg long1 long2 long3 long4 = .ok (rc, u)) :
    CoalesceInv tid ⟨u, pending ++ if rc = 0 ∧ receiver % 0x10000 = tid then [p] else []⟩ := by
  subst hp
  rcases ipcPostMessageToTid2_cases hpost with ⟨rfl, rfl⟩ | ⟨s', hcode, rfl, hkeeps, rfl⟩
  · rw [if_neg (fun hrc => absurd hrc.1 (by decide)), List.append_nil]
    exact h
  · simp only [true_and]
    have hkept : CoalesceInv tid ⟨s', pending⟩ := Has.keeps h hkeeps runsInv_congr
    exact coalesceInv_push (p := ⟨_, false⟩) hkept (by omega) ⟨rfl, rfl⟩ hroom
      (fun heq => lt_of_le_of_ne hcode (hmsg heq).symm) fun _ _ _ => rfl

theorem repeats_last (h : RunsInv t pending) (hslot : t.msgQueue (lastIndex t) = some last)
    (hmerges : p.merges = true) (hmsg : 0 < p.message.msg)
    (hrepeats : Repeats p.message.receiverTid p.message.msg p.message.long1 last) :
    ∃ q, pending.getLast? = some q ∧ joins q p = true := by
  cases hlast : pending.getLast? with
  | none =>
      rw [List.getLast?_eq_none_iff] at hlast
      subst hlast
      have htail := h.queue.tail_eq
      have hhead := h.queue.head_lt
      obtain ⟨m, hm, hclear⟩ := h.clear (MSG_QUEUE_MAX - 1) (Nat.zero_le _) (by decide)
      have hindex : (t.msgQueueHead + (MSG_QUEUE_MAX - 1)) % MSG_QUEUE_MAX = lastIndex t := by
        unfold lastIndex
        rw [htail]
        change _ = ((t.msgQueueHead + 0) % MSG_QUEUE_MAX + MSG_QUEUE_MAX - 1) % MSG_QUEUE_MAX
        rw [Nat.add_zero, Nat.mod_eq_of_lt hhead]
        rfl
      rw [hindex, hslot, Option.some.injEq] at hm
      have hsame := hrepeats.2.1
      rw [hm] at hsame
      omega
  | some q =>
      obtain ⟨_, g, _, _, hlooks, hslot'⟩ := runsInv_last h hlast
      rw [hslot, Option.some.injEq] at hslot'
      rw [hslot', repeats_congr hlooks] at hrepeats
      refine ⟨q, rfl, ?_⟩
      rw [joins, Bool.and_eq_true, decide_eq_true_eq]
      exact ⟨hmerges, hrepeats⟩

theorem coalesceInv_post
    (h : CoalesceInv tid ⟨s, pending⟩)
    (hp : p = ⟨fillMessage (sender % 0x10000) (receiver % 0x10000) msg long1 long2 s.jiffies
      s.jiffies emptyMessage, true⟩)
    (hroom : receiver % 0x10000 = tid → (pending.splitBy joins).length < MSG_QUEUE_MAX)
    (hpost : ipcPostMessageToTid s sender receiver msg long1 long2 = .ok (rc, u)) :
    CoalesceInv tid ⟨u, pending ++ if rc = 0 ∧ receiver % 0x10000 = tid then [p] else []⟩ := by
  have hdst : 0 ≤ receiver % 0x10000 := by omega
  have hmerges : p.merges = true := by rw [hp]
  have hvalid : p.message.Valid := by
    rw [hp]
    exact ⟨rfl, rfl⟩
  rcases ipcPostMessageToTid_cases hpost with ⟨_, rfl, rfl⟩ |
    ⟨t, s', hpos, ht, hkeeps, ⟨last, m, hlast, hmerge, rfl, rfl⟩ | ⟨hnone, rfl, rfl⟩⟩
  · rw [if_neg (fun hrc => absurd hrc.1 (by decide)), List.append_nil]
    exact h
  · simp only [true_and]
    have hrepeats : Repeats (receiver % 0x10000) msg long1 last := by
      by_contra hnot
      rw [coalesce_none hnot] at hmerge
      cases hmerge
    have hm : m = absorb last p.message := by
      rw [coalesce_absorb hrepeats, Option.some.injEq] at hmerge
      rw [← hmerge, hp]
    have hrepeats' : Repeats p.message.receiverTid p.message.msg p.message.long1 last := by
      rw [hp]
      exact hrepeats
    have hmsg : 0 < p.message.msg := by
      rw [hp]
      exact hpos
    have hruns : receiver % 0x10000 = tid → RunsInv t pending := by
      intro heq
      obtain ⟨t₀, ht₀, hruns⟩ := h
      rw [heq, Int.toNat_natCast] at ht
      rw [ht] at ht₀
      exact Option.some.inj ht₀ ▸ hruns
    refine Has.modify (Has.keeps h hkeeps runsInv_congr) _ _ (fun heq t' hruns' => ?_)
      fun hne t' hruns' => ?_
    · have hself : receiver % 0x10000 = tid := by omega
      rw [if_pos hself]
      obtain ⟨q, hq, hjoins⟩ := repeats_last (hruns hself) hlast hmerges hmsg hrepeats'
      obtain ⟨front, g, hsplit, hg, hlooks, hslot⟩ := runsInv_last (hruns hself) hq
      rw [hlast, Option.some.injEq] at hslot
      rw [hm, hslot]
      exact runsInv_join hruns' hsplit hg hlooks hjoins hvalid
    · rw [if_neg (by omega), List.append_nil]
      exact hruns'
  · have hnew : receiver % 0x10000 = tid → ∀ q ∈ pending.getLast?, joins q p = false := by
      intro heq q hq
      obtain ⟨t₀, ht₀, hruns⟩ := h
      rw [heq, Int.toNat_natCast] at ht
      rw [ht] at ht₀
      rw [← Option.some.inj ht₀] at hruns
      obtain ⟨_, g, _, _, hlooks, hslot⟩ := runsInv_last hruns hq
      by_contra hjoins
      rw [Bool.not_eq_false, joins, Bool.and_eq_true, decide_eq_true_eq,
        ← repeats_congr hlooks, hp] at hjoins
      have hrepeats : Repeats (receiver % 0x10000) msg long1 (merged g) := hjoins.2
      obtain ⟨last, hlast, hcoalesce⟩ := hnone (mayCoalesce_of_repeats hrepeats)
      rw [hslot, Option.some.injEq] at hlast
      rw [← hlast, coalesce_absorb hrepeats] at hcoalesce
      cases hcoalesce
    simp only [true_and]
    subst hp
    have hkept : CoalesceInv tid ⟨s', pending⟩ := Has.keeps h hkeeps runsInv_congr
    exact coalesceInv_push (p := ⟨_, true⟩) hkept hdst hvalid hroom (fun _ => hpos) hnew

theorem coalesceInv_get (h : CoalesceInv tid ⟨s, pending⟩) (hcaller : s.currentThread = tid)
    (hsplit : pending.splitBy joins = run :: rest) {out : GetOutcome}
    (hget : ipcGetMessage s ubuf = .ok (out, u)) :
    out.result = 1 ∧ readContent out.words = messageContent (merged run) ∧
      CoalesceInv tid ⟨u, rest.flatten⟩ := by
  obtain ⟨t, ht, hruns⟩ := h
  obtain ⟨hhead, hpos, hruns'⟩ := runsInv_pop hruns hsplit
  obtain ⟨m, hm, hvalid⟩ := hruns.queue.slots _ hruns.queue.head_lt
  rw [hhead, Option.some.injEq] at hm
  obtain ⟨hresult, hcontent, rfl⟩ :=
    ipcGetMessage_own hcaller ht hruns.queue.valid hhead (hm ▸ hvalid) hpos hget
  refine ⟨hresult, hcontent, ?_⟩
  have hself := threadList_modify s.threads tid (takeMessage (merged run)) (fun _ => rfl) tid
  dsimp only at ht
  rw [if_pos rfl, ht, Option.map_some] at hself
  exact ⟨_, hself, hruns'⟩

/-- What a run of posts is delivered as: the last of them, and for a control arrow with the
first two words of the first. -/
def representative (first last : Message) : Content :=
  if isControlArrow last.msg = true then
    { messageContent last with long1 := first.long1, long2 := first.long2 }
  else messageContent last

/-- The content is the one that stands for a run of posts. Of the last word of a repeated key
nothing is said. -/
def Stands (run : List Posted) (c : Content) : Prop :=
  ∃ first last, run.head? = some first ∧ run.getLast? = some last ∧
    { c with long4 := last.message.long4 } = representative first.message last.message ∧
      (run.length = 1 ∨ last.message.msg = MSG_MOUSEMOVE →
        c = representative first.message last.message)

theorem stands_merged (hrun : run ≠ []) (hchain : run.IsChain fun p q => joins p q = true)
    (hvalid : ∀ p ∈ run, p.message.Valid) :
    Stands run (messageContent (merged run)) := by
  obtain ⟨first, hfirst⟩ : ∃ first, run.head? = some first := ⟨_, List.head?_eq_some_head hrun⟩
  obtain ⟨last, hlast⟩ : ∃ last, run.getLast? = some last := ⟨_, List.getLast?_eq_some_getLast hrun⟩
  obtain ⟨⟨hlooks, hlong1, hlong2, hlong3, hsender⟩, hlong4⟩ :=
    mergedFrom_merged hfirst hlast hchain hvalid
  have hcontent : { messageContent (merged run) with long4 := last.message.long4 } =
      representative first.message last.message := by
    unfold messageContent representative
    dsimp only
    rw [hlooks.msg, hlooks.receiver, hlong1, hlong2, hlong3, hsender]
    split <;> rfl
  refine ⟨first, last, hfirst, hlast, hcontent, ?_⟩
  intro hexact
  rw [← hcontent, ← hlong4 hexact]
  rfl

theorem recordPosted_ok {s t : CoalesceSystem} {result : Except String (Int × KernelState)}
    (h : recordPosted tid s receiver p result = .ok (out, t)) :
    ∃ rc kernel, result = .ok (rc, kernel) ∧
      out = ⟨rc, if rc = 0 ∧ receiver % 0x10000 = tid then [p] else [], [], []⟩ ∧
      t = ⟨kernel, s.pending ++ if rc = 0 ∧ receiver % 0x10000 = tid then [p] else []⟩ := by
  cases result with
  | error e => cases h
  | ok pair =>
      cases h
      exact ⟨_, _, rfl, rfl, rfl⟩

def IsGet (tid : Nat) : MailCall → Prop
  | .get _ caller _ => caller = tid
  | .post _ _ _ _ _ _ => False
  | .post2 _ _ _ _ _ _ _ _ => False

/-- What is returned stands for what is delivered, and a get by the thread returns one
message. -/
def Answered (tid : Nat) (call : MailCall) (out : CoalesceOutcome) : Prop :=
  List.Forall₂ Stands out.delivered out.returned ∧ (IsGet tid call → out.returned.length = 1)

theorem coalesceStep_get {s t : CoalesceSystem} {caller : Int} (h : CoalesceInv tid s)
    (hpending : caller = tid → 0 < s.pending.length)
    (hstep : coalesceStep tid s (.get jiffies caller ubuf) = .ok (out, t)) :
    s.pending = out.delivered.flatten ++ t.pending ∧ out.posted = [] ∧
      Answered tid (.get jiffies caller ubuf) out ∧ CoalesceInv tid t := by
  obtain ⟨kernel, pending⟩ := s
  rw [coalesceStep] at hstep
  split at hstep
  · cases hstep
  rename_i got kernel' hget
  dsimp only at hpending hget hstep
  by_cases hcaller : caller = tid
  · obtain ⟨run, rest, hsplit⟩ : ∃ run rest, pending.splitBy joins = run :: rest := by
      apply List.exists_cons_of_ne_nil
      rw [List.splitBy_ne_nil]
      exact List.ne_nil_of_length_pos (hpending hcaller)
    obtain ⟨hresult, hcontent, hinv⟩ := coalesceInv_get
      (s := { kernel with jiffies := jiffies, currentThread := caller }) h hcaller hsplit hget
    have hmem : run ∈ pending.splitBy joins := by simp [hsplit]
    have hflat := (splitBy_cons hsplit).1
    have hvalid : ∀ p ∈ run, p.message.Valid := by
      intro p hp
      obtain ⟨t, _, hruns⟩ := h
      apply hruns.valid p
      change p ∈ pending
      rw [hflat]
      exact List.mem_append_left _ hp
    have hstands := stands_merged (List.ne_nil_of_mem_splitBy hmem)
      (List.isChain_of_mem_splitBy hmem) hvalid
    rw [if_pos ⟨hresult, hcaller⟩] at hstep
    obtain ⟨rfl, rfl⟩ := Prod.mk.inj (Except.ok.inj hstep)
    simp only [Answered, CoalesceSystem.runs, hsplit, List.take_succ_cons, List.take_zero,
      List.drop_succ_cons, List.drop_zero, List.flatten_singleton, hcontent]
    exact ⟨hflat, trivial, ⟨.cons hstands .nil, fun _ => rfl⟩, hinv⟩
  · rw [if_neg (fun hboth => hcaller hboth.2)] at hstep
    obtain ⟨rfl, rfl⟩ := Prod.mk.inj (Except.ok.inj hstep)
    obtain ⟨t, ht, hruns⟩ := h
    refine ⟨rfl, rfl, ⟨.nil, fun hself => absurd hself hcaller⟩, t, ?_, hruns⟩
    exact (ipcGetMessage_other
      (s := { kernel with jiffies := jiffies, currentThread := caller }) hcaller hget).trans ht

theorem coalesceStep_spec {s t : CoalesceSystem} {call : MailCall} (h : CoalesceInv tid s)
    (hguard : Fewer tid s call ∧ Deliverable tid s call)
    (hstep : coalesceStep tid s call = .ok (out, t)) :
    s.pending ++ out.posted = out.delivered.flatten ++ t.pending ∧
      Answered tid call out ∧ CoalesceInv tid t := by
  obtain ⟨hroom, hdeliverable⟩ := hguard
  cases call with
  | post jiffies sender receiver msg long1 long2 =>
      obtain ⟨rc, kernel, hpost, rfl, rfl⟩ := recordPosted_ok hstep
      refine ⟨rfl, ⟨.nil, False.elim⟩, ?_⟩
      exact coalesceInv_post (s := { s.kernel with jiffies := jiffies }) h rfl hroom hpost
  | post2 jiffies sender receiver msg long1 long2 long3 long4 =>
      obtain ⟨rc, kernel, hpost, rfl, rfl⟩ := recordPosted_ok hstep
      refine ⟨rfl, ⟨.nil, False.elim⟩, ?_⟩
      exact coalesceInv_post2 (s := { s.kernel with jiffies := jiffies }) h rfl hroom
        hdeliverable hpost
  | get jiffies caller ubuf =>
      obtain ⟨hpending, hposted, hanswered, hinv⟩ := coalesceStep_get h hdeliverable hstep
      rw [hposted, List.append_nil]
      exact ⟨hpending, hanswered, hinv⟩

/-- In every run of posts and gets by any threads in which fewer than `MSG_QUEUE_MAX` messages
are pending for the thread `tid` at each post to it, and it gets only while one is, the messages
posted to it are divided into those delivered and those pending, the delivered ones run by
run, and each run is returned as the one message that stands for it. -/
theorem coalesced_delivery {tid : Nat} {s : KernelState} {t : Thread}
    (ht : s.threads.threadList tid = some t) (hempty : EmptyQueue t) {calls : List MailCall}
    {outs : List CoalesceOutcome} {u : CoalesceSystem}
    (hguard : Run.Guarded (coalesceStep tid)
      (fun s call => Fewer tid s call ∧ Deliverable tid s call) ⟨s, []⟩ calls)
    (hrun : Run.run (coalesceStep tid) ⟨s, []⟩ calls = .ok (outs, u)) :
    Run.gather (fun _ out => out.posted) calls outs =
        Run.gather (fun _ out => out.delivered.flatten) calls outs ++ u.pending ∧
      List.Forall₂ Stands (Run.gather (fun _ out => out.delivered) calls outs)
        (Run.gather (fun _ out => out.returned) calls outs) ∧
      List.Forall₂ (fun call out => IsGet tid call → out.returned.length = 1) calls outs := by
  have hinit : CoalesceInv tid ⟨s, []⟩ := ⟨t, ht, runsInv_empty hempty⟩
  have hanswered : List.Forall₂ (Answered tid) calls outs := by
    refine Run.run_forall₂ (CoalesceInv tid) (Answered tid) ?_ hinit hguard hrun
    intro s call out t hs hg hstep
    exact (coalesceStep_spec hs hg hstep).2
  refine ⟨?_, Run.forall₂_gather (hanswered.imp fun _ _ h => h.1),
    hanswered.imp fun _ _ h => h.2⟩
  refine Run.run_fifo (CoalesceInv tid) CoalesceSystem.pending (fun _ out => out.posted)
    (fun _ out => out.delivered.flatten) ?_ hinit hguard hrun
  intro s call out t hs hg hstep
  obtain ⟨hpending, _, hinv⟩ := coalesceStep_spec hs hg hstep
  exact ⟨hpending, hinv⟩

def mouseThenKey : List MailCall :=
  [.post 5 0 1 MSG_MOUSEMOVE 1 2, .post 6 0 1 MSG_MOUSEMOVE 3 4, .post 7 0 1 MSG_KEYDOWN 65 0,
    .get 8 1 (some fun _ => 0), .get 9 1 (some fun _ => 0)]

theorem emptyQueue_newThread : EmptyQueue (newThread 0 1 .running) := by
  refine ⟨⟨rfl, rfl⟩, ?_, by decide, rfl⟩
  intro i hi
  exact ⟨emptyMessage, if_pos hi, ⟨rfl, rfl⟩, by decide⟩

theorem run_mouseThenKey :
    ∃ outs u, Run.run (coalesceStep 1) ⟨twoThreads, []⟩ mouseThenKey = .ok (outs, u) ∧
      (Run.gather (fun _ out => out.returned) mouseThenKey outs).map Content.long1 = [3, 65] :=
  ⟨_, _, rfl, rfl⟩

theorem coalesced_delivery_example :
    ∃ outs u, Run.run (coalesceStep 1) ⟨twoThreads, []⟩ mouseThenKey = .ok (outs, u) ∧
      (Run.gather (fun _ out => out.returned) mouseThenKey outs).map Content.long1 = [3, 65] ∧
        List.Forall₂ Stands (Run.gather (fun _ out => out.delivered) mouseThenKey outs)
          (Run.gather (fun _ out => out.returned) mouseThenKey outs) := by
  obtain ⟨outs, u, hrun, hreturned⟩ := run_mouseThenKey
  have hthread : twoThreads.threads.threadList 1 = some (newThread 0 1 .running) := rfl
  exact ⟨outs, u, hrun, hreturned,
    (coalesced_delivery hthread emptyQueue_newThread (by decide +kernel) hrun).2.1⟩

def repeated (code : Int) : List MailCall :=
  [.post 5 0 1 code 65 0, .post 6 0 1 code 65 0, .get 7 1 (some fun _ => 0)]

/-- Two posts of a control arrow are delivered as one message as well, and the last word of a
key that was pressed twice is not 2. -/
theorem arrow_is_merged :
    (∃ outs u, Run.run (coalesceStep 1) ⟨twoThreads, []⟩ (repeated MSG_CONTROL_ARROW_UP) =
        .ok (outs, u) ∧
      (Run.gather (fun _ out => out.posted) (repeated MSG_CONTROL_ARROW_UP) outs).length = 2 ∧
      (Run.gather (fun _ out => out.returned) (repeated MSG_CONTROL_ARROW_UP) outs).length = 1 ∧
      ∃ t, u.kernel.threads.threadList 1 = some t ∧ t.msgQueueHead = t.msgQueueTail) ∧
    ∃ outs u, Run.run (coalesceStep 1) ⟨twoThreads, []⟩ (repeated MSG_KEYDOWN) = .ok (outs, u) ∧
      (Run.gather (fun _ out => out.returned) (repeated MSG_KEYDOWN) outs).map Content.long4 =
        [6] :=
  ⟨⟨_, _, rfl, rfl, rfl, _, rfl, rfl⟩, _, _, rfl, rfl⟩

end Gramado.Ke.Coalescing
