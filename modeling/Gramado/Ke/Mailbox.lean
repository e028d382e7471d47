import Gramado.Library.Ring
import Gramado.Library.Run
import Gramado.Ke.Ipc

namespace Gramado.Ke.Mailbox

open Library Ke.Table Ke.Ipc

structure Content where
  msg : UInt64
  long1 : UInt64
  long2 : UInt64
  long3 : UInt64
  long4 : UInt64
  sender : UInt64
  receiver : UInt64
  deriving DecidableEq, Repr

def messageContent (m : Message) : Content :=
  { msg := UInt64.ofNat (m.msg % 0x100000000).toNat
    long1 := m.long1
    long2 := m.long2
    long3 := m.long3
    long4 := m.long4
    sender := UInt64.ofInt m.senderTid
    receiver := UInt64.ofInt m.receiverTid }

def readContent (words : Nat → UInt64) : Content :=
  ⟨words 1, words 2, words 3, words 4, words 5, words 8, words 9⟩

theorem readContent_storeMessage (jiffies : UInt64) (m : Message) (words : Nat → UInt64) :
    readContent (storeMessage jiffies m words) = messageContent m := rfl

variable {m last : Message} {t : Thread} {pending : List Message} {s u : KernelState}
  {name : String} {dst msg rc sender receiver : Int} {long1 long2 long3 long4 : UInt64} {tid : Nat}
  {ubuf : Option (Nat → UInt64)} {out : GetOutcome}

theorem fillMessage_valid (h : m.Valid) (src dst msg : Int) (long1 long2 long3 long4 : UInt64) :
    fillMessage src dst msg long1 long2 long3 long4 m =
      fillMessage src dst msg long1 long2 long3 long4 emptyMessage := by
  obtain ⟨hused, hmagic⟩ := h
  rw [fillMessage, fillMessage, hused, hmagic]
  rfl

/-- The queue of a thread holds the pending messages from its head on. -/
structure QueueInv (t : Thread) (pending : List Message) : Prop where
  valid : t.Valid
  slots : ∀ i, i < MSG_QUEUE_MAX → ∃ m, t.msgQueue i = some m ∧ m.Valid
  head_lt : t.msgQueueHead < MSG_QUEUE_MAX
  length_le : pending.length ≤ MSG_QUEUE_MAX
  tail_eq : t.msgQueueTail = (t.msgQueueHead + pending.length) % MSG_QUEUE_MAX
  window : Ring.window t.msgQueue MSG_QUEUE_MAX t.msgQueueHead pending.length =
    pending.map some
  msg_pos : ∀ m ∈ pending, 0 < m.msg

theorem nextIndex_eq (i : Nat) : nextIndex i = Ring.next MSG_QUEUE_MAX i := rfl

theorem queueInv_push (h : QueueInv t pending) (hlt : pending.length < MSG_QUEUE_MAX)
    (hvalid : m.Valid) (hmsg : 0 < m.msg) :
    QueueInv (pushMessage m t) (pending ++ [m]) := by
  have htail : t.msgQueueTail < MSG_QUEUE_MAX := by
    rw [h.tail_eq]
    exact Nat.mod_lt _ (by decide)
  have hlength : (pending ++ [m]).length = pending.length + 1 := by simp
  constructor
  · exact h.valid
  · intro i hi
    rcases eq_or_ne i t.msgQueueTail with rfl | hne
    · exact ⟨m, Function.update_self .., hvalid⟩
    · obtain ⟨m', hm', hvalid'⟩ := h.slots i hi
      exact ⟨m', (Function.update_of_ne hne ..).trans hm', hvalid'⟩
  · exact h.head_lt
  · rw [hlength]
    exact hlt
  · change nextIndex t.msgQueueTail = _
    rw [nextIndex_eq, Ring.next_eq_mod htail, h.tail_eq, hlength, Nat.mod_add_mod, Nat.add_assoc]
    rfl
  · rw [hlength, List.map_append, List.map_singleton, ← h.window]
    exact Ring.window_push _ _ hlt h.tail_eq
  · intro m' hm'
    rcases List.mem_append.mp hm' with hold | hnew
    · exact h.msg_pos m' hold
    · rw [List.mem_singleton.mp hnew]
      exact hmsg

theorem queueInv_head (h : QueueInv t (m :: pending)) :
    t.msgQueue t.msgQueueHead = some m ∧ 0 < m.msg := by
  have hwindow := h.window
  rw [List.length_cons, Ring.window_succ, List.map_cons, List.cons.injEq,
    Nat.mod_eq_of_lt h.head_lt] at hwindow
  exact ⟨hwindow.1, h.msg_pos m (by simp)⟩

theorem queueInv_pop (h : QueueInv t (m :: pending)) (hvalid : m.Valid) :
    QueueInv (takeMessage m t) pending := by
  have hwindow := h.window
  rw [List.length_cons, Ring.window_succ, List.map_cons, List.cons.injEq] at hwindow
  have hle := h.length_le
  rw [List.length_cons] at hle
  have hnext := Ring.next_eq_mod h.head_lt
  constructor
  · exact h.valid
  · intro i hi
    rcases eq_or_ne i t.msgQueueHead with rfl | hne
    · exact ⟨clearMessage m, Function.update_self .., hvalid⟩
    · obtain ⟨m', hm', hvalid'⟩ := h.slots i hi
      exact ⟨m', (Function.update_of_ne hne ..).trans hm', hvalid'⟩
  · exact Ring.next_lt h.head_lt
  · omega
  · change t.msgQueueTail = (nextIndex t.msgQueueHead + pending.length) % MSG_QUEUE_MAX
    rw [nextIndex_eq, hnext, Nat.mod_add_mod, h.tail_eq, List.length_cons]
    congr 1
    omega
  · change Ring.window _ MSG_QUEUE_MAX (nextIndex t.msgQueueHead) pending.length = _
    rw [← hwindow.2, nextIndex_eq, hnext,
      Ring.window_modEq _ _ _ (t.msgQueueHead + 1) _ (Nat.mod_mod _ _)]
    exact Ring.window_update_head _ _ hle (Nat.mod_eq_of_lt h.head_lt).symm
  · intro m' hm'
    exact h.msg_pos m' (List.mem_cons_of_mem _ hm')

def SameQueue (t t' : Thread) : Prop :=
  t'.used = t.used ∧ t'.magic = t.magic ∧ t'.msgQueue = t.msgQueue ∧
    t'.msgQueueHead = t.msgQueueHead ∧ t'.msgQueueTail = t.msgQueueTail

theorem queueInv_congr {t' : Thread} (h : QueueInv t pending) (hsame : SameQueue t t') :
    QueueInv t' pending := by
  obtain ⟨hused, hmagic, hqueue, hhead, htail⟩ := hsame
  obtain ⟨hvalid, hslots, hlt, hle, heq, hwindow, hpos⟩ := h
  constructor
  · exact ⟨hused.trans hvalid.1, hmagic.trans hvalid.2⟩
  · rwa [hqueue]
  · rwa [hhead]
  · exact hle
  · rwa [hhead, htail]
  · rwa [hqueue, hhead]
  · exact hpos

def KeepsQueues (s s' : KernelState) : Prop :=
  ∀ i t, s.threads.threadList i = some t →
    ∃ t', s'.threads.threadList i = some t' ∧ SameQueue t t'

theorem KeepsQueues.refl (s : KernelState) : KeepsQueues s s :=
  fun _ t ht => ⟨t, ht, rfl, rfl, rfl, rfl, rfl⟩

theorem KeepsQueues.trans {t : KernelState} (hst : KeepsQueues s t) (htu : KeepsQueues t u) :
    KeepsQueues s u := by
  intro i a ha
  obtain ⟨b, hb, hused, hmagic, hqueue, hhead, htail⟩ := hst i a ha
  obtain ⟨c, hc, hused', hmagic', hqueue', hhead', htail'⟩ := htu i b hb
  exact ⟨c, hc, hused'.trans hused, hmagic'.trans hmagic, hqueue'.trans hqueue,
    hhead'.trans hhead, htail'.trans htail⟩

theorem keepsQueues_modify (s : KernelState) (i : Nat) (f : Thread → Thread)
    (hf : ∀ t, (f t).tid = t.tid) (hsame : ∀ t, SameQueue t (f t)) :
    KeepsQueues s (s.modify i f hf) := by
  intro j t ht
  have hj := threadList_modify s.threads i f hf j
  rcases eq_or_ne j i with rfl | hne
  · rw [if_pos rfl, ht, Option.map_some] at hj
    exact ⟨f t, hj, hsame t⟩
  · rw [if_neg hne, ht] at hj
    exact ⟨t, hj, rfl, rfl, rfl, rfl, rfl⟩

theorem keepsQueues_wakeTarget (s : KernelState) (dst : Int) (t : Thread) :
    KeepsQueues s (wakeTarget s dst t) := by
  unfold wakeTarget
  split
  · unfold doThreadReady ThreadTable.modifyTid
    split
    · exact KeepsQueues.refl s
    · apply keepsQueues_modify
      intro t
      split <;> exact ⟨rfl, rfl, rfl, rfl, rfl⟩
  · exact KeepsQueues.refl s

theorem keepsQueues_respond (s : KernelState) (dst : Int) : KeepsQueues s (respond s dst) := by
  unfold respond
  split
  · exact keepsQueues_modify s dst.toNat answerEvent (fun _ => rfl) fun _ => ⟨rfl, rfl, rfl, rfl, rfl⟩
  · exact KeepsQueues.refl s

theorem keepsQueues_boostMouse (s : KernelState) (dst msg : Int) :
    KeepsQueues s (boostMouse s dst msg) := by
  unfold boostMouse
  split
  · exact keepsQueues_modify s dst.toNat boostQuantum (fun _ => rfl) fun _ => ⟨rfl, rfl, rfl, rfl, rfl⟩
  · exact KeepsQueues.refl s

/-- The machine and the messages that were posted to one thread and not returned to it yet,
the oldest first. -/
structure MailSystem where
  kernel : KernelState
  pending : List Message

/-- A call at the time `jiffies`; the thread `tid` is the one that gets. -/
inductive MailCall where
  | post (jiffies : UInt64) (sender receiver msg : Int) (long1 long2 : UInt64)
  | post2 (jiffies : UInt64) (sender receiver msg : Int) (long1 long2 long3 long4 : UInt64)
  | get (jiffies : UInt64) (tid : Int) (ubuf : Option (Nat → UInt64))

/-- The messages that a call posts to the thread and returns to it. -/
structure MailOutcome where
  result : Int
  posted : List Content
  returned : List Content

/-- What a post that has returned adds to the mail of the thread `tid`. -/
def recordPost (tid : Nat) (s : MailSystem) (receiver : Int) (m : Message) :
    Except String (Int × KernelState) → Except String (MailOutcome × MailSystem)
  | .error e => .error e
  | .ok (rc, kernel) =>
      let posted := if rc = 0 ∧ receiver % 0x10000 = tid then [m] else []
      .ok (⟨rc, posted.map messageContent, []⟩, ⟨kernel, s.pending ++ posted⟩)

def mailStep (tid : Nat) (s : MailSystem) :
    MailCall → Except String (MailOutcome × MailSystem)
  | .post jiffies sender receiver msg long1 long2 =>
      recordPost tid s receiver
        (fillMessage (sender % 0x10000) (receiver % 0x10000) msg long1 long2 jiffies jiffies
          emptyMessage)
        (ipcPostMessageToTid { s.kernel with jiffies := jiffies } sender receiver msg
          long1 long2)
  | .post2 jiffies sender receiver msg long1 long2 long3 long4 =>
      recordPost tid s receiver
        (fillMessage (sender % 0x10000) (receiver % 0x10000) msg long1 long2 long3 long4
          emptyMessage)
        (ipcPostMessageToTid2 { s.kernel with jiffies := jiffies } sender receiver msg
          long1 long2 long3 long4)
  | .get jiffies caller ubuf =>
      match ipcGetMessage { s.kernel with jiffies := jiffies, currentThread := caller } ubuf
        with
      | .error e => .error e
      | .ok (out, kernel) =>
          let returned :=
            if out.result = 1 ∧ caller = tid then [readContent out.words] else []
          .ok (⟨out.result, [], returned⟩, ⟨kernel, s.pending.drop returned.length⟩)

def lastQueued (s : KernelState) (tid : Nat) : Option Message :=
  (s.threads.threadList tid).bind fun t => t.msgQueue (lastIndex t)

def Repeats (dst msg : Int) (long1 : UInt64) (last : Message) : Prop :=
  last.receiverTid = dst ∧ last.msg = msg ∧
    (msg = MSG_MOUSEMOVE ∨ msg = MSG_KEYDOWN ∧ last.long1 = long1 ∨
      isControlArrow msg = true)

instance (dst msg : Int) (long1 : UInt64) (last : Message) :
    Decidable (Repeats dst msg long1 last) :=
  inferInstanceAs (Decidable (_ ∧ _))

def HasRoom (tid : Nat) (s : MailSystem) : MailCall → Prop
  | .post _ _ receiver msg long1 _ =>
      receiver % 0x10000 = tid → 0 < msg → s.pending.length < MSG_QUEUE_MAX ∧
        ∀ last ∈ lastQueued s.kernel tid, ¬ Repeats tid msg long1 last
  | .post2 _ _ receiver msg _ _ _ _ =>
      receiver % 0x10000 = tid → 0 ≤ msg → s.pending.length < MSG_QUEUE_MAX
  | .get _ _ _ => True

/-- No message of code 0 is posted to the thread, and it gets only while a message is
pending. -/
def Consumable (tid : Nat) (s : MailSystem) : MailCall → Prop
  | .post _ _ _ _ _ _ => True
  | .post2 _ _ receiver msg _ _ _ _ => receiver % 0x10000 = tid → msg ≠ 0
  | .get _ caller _ => caller = tid → s.pending ≠ []

instance (tid : Nat) (s : MailSystem) : ∀ call, Decidable (HasRoom tid s call)
  | .post _ _ _ _ _ _ => inferInstanceAs (Decidable (_ → _ → _ ∧ _))
  | .post2 _ _ _ _ _ _ _ _ => inferInstanceAs (Decidable (_ → _ → _))
  | .get _ _ _ => inferInstanceAs (Decidable True)

instance (tid : Nat) (s : MailSystem) : ∀ call, Decidable (Consumable tid s call)
  | .post _ _ _ _ _ _ => inferInstanceAs (Decidable True)
  | .post2 _ _ _ _ _ _ _ _ => inferInstanceAs (Decidable (_ → _))
  | .get _ _ _ => inferInstanceAs (Decidable (_ → _))

def Served (tid : Nat) : MailCall → MailOutcome → Prop
  | .get _ caller _, out => caller = tid → out.returned.length = 1
  | _, _ => True

def MailInv (tid : Nat) (s : MailSystem) : Prop :=
  ∃ t, s.kernel.threads.threadList tid = some t ∧ QueueInv t s.pending

theorem target_ok (h : target name s dst = .ok t) :
    0 ≤ dst ∧ s.threads.threadList dst.toNat = some t ∧ t.Valid := by
  unfold target at h
  split at h
  · cases h
  split at h
  · cases h
  rename_i hrange t' ht'
  split at h
  · cases h
  split at h
  · cases h
  rename_i hvalid _
  cases h
  exact ⟨by omega, ht', not_not.mp hvalid⟩

theorem lastMessage_ok (h : lastMessage msg t = .ok last) :
    t.msgQueue (lastIndex t) = some last := by
  rw [lastMessage] at h
  cases hqueue : t.msgQueue (lastIndex t) with
  | none =>
      rw [hqueue] at h
      cases h
  | some m =>
      rw [hqueue] at h
      by_cases hvalid : m.Valid
      · simp only [hvalid, not_true_eq_false, if_false, Except.ok.injEq] at h
        rw [h]
      · simp only [hvalid, not_false_eq_true, if_true, reduceCtorEq] at h

theorem coalesce_none (h : ¬ Repeats dst msg long1 last) (jiffies : UInt64) (src : Int)
    (long2 : UInt64) :
    coalesce jiffies src dst msg long1 long2 last = none := by
  unfold coalesce
  split
  · rename_i hmsg
    rw [if_neg]
    rintro ⟨hlast, hreceiver⟩
    exact h ⟨hreceiver, hlast.trans hmsg.symm, .inl hmsg⟩
  split
  · rename_i hmsg
    rw [if_neg]
    rintro ⟨hreceiver, hlast, hlong1⟩
    exact h ⟨hreceiver, hlast.trans hmsg.symm, .inr (.inl ⟨hmsg, hlong1⟩)⟩
  split
  · rename_i hmsg
    rw [if_neg]
    rintro ⟨hreceiver, hlast⟩
    exact h ⟨hreceiver, hlast, .inr (.inr hmsg)⟩
  · rfl

/-- A thread has a property. -/
def Has (tid : Nat) (P : Thread → Prop) (s : KernelState) : Prop :=
  ∃ t, s.threads.threadList tid = some t ∧ P t

theorem Has.keeps {P : Thread → Prop} {s' : KernelState} (h : Has tid P s)
    (hkeeps : KeepsQueues s s') (hP : ∀ {t t'}, P t → SameQueue t t' → P t') : Has tid P s' := by
  obtain ⟨t, ht, hp⟩ := h
  obtain ⟨t', ht', hsame⟩ := hkeeps tid t ht
  exact ⟨t', ht', hP hp hsame⟩

theorem Has.modify {P Q : Thread → Prop} {i : Nat} (h : Has tid P s) (f : Thread → Thread)
    (hf : ∀ t, (f t).tid = t.tid) (hself : tid = i → ∀ t, P t → Q (f t))
    (hother : tid ≠ i → ∀ t, P t → Q t) : Has tid Q (s.modify i f hf) := by
  obtain ⟨t, ht, hp⟩ := h
  have hthreads := threadList_modify s.threads i f hf tid
  rcases eq_or_ne tid i with rfl | hne
  · rw [if_pos rfl, ht, Option.map_some] at hthreads
    exact ⟨f t, hthreads, hself rfl t hp⟩
  · rw [if_neg hne, ht] at hthreads
    exact ⟨t, hthreads, hother hne t hp⟩

theorem enqueue_ok {src : Int} (h : enqueue name s dst t
      (fillMessage src dst msg long1 long2 long3 long4) = .ok (rc, u)) :
    rc = 0 ∧ u = s.modify dst.toNat
      (pushMessage (fillMessage src dst msg long1 long2 long3 long4 emptyMessage))
      fun _ => rfl := by
  unfold enqueue at h
  split at h
  · cases h
  split at h
  · cases h
  rename_i m _ hvalid
  rw [fillMessage_valid (not_not.mp hvalid)] at h
  cases h
  exact ⟨rfl, rfl⟩

theorem mailInv_push (h : MailInv tid ⟨s, pending⟩) (hdst : 0 ≤ dst) (hvalid : m.Valid)
    (hroom : dst = tid → pending.length < MSG_QUEUE_MAX) (hmsg : dst = tid → 0 < m.msg) :
    MailInv tid ⟨s.modify dst.toNat (pushMessage m) fun _ => rfl,
      pending ++ if dst = tid then [m] else []⟩ := by
  refine Has.modify h _ _ (fun heq t hqueue => ?_) fun hne t hqueue => ?_
  · have hself : dst = tid := by omega
    rw [if_pos hself]
    exact queueInv_push hqueue (hroom hself) hvalid (hmsg hself)
  · rw [if_neg (by omega), List.append_nil]
    exact hqueue

theorem keepsQueues_deliver (s : KernelState) (dst : Int) (t : Thread) :
    KeepsQueues s (respond (wakeTarget s dst t) dst) :=
  (keepsQueues_wakeTarget s dst t).trans (keepsQueues_respond _ dst)

theorem ipcPostMessageToTid2_cases
    (h : ipcPostMessageToTid2 s sender receiver msg long1 long2 long3 long4 = .ok (rc, u)) :
    (rc = -1 ∧ u = s) ∨ ∃ s', 0 ≤ msg ∧ rc = 0 ∧ KeepsQueues s s' ∧
      u = s'.modify (receiver % 0x10000).toNat (pushMessage (fillMessage (sender % 0x10000)
        (receiver % 0x10000) msg long1 long2 long3 long4 emptyMessage)) fun _ => rfl := by
  unfold ipcPostMessageToTid2 at h
  dsimp only at h
  split at h
  · cases h
    exact .inl ⟨rfl, rfl⟩
  rename_i hcode
  split at h
  · cases h
  obtain ⟨rfl, rfl⟩ := enqueue_ok h
  exact .inr ⟨_, not_lt.mp hcode, rfl, keepsQueues_deliver s _ _, rfl⟩

theorem mailInv_post2
    (h : MailInv tid ⟨s, pending⟩)
    (hroom : receiver % 0x10000 = tid → 0 ≤ msg → pending.length < MSG_QUEUE_MAX)
    (hmsg : receiver % 0x10000 = tid → msg ≠ 0)
    (hpost : ipcPostMessageToTid2 s sender receiver msg long1 long2 long3 long4 = .ok (rc, u)) :
    MailInv tid ⟨u, pending ++
      if rc = 0 ∧ receiver % 0x10000 = tid then
        [fillMessage (sender % 0x10000) (receiver % 0x10000) msg long1 long2 long3 long4
          emptyMessage]
      else []⟩ := by
  rcases ipcPostMessageToTid2_cases hpost with ⟨rfl, rfl⟩ | ⟨s', hcode, rfl, hkeeps, rfl⟩
  · rw [if_neg (fun hrc => absurd hrc.1 (by decide)), List.append_nil]
    exact h
  · simp only [true_and]
    exact mailInv_push (Has.keeps h hkeeps queueInv_congr) (by omega) ⟨rfl, rfl⟩
      (fun heq => hroom heq hcode) fun heq => lt_of_le_of_ne hcode (hmsg heq).symm

theorem ipcPostMessageToTid_cases
    (h : ipcPostMessageToTid s sender receiver msg long1 long2 = .ok (rc, u)) :
    (msg ≤ 0 ∧ rc = -1 ∧ u = s) ∨
      ∃ t s', 0 < msg ∧ s.threads.threadList (receiver % 0x10000).toNat = some t ∧
        KeepsQueues s s' ∧
        ((∃ last m, t.msgQueue (lastIndex t) = some last ∧
            coalesce s.jiffies (sender % 0x10000) (receiver % 0x10000) msg long1 long2 last =
              some m ∧
            rc = 0 ∧ u = s'.modify (receiver % 0x10000).toNat (mergeMessage m) fun _ => rfl) ∨
          (mayCoalesce msg = true → ∃ last, t.msgQueue (lastIndex t) = some last ∧
            coalesce s.jiffies (sender % 0x10000) (receiver % 0x10000) msg long1 long2 last =
              none) ∧
          rc = 0 ∧ u = s'.modify (receiver % 0x10000).toNat (pushMessage
            (fillMessage (sender % 0x10000) (receiver % 0x10000) msg long1 long2 s.jiffies
              s.jiffies emptyMessage)) fun _ => rfl) := by
  unfold ipcPostMessageToTid at h
  dsimp only at h
  split at h
  · rename_i hcode
    cases h
    exact .inl ⟨hcode, rfl, rfl⟩
  rename_i hcode
  split at h
  · cases h
  rename_i t htarget
  obtain ⟨_, ht, _⟩ := target_ok htarget
  have hkeeps := (keepsQueues_deliver s (receiver % 0x10000) t).trans
    (keepsQueues_boostMouse _ (receiver % 0x10000) msg)
  have hjiffies : (boostMouse (respond (wakeTarget s (receiver % 0x10000) t)
      (receiver % 0x10000)) (receiver % 0x10000) msg).jiffies = s.jiffies := by
    unfold boostMouse respond wakeTarget
    split <;> split <;> split <;> rfl
  rw [hjiffies] at h
  refine .inr ⟨t, _, not_le.mp hcode, ht, hkeeps, ?_⟩
  split at h
  · split at h
    · cases h
    rename_i last hlast
    split at h
    · rename_i m hm
      cases h
      exact .inl ⟨last, m, lastMessage_ok hlast, hm, rfl, rfl⟩
    · rename_i hnone
      exact .inr ⟨fun _ => ⟨last, lastMessage_ok hlast, hnone⟩, enqueue_ok h⟩
  · rename_i hmay
    exact .inr ⟨fun hyes => absurd hyes hmay, enqueue_ok h⟩

theorem mailInv_post
    (h : MailInv tid ⟨s, pending⟩)
    (hroom : receiver % 0x10000 = tid → 0 < msg → pending.length < MSG_QUEUE_MAX ∧
      ∀ last ∈ lastQueued s tid, ¬ Repeats tid msg long1 last)
    (hpost : ipcPostMessageToTid s sender receiver msg long1 long2 = .ok (rc, u)) :
    MailInv tid ⟨u, pending ++
      if rc = 0 ∧ receiver % 0x10000 = tid then
        [fillMessage (sender % 0x10000) (receiver % 0x10000) msg long1 long2 s.jiffies
          s.jiffies emptyMessage]
      else []⟩ := by
  have hdst : 0 ≤ receiver % 0x10000 := by omega
  rcases ipcPostMessageToTid_cases hpost with ⟨_, rfl, rfl⟩ |
    ⟨t, s', hpos, ht, hkeeps, ⟨last, m, hlast, hmerge, _, rfl⟩ | ⟨_, rfl, rfl⟩⟩
  · rw [if_neg (fun hrc => absurd hrc.1 (by decide)), List.append_nil]
    exact h
  · have hne : receiver % 0x10000 ≠ tid := by
      intro heq
      rw [heq] at ht hmerge
      have hnot := (hroom heq hpos).2 last (by
        rw [lastQueued, ← Int.toNat_natCast tid, ht, Option.bind_some]
        exact hlast)
      rw [coalesce_none hnot] at hmerge
      cases hmerge
    rw [if_neg (fun hrc => hne hrc.2), List.append_nil]
    exact Has.modify (Has.keeps h hkeeps queueInv_congr) _ _ (fun heq => by omega)
      fun _ _ hqueue => hqueue
  · simp only [true_and]
    exact mailInv_push (Has.keeps h hkeeps queueInv_congr) hdst ⟨rfl, rfl⟩
      (fun heq => (hroom heq hpos).1) fun _ => hpos

theorem ipcGetMessage_own (hcaller : s.currentThread = tid) (ht : s.threads.threadList tid = some t)
    (hvalid : t.Valid) (hhead : t.msgQueue t.msgQueueHead = some m) (hm : m.Valid)
    (hpos : 0 < m.msg) (hget : ipcGetMessage s ubuf = .ok (out, u)) :
    out.result = 1 ∧ readContent out.words = messageContent m ∧
      u = s.modify tid (takeMessage m) fun _ => rfl := by
  have hlt := s.threads.lt_max tid t ht
  unfold ipcGetMessage at hget
  split at hget
  · cases hget
  rw [if_neg (by omega), hcaller, Int.toNat_natCast, ht] at hget
  dsimp only at hget
  rw [if_neg (not_not_intro hvalid), hhead] at hget
  dsimp only at hget
  rw [if_neg (not_not_intro hm), if_neg (by omega)] at hget
  cases hget
  exact ⟨rfl, readContent_storeMessage .., rfl⟩

theorem ipcGetMessage_other (hcaller : s.currentThread ≠ tid)
    (hget : ipcGetMessage s ubuf = .ok (out, u)) :
    u.threads.threadList tid = s.threads.threadList tid := by
  unfold ipcGetMessage at hget
  split at hget
  · cases hget
  split at hget
  · cases hget
    rfl
  have hne : tid ≠ s.currentThread.toNat := by omega
  have hframe : ∀ (f : Thread → Thread) (hf : ∀ t, (f t).tid = t.tid),
      (s.modify s.currentThread.toNat f hf).threads.threadList tid = s.threads.threadList tid := by
    intro f hf
    exact (threadList_modify s.threads _ f hf tid).trans (if_neg hne)
  split at hget
  · cases hget
  split at hget
  · cases hget
  split at hget
  · cases hget
    rfl
  dsimp only at hget
  split at hget
  · cases hget
    exact hframe _ _
  split at hget
  · cases hget
    exact hframe _ _
  · cases hget
    exact hframe _ _

theorem mailInv_get (h : MailInv tid ⟨s, m :: pending⟩) (hcaller : s.currentThread = tid)
    (hget : ipcGetMessage s ubuf = .ok (out, u)) :
    out.result = 1 ∧ readContent out.words = messageContent m ∧ MailInv tid ⟨u, pending⟩ := by
  obtain ⟨t, ht, hqueue⟩ := h
  obtain ⟨hhead, hpos⟩ := queueInv_head hqueue
  obtain ⟨m', hm', hvalid⟩ := hqueue.slots _ hqueue.head_lt
  rw [hhead] at hm'
  cases hm'
  obtain ⟨hresult, hcontent, rfl⟩ :=
    ipcGetMessage_own hcaller ht hqueue.valid hhead hvalid hpos hget
  refine ⟨hresult, hcontent, ?_⟩
  have hself := threadList_modify s.threads tid (takeMessage m) (fun _ => rfl) tid
  dsimp only at ht
  rw [if_pos rfl, ht, Option.map_some] at hself
  exact ⟨_, hself, queueInv_pop hqueue hvalid⟩

theorem mailInv_get_other (h : MailInv tid ⟨s, pending⟩) (hcaller : s.currentThread ≠ tid)
    (hget : ipcGetMessage s ubuf = .ok (out, u)) : MailInv tid ⟨u, pending⟩ := by
  obtain ⟨t, ht, hqueue⟩ := h
  exact ⟨t, (ipcGetMessage_other hcaller hget).trans ht, hqueue⟩

theorem recordPost_ok {s t : MailSystem} {result : Except String (Int × KernelState)}
    {out : MailOutcome} (h : recordPost tid s receiver m result = .ok (out, t)) :
    ∃ rc kernel, result = .ok (rc, kernel) ∧
      out = ⟨rc, (if rc = 0 ∧ receiver % 0x10000 = tid then [m] else []).map messageContent, []⟩ ∧
      t = ⟨kernel, s.pending ++ if rc = 0 ∧ receiver % 0x10000 = tid then [m] else []⟩ := by
  cases result with
  | error e => cases h
  | ok pair =>
      cases h
      exact ⟨_, _, rfl, rfl, rfl⟩

theorem mailStep_get {s t : MailSystem} {jiffies : UInt64} {caller : Int} {out : MailOutcome}
    (h : MailInv tid s) (hpending : caller = tid → s.pending ≠ [])
    (hstep : mailStep tid s (.get jiffies caller ubuf) = .ok (out, t)) :
    s.pending.map messageContent = out.returned ++ t.pending.map messageContent ∧
      out.posted = [] ∧ (caller = tid → out.returned.length = 1) ∧ MailInv tid t := by
  obtain ⟨kernel, pending⟩ := s
  rw [mailStep] at hstep
  split at hstep
  · cases hstep
  rename_i got kernel' hget
  cases hstep
  dsimp only at hpending hget ⊢
  rcases eq_or_ne caller tid with rfl | hne
  · obtain ⟨m, rest, rfl⟩ := List.exists_cons_of_ne_nil (hpending rfl)
    obtain ⟨hresult, hcontent, hinv⟩ := mailInv_get
      (s := { kernel with jiffies := jiffies, currentThread := tid }) h rfl hget
    rw [if_pos ⟨hresult, rfl⟩, hcontent]
    exact ⟨rfl, rfl, fun _ => rfl, hinv⟩
  · have hinv := mailInv_get_other
      (s := { kernel with jiffies := jiffies, currentThread := caller }) h hne hget
    rw [if_neg (fun hget => hne hget.2)]
    exact ⟨rfl, rfl, fun heq => absurd heq hne, hinv⟩

theorem mailStep_spec {s t : MailSystem} {call : MailCall} {out : MailOutcome} (h : MailInv tid s)
    (hguard : HasRoom tid s call ∧ Consumable tid s call)
    (hstep : mailStep tid s call = .ok (out, t)) :
    s.pending.map messageContent ++ out.posted = out.returned ++ t.pending.map messageContent ∧
      Served tid call out ∧ MailInv tid t := by
  obtain ⟨hroom, hconsumable⟩ := hguard
  cases call with
  | post jiffies sender receiver msg long1 long2 =>
      obtain ⟨rc, kernel, hpost, rfl, rfl⟩ := recordPost_ok hstep
      refine ⟨(List.map_append ..).symm, trivial, ?_⟩
      exact mailInv_post (s := { s.kernel with jiffies := jiffies }) h hroom hpost
  | post2 jiffies sender receiver msg long1 long2 long3 long4 =>
      obtain ⟨rc, kernel, hpost, rfl, rfl⟩ := recordPost_ok hstep
      refine ⟨(List.map_append ..).symm, trivial, ?_⟩
      exact mailInv_post2 (s := { s.kernel with jiffies := jiffies }) h hroom hconsumable hpost
  | get jiffies caller ubuf =>
      obtain ⟨hqueue, hposted, hserved, hinv⟩ := mailStep_get h hconsumable hstep
      rw [hposted, List.append_nil]
      exact ⟨hqueue, hserved, hinv⟩

structure EmptyQueue (t : Thread) : Prop where
  valid : t.Valid
  slots : ∀ i, i < MSG_QUEUE_MAX → ∃ m, t.msgQueue i = some m ∧ m.Valid ∧ m.msg ≤ 0
  head_lt : t.msgQueueHead < MSG_QUEUE_MAX
  tail_eq : t.msgQueueTail = t.msgQueueHead

theorem emptyQueue_inv (h : EmptyQueue t) : QueueInv t [] := by
  constructor
  · exact h.valid
  · intro i hi
    obtain ⟨m, hm, hvalid, _⟩ := h.slots i hi
    exact ⟨m, hm, hvalid⟩
  · exact h.head_lt
  · exact Nat.zero_le _
  · rw [List.length_nil, Nat.add_zero, Nat.mod_eq_of_lt h.head_lt]
    exact h.tail_eq
  · rfl
  · intro m hm
    cases hm

/-- In every run of posts and gets by any threads in which the thread `tid`, whose queue is
empty at first, gets only while a message is pending, the messages that it gets are those
posted to it, in the order of the posts, and each of its gets returns one. -/
theorem mail_run_fifo {tid : Nat} {s : KernelState} {t : Thread}
    (ht : s.threads.threadList tid = some t) (hempty : EmptyQueue t)
    {calls : List MailCall} {outs : List MailOutcome} {u : MailSystem}
    (hguard : Run.Guarded (mailStep tid)
      (fun s call => HasRoom tid s call ∧ Consumable tid s call) ⟨s, []⟩ calls)
    (hrun : Run.run (mailStep tid) ⟨s, []⟩ calls = .ok (outs, u)) :
    Run.gather (fun _ out => out.posted) calls outs =
        Run.gather (fun _ out => out.returned) calls outs ++ u.pending.map messageContent ∧
      List.Forall₂ (Served tid) calls outs := by
  have hinit : MailInv tid ⟨s, []⟩ := ⟨t, ht, emptyQueue_inv hempty⟩
  constructor
  · refine Run.run_fifo (MailInv tid) (fun s => s.pending.map messageContent)
      (fun _ out => out.posted) (fun _ out => out.returned) ?_ hinit hguard hrun
    intro s call out t hs hg hstep
    obtain ⟨hqueue, _, ht⟩ := mailStep_spec hs hg hstep
    exact ⟨hqueue, ht⟩
  · refine Run.run_forall₂ (MailInv tid) (Served tid) ?_ hinit hguard hrun
    intro s call out t hs hg hstep
    exact (mailStep_spec hs hg hstep).2

def twoThreads : KernelState :=
  bootedKernel .rr (ThreadTable.ofFn 2 fun i => newThread 0 i .running)

theorem mail_run_fifo_example :
    ∃ outs u, Run.run (mailStep 1) ⟨twoThreads, []⟩
        [.post 5 0 1 10 7 8, .post2 6 0 1 11 1 2 3 4, .get 7 1 (some fun _ => 0),
          .get 8 1 (some fun _ => 0)] = .ok (outs, u) ∧
      List.Forall₂ (Served 1)
        [.post 5 0 1 10 7 8, .post2 6 0 1 11 1 2 3 4, .get 7 1 (some fun _ => 0),
          .get 8 1 (some fun _ => 0)] outs := by
  have hempty : EmptyQueue (newThread 0 1 .running) := by
    refine ⟨⟨rfl, rfl⟩, ?_, by decide, rfl⟩
    intro i hi
    exact ⟨emptyMessage, if_pos hi, ⟨rfl, rfl⟩, by decide⟩
  have hrun : Run.run (mailStep 1) ⟨twoThreads, []⟩
      [.post 5 0 1 10 7 8, .post2 6 0 1 11 1 2 3 4, .get 7 1 (some fun _ => 0),
        .get 8 1 (some fun _ => 0)] = .ok (_, _) := rfl
  exact ⟨_, _, hrun,
    (mail_run_fifo (s := twoThreads) (t := newThread 0 1 .running) rfl hempty (by decide)
      hrun).2⟩

/-- A get that finds the queue empty moves the head all the same, so that of two messages
posted after it the second is returned first. -/
theorem get_out_of_order :
    ¬ ∀ (calls : List MailCall) (outs : List MailOutcome) (u : MailSystem),
      Run.Guarded (mailStep 1) (HasRoom 1) ⟨twoThreads, []⟩ calls →
      Run.run (mailStep 1) ⟨twoThreads, []⟩ calls = .ok (outs, u) →
      Run.gather (fun _ out => out.returned) calls outs <+:
        Run.gather (fun _ out => out.posted) calls outs := by
  intro hclaim
  have hprefix := hclaim
    [.get 5 1 (some fun _ => 0), .post 6 0 1 10 7 8, .post 7 0 1 11 7 8,
      .get 8 1 (some fun _ => 0)] _ _ (by decide) rfl
  exact absurd hprefix (by decide)

end Gramado.Ke.Mailbox
