import Gramado.Ke.Table

/-! The message queue of a thread: `ipc_post_message_to_tid`, `ipc_post_message_to_tid2` and
`ipc_get_message`. -/

namespace Gramado.Ke.Ipc

open Ke.Table

def MSG_KEYDOWN : Int := 20
def MSG_MOUSEMOVE : Int := 32
def MSG_CONTROL_ARROW_UP : Int := 80
def MSG_CONTROL_ARROW_DOWN : Int := 81
def MSG_CONTROL_ARROW_LEFT : Int := 82
def MSG_CONTROL_ARROW_RIGHT : Int := 83

def isControlArrow (code : Int) : Bool :=
  code = MSG_CONTROL_ARROW_UP ∨ code = MSG_CONTROL_ARROW_DOWN ∨
    code = MSG_CONTROL_ARROW_LEFT ∨ code = MSG_CONTROL_ARROW_RIGHT

def nextIndex (i : Nat) : Nat :=
  if MSG_QUEUE_MAX ≤ i + 1 then 0 else i + 1

/-- The checks on the target thread, which panic under the name of the post routine. -/
def target (name : String) (s : KernelState) (dst : Int) : Except String Thread :=
  if dst < 0 ∨ THREAD_COUNT_MAX ≤ dst then .error (name ++ ": dst_tid\n")
  else
    match s.threads.threadList dst.toNat with
    | none => .error (name ++ ": t\n")
    | some t =>
        if ¬ t.Valid then .error (name ++ ": t validation\n")
        else if t.tid ≠ dst then .error (name ++ ": t->tid != dst_tid\n")
        else .ok t

/-- Wake up the target thread `t` if it waits for one of the reasons that a message ends. -/
def wakeTarget (s : KernelState) (dst : Int) (t : Thread) : KernelState :=
  if (t.state = .waiting ∨ t.state = .blocked) ∧ t.waitReason.wakes = true then
    { s with threads := doThreadReady s.threads dst }
  else s

def answerEvent (t : Thread) : Thread :=
  { t with
    hasPendingEvent := true
    quantum := QUANTUM_MAX
    priority := PRIORITY_MAX
    state := .ready }

def respond (s : KernelState) (dst : Int) : KernelState :=
  if s.useEventResponder = true then
    { s.modify dst.toNat answerEvent fun _ => rfl with evResponderThread := some dst.toNat }
  else s

def pushMessage (m : Message) (t : Thread) : Thread :=
  { t with
    msgQueue := Function.update t.msgQueue t.msgQueueTail (some m)
    msgQueueTail := nextIndex t.msgQueueTail }

def enqueue (name : String) (s : KernelState) (dst : Int) (t : Thread)
    (fill : Message → Message) : Except String (Int × KernelState) :=
  match t.msgQueue t.msgQueueTail with
  | none => .error (name ++ ": m\n")
  | some m =>
      if ¬ m.Valid then .error (name ++ ": m validation\n")
      else .ok (0, s.modify dst.toNat (pushMessage (fill m)) fun _ => rfl)

def fillMessage (src dst msg : Int) (long1 long2 long3 long4 : UInt64) (m : Message) :
    Message :=
  { m with
    opaqueWindow := 0
    msg := msg
    long1 := long1
    long2 := long2
    long3 := long3
    long4 := long4
    senderTid := src
    receiverTid := dst }

def ipcPostMessageToTid2 (s : KernelState) (senderTid receiverTid msg : Int)
    (long1 long2 long3 long4 : UInt64) : Except String (Int × KernelState) :=
  let srcTid := senderTid % 0x10000
  let dstTid := receiverTid % 0x10000
  if msg < 0 then .ok (-1, s)
  else
    match target "ipc_post_message_to_tid2" s dstTid with
    | .error e => .error e
    | .ok t =>
        enqueue "ipc_post_message_to_tid2" (respond (wakeTarget s dstTid t) dstTid) dstTid t
          (fillMessage srcTid dstTid msg long1 long2 long3 long4)

def coalesce (jiffies : UInt64) (src dst msg : Int) (long1 long2 : UInt64) (last : Message) :
    Option Message :=
  if msg = MSG_MOUSEMOVE then
    if last.msg = MSG_MOUSEMOVE ∧ last.receiverTid = dst then
      some
        { last with
          long1 := long1, long2 := long2, long3 := jiffies, long4 := jiffies
          senderTid := src, receiverTid := dst }
    else none
  else if msg = MSG_KEYDOWN then
    if last.receiverTid = dst ∧ last.msg = MSG_KEYDOWN ∧ last.long1 = long1 then
      some
        { last with
          long1 := long1, long2 := long2, long3 := jiffies, long4 := last.long4 + 1
          senderTid := src, receiverTid := dst }
    else none
  else if isControlArrow msg = true then
    if last.receiverTid = dst ∧ last.msg = msg then
      some
        { last with
          long3 := jiffies, long4 := last.long4 + 1
          senderTid := src, receiverTid := dst }
    else none
  else none

def lastIndex (t : Thread) : Nat :=
  (t.msgQueueTail + MSG_QUEUE_MAX - 1) % MSG_QUEUE_MAX

/-- The last message that was queued, which the post looks at under one name for the mouse
and another for the keys. -/
def lastMessage (msg : Int) (t : Thread) : Except String Message :=
  let name :=
    if msg = MSG_MOUSEMOVE then "ipc_post_message_to_tid: last_msg"
    else "ipc_post_message_to_tid: __last_msg"
  match t.msgQueue (lastIndex t) with
  | none => .error (name ++ "\n")
  | some m => if ¬ m.Valid then .error (name ++ " validation\n") else .ok m

def mayCoalesce (msg : Int) : Bool :=
  msg = MSG_MOUSEMOVE ∨ msg = MSG_KEYDOWN ∨ isControlArrow msg = true

def boostQuantum (t : Thread) : Thread :=
  { t with quantum := QUANTUM_MAX * 2, state := .ready }

def boostMouse (s : KernelState) (dst msg : Int) : KernelState :=
  if msg = MSG_MOUSEMOVE then s.modify dst.toNat boostQuantum fun _ => rfl else s

def mergeMessage (m : Message) (t : Thread) : Thread :=
  { t with msgQueue := Function.update t.msgQueue (lastIndex t) (some m) }

def ipcPostMessageToTid (s : KernelState) (senderTid receiverTid msg : Int)
    (long1 long2 : UInt64) : Except String (Int × KernelState) :=
  let srcTid := senderTid % 0x10000
  let dstTid := receiverTid % 0x10000
  if msg ≤ 0 then .ok (-1, s)
  else
    match target "ipc_post_message_to_tid" s dstTid with
    | .error e => .error e
    | .ok t =>
        let s := boostMouse (respond (wakeTarget s dstTid t) dstTid) dstTid msg
        let fill := fillMessage srcTid dstTid msg long1 long2 s.jiffies s.jiffies
        if mayCoalesce msg = true then
          match lastMessage msg t with
          | .error e => .error e
          | .ok last =>
              match coalesce s.jiffies srcTid dstTid msg long1 long2 last with
              | some m => .ok (0, s.modify dstTid.toNat (mergeMessage m) fun _ => rfl)
              | none => enqueue "ipc_post_message_to_tid" s dstTid t fill
        else enqueue "ipc_post_message_to_tid" s dstTid t fill

/-- What `ipc_get_message` returns and the words that it leaves in the buffer. -/
structure GetOutcome where
  result : Nat
  words : Nat → UInt64

def storeMessage (jiffies : UInt64) (m : Message) (words : Nat → UInt64) : Nat → UInt64
  | 0 => m.opaqueWindow
  | 1 => UInt64.ofNat (m.msg % 0x100000000).toNat
  | 2 => m.long1
  | 3 => m.long2
  | 4 => m.long3
  | 5 => m.long4
  | 8 => UInt64.ofInt m.senderTid
  | 9 => UInt64.ofInt m.receiverTid
  | 10 => m.long3
  | 11 => jiffies
  | i => words i

def clearMessage (m : Message) : Message :=
  { m with
    opaqueWindow := 0, msg := 0, long1 := 0, long2 := 0, long3 := 0, long4 := 0
    senderTid := 0, receiverTid := 0 }

/-- A thread that finds nothing too many times, and wants to block then, asks for it. -/
def missMessage (ctl : MsgCtl) : MsgCtl :=
  let missCount := ctl.missCount + 1
  if ctl.blockOnEmpty = true ∧ (MSG_QUEUE_MAX : Int) + 4 < missCount then
    { ctl with blockInProgress := true, missCount := 0 }
  else { ctl with missCount := missCount }

def skipMessage (t : Thread) : Thread :=
  { t with msgQueueHead := nextIndex t.msgQueueHead }

def skipEmpty (t : Thread) : Thread :=
  skipMessage { t with msgctl := missMessage t.msgctl }

def takeMessage (m : Message) (t : Thread) : Thread :=
  skipMessage
    { t with msgQueue := Function.update t.msgQueue t.msgQueueHead (some (clearMessage m)) }

def ipcGetMessage (s : KernelState) (ubuf : Option (Nat → UInt64)) :
    Except String (GetOutcome × KernelState) :=
  match ubuf with
  | none => .error "ipc_get_message: ubuf\n"
  | some words =>
      if s.currentThread < 0 ∨ THREAD_COUNT_MAX ≤ s.currentThread then .ok (⟨0, words⟩, s)
      else
        match s.threads.threadList s.currentThread.toNat with
        | none => .error "ipc_get_message: t\n"
        | some t =>
            if ¬ t.Valid then .error "ipc_get_message: t validation\n"
            else
              match t.msgQueue t.msgQueueHead with
              | none => .ok (⟨0, words⟩, s)
              | some m =>
                  let tid := s.currentThread.toNat
                  if ¬ m.Valid then
                    .ok (⟨0, words⟩, s.modify tid skipMessage fun _ => rfl)
                  else if m.msg ≤ 0 then
                    .ok (⟨0, words⟩, s.modify tid skipEmpty fun _ => rfl)
                  else
                    .ok (⟨1, storeMessage s.jiffies m words⟩,
                      s.modify tid (takeMessage m) fun _ => rfl)

end Gramado.Ke.Ipc
