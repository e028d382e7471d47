import Gramado.Library.Ring
import Gramado.Library.Run

/-! The event queue of a window of the display server. -/

namespace Gramado.Ds.EventQueue

open Library Library.Run

def WINDOW_COUNT_MAX : Nat := 1024
def WINDOW_MAGIC : Nat := 1234
def QUEUE_SIZE : Nat := 32
def SERVER_PACKET_TYPE_EVENT : UInt64 := 1002

/-- One slot of the arrays `ev_wid`, `ev_msg` and `ev_long1` to `ev_long4`. -/
structure Event where
  wid : UInt64
  msg : UInt64
  long1 : UInt64
  long2 : UInt64
  long3 : UInt64
  long4 : UInt64
  deriving DecidableEq, Repr

def noEvent : Event := ⟨0, 0, 0, 0, 0, 0⟩

/-- The queue of a `gws_window_d`. -/
structure Window where
  magic : Nat
  evHead : Nat
  evTail : Nat
  events : Nat → Event

def newWindow : Window := ⟨WINDOW_MAGIC, 0, 0, fun _ => noEvent⟩

/-- The windows of the server and the response that it sends next. -/
structure Server where
  windowList : Nat → Option Window
  nextResponse : List UInt64

/-- The window of an id, after the checks that each of the three functions makes. -/
def liveWindow (server : Server) (wid : Int32) : Option Window :=
  if wid.toInt < 0 then none
  else if (WINDOW_COUNT_MAX : Int) ≤ wid.toInt then none
  else
    match server.windowList wid.toInt.toNat with
    | none => none
    | some w => if w.magic = WINDOW_MAGIC then some w else none

def setWindow (server : Server) (wid : Int32) (w : Window) : Server :=
  { server with windowList := Function.update server.windowList wid.toInt.toNat (some w) }

def putEvent (w : Window) (event : Event) : Window :=
  { w with
    evTail := Ring.next QUEUE_SIZE w.evTail
    events := Function.update w.events w.evTail event }

def windowPostNotification (server : Server) (wid eventType : Int32)
    (long1 long2 long3 long4 : UInt64) : Int × Server :=
  match liveWindow server wid with
  | none => (-1, server)
  | some w =>
      if eventType < 0 then (-1, server)
      else
        (0, setWindow server wid (putEvent w
          ⟨wid.toUInt32.toUInt64, eventType.toUInt32.toUInt64, long1, long2, long3, long4⟩))

/-- A message has two parameters; the other two fields of the slot stay as they are. -/
def windowPostMessage (server : Server) (wid eventType : Int32) (long1 long2 : UInt64) :
    Int × Server :=
  match liveWindow server wid with
  | none => (-1, server)
  | some w =>
      if eventType < 0 then (-1, server)
      else
        let slot := w.events w.evTail
        (0, setWindow server wid (putEvent w
          { slot with
            wid := wid.toUInt32.toUInt64
            msg := eventType.toUInt32.toUInt64
            long1 := long1
            long2 := long2 }))

/-- Advance the head, whether its slot holds an event or not, and clean the slot. -/
def takeEvent (w : Window) : Window :=
  { w with
    evHead := Ring.next QUEUE_SIZE w.evHead
    events := Function.update w.events w.evHead noEvent }

def eventResponse (event : Event) : List UInt64 :=
  [0, SERVER_PACKET_TYPE_EVENT, 1234, 5678, event.wid, event.msg, event.long1, event.long2,
    event.long3, event.long4] ++ List.replicate 22 0

def requestedWindow (message : UInt64) : Int32 :=
  message.toUInt32.toInt32

def serviceNextEvent (server : Server) (message : UInt64) : Int × Server :=
  let wid := requestedWindow message
  match liveWindow server wid with
  | none => (-1, server)
  | some w =>
      (0, { setWindow server wid (takeEvent w) with
            nextResponse := eventResponse (w.events w.evHead) })

inductive QueueCall where
  | postMessage (wid eventType : Int32) (long1 long2 : UInt64)
  | postNotification (wid eventType : Int32) (long1 long2 long3 long4 : UInt64)
  | nextEvent (message : UInt64)

/-- The server, the events of one window that have been posted and not delivered yet, the oldest
first, and the number of requests for that window which came when there was none. -/
structure QueueSystem where
  server : Server
  undelivered : List Event
  idle : Nat

/-- The result of a call, and the events of the window that it posts and delivers. -/
structure QueueOutcome where
  result : Int
  posted : List Event
  delivered : List Event
  deriving DecidableEq, Repr

def carriedEvent (response : List UInt64) : List Event :=
  match response with
  | _ :: _ :: _ :: _ :: wid :: msg :: long1 :: long2 :: long3 :: long4 :: _ =>
      if msg = 0 then [] else [⟨wid, msg, long1, long2, long3, long4⟩]
  | _ => []

def eventOf : QueueCall → Option Event
  | .postMessage wid eventType long1 long2 =>
      some ⟨wid.toUInt32.toUInt64, eventType.toUInt32.toUInt64, long1, long2, 0, 0⟩
  | .postNotification wid eventType long1 long2 long3 long4 =>
      some ⟨wid.toUInt32.toUInt64, eventType.toUInt32.toUInt64, long1, long2, long3, long4⟩
  | .nextEvent _ => none

def callWindow : QueueCall → Int32
  | .postMessage wid _ _ _ => wid
  | .postNotification wid _ _ _ _ _ => wid
  | .nextEvent message => requestedWindow message

def serve (server : Server) : QueueCall → Int × Server
  | .postMessage wid eventType long1 long2 =>
      windowPostMessage server wid eventType long1 long2
  | .postNotification wid eventType long1 long2 long3 long4 =>
      windowPostNotification server wid eventType long1 long2 long3 long4
  | .nextEvent message => serviceNextEvent server message

def isRequest : QueueCall → Bool
  | .nextEvent _ => true
  | _ => false

def queueStep (id : Int32) (s : QueueSystem) (call : QueueCall) :
    Except String (QueueOutcome × QueueSystem) :=
  let (rc, server) := serve s.server call
  let accepted := callWindow call = id ∧ rc = 0
  let posted := if accepted then (eventOf call).toList else []
  let delivered :=
    if accepted ∧ isRequest call = true then carriedEvent server.nextResponse else []
  let idle :=
    if accepted ∧ isRequest call = true ∧ s.undelivered = [] then s.idle + 1 else s.idle
  .ok (⟨rc, posted, delivered⟩,
    ⟨server, s.undelivered.drop delivered.length ++ posted, idle⟩)

def HasRoom (id : Int32) (s : QueueSystem) (call : QueueCall) : Prop :=
  callWindow call = id → isRequest call = false → s.undelivered.length < 31

/-- An event has a code, and a request that is made while an event is undelivered comes after a
multiple of 32 requests that found none. -/
def InStep (id : Int32) (s : QueueSystem) : QueueCall → Prop
  | .postMessage wid eventType _ _ => wid = id → eventType ≠ 0
  | .postNotification wid eventType _ _ _ _ => wid = id → eventType ≠ 0
  | .nextEvent message =>
      requestedWindow message = id → s.undelivered ≠ [] → QUEUE_SIZE ∣ s.idle

def AnswersOldest (id : Int32) (s : QueueSystem) (call : QueueCall) : Prop :=
  callWindow call = id → isRequest call = true →
    ∀ out t, queueStep id s call = .ok (out, t) → out.delivered = s.undelivered.take 1

/-- The undelivered events are in the slots from the `oldest` one on, and the others are clean. -/
structure QueueInv (w : Window) (undelivered : List Event) (idle oldest : Nat) : Prop where
  magic : w.magic = WINDOW_MAGIC
  length_lt : undelivered.length < QUEUE_SIZE
  head_eq : w.evHead = (oldest + idle) % QUEUE_SIZE
  tail_eq : w.evTail = (oldest + undelivered.length) % QUEUE_SIZE
  events_eq : Ring.window w.events QUEUE_SIZE oldest undelivered.length = undelivered
  clean : ∀ i, undelivered.length ≤ i → i < QUEUE_SIZE →
    w.events ((oldest + i) % QUEUE_SIZE) = noEvent
  code : ∀ event ∈ undelivered, event.msg ≠ 0

theorem queueInv_newWindow : QueueInv newWindow [] 0 0 where
  magic := rfl
  length_lt := by decide
  head_eq := rfl
  tail_eq := rfl
  events_eq := rfl
  clean _ _ _ := rfl
  code event h := by cases h

theorem next_mod (position : Nat) :
    Ring.next QUEUE_SIZE (position % QUEUE_SIZE) = (position + 1) % QUEUE_SIZE := by
  rw [Ring.next_eq_mod (Nat.mod_lt _ (by decide)), Nat.mod_add_mod]

variable {w w' v : Window} {undelivered : List Event} {idle oldest : Nat} {event : Event}
  {server : Server} {wid id eventType : Int32} {call : QueueCall} {message : UInt64}
  {s t : QueueSystem} {out : QueueOutcome}

theorem QueueInv.slot_clean (h : QueueInv w undelivered idle oldest) :
    w.events w.evTail = noEvent := by
  rw [h.tail_eq]
  exact h.clean _ le_rfl h.length_lt

theorem queueInv_put (h : QueueInv w undelivered idle oldest) (hroom : undelivered.length < 31)
    (hcode : event.msg ≠ 0) :
    QueueInv (putEvent w event) (undelivered ++ [event]) idle oldest := by
  have hlength : (undelivered ++ [event]).length = undelivered.length + 1 := by simp
  have hsize : QUEUE_SIZE = 32 := rfl
  constructor
  · exact h.magic
  · omega
  · exact h.head_eq
  · change Ring.next QUEUE_SIZE w.evTail = _
    rw [h.tail_eq, next_mod, hlength]
    rfl
  · change Ring.window (Function.update w.events w.evTail event) QUEUE_SIZE oldest _ = _
    rw [hlength, Ring.window_push _ _ h.length_lt h.tail_eq, h.events_eq]
  · intro i hi hsize
    change Function.update w.events w.evTail event _ = _
    have hne : (oldest + i) % QUEUE_SIZE ≠ w.evTail := by
      rw [h.tail_eq]
      exact (Ring.offset_ne (by omega) hsize).symm
    rw [Function.update_of_ne hne]
    exact h.clean i (by omega) hsize
  · intro event' hevent
    rcases List.mem_append.mp hevent with hold | hnew
    · exact h.code event' hold
    · rw [List.mem_singleton.mp hnew]
      exact hcode

theorem queueInv_take (h : QueueInv w (event :: undelivered) idle oldest)
    (hidle : QUEUE_SIZE ∣ idle) :
    w.events w.evHead = event ∧ QueueInv (takeEvent w) undelivered idle (oldest + 1) := by
  have hhead : w.evHead = oldest % QUEUE_SIZE := by
    rw [h.head_eq, Nat.add_mod, Nat.mod_eq_zero_of_dvd hidle, Nat.add_zero, Nat.mod_mod]
  have hevents := h.events_eq
  rw [List.length_cons, Ring.window_succ] at hevents
  obtain ⟨hfirst, hrest⟩ := List.cons.inj hevents
  have hlt := h.length_lt
  rw [List.length_cons] at hlt
  refine ⟨by rw [hhead]; exact hfirst, ?_⟩
  constructor
  · exact h.magic
  · omega
  · change Ring.next QUEUE_SIZE w.evHead = _
    rw [h.head_eq, next_mod]
    congr 1
    omega
  · change w.evTail = _
    rw [h.tail_eq, List.length_cons]
    congr 1
    omega
  · change Ring.window (Function.update w.events w.evHead noEvent) QUEUE_SIZE _ _ = _
    rw [Ring.window_update_head _ _ (by omega) hhead]
    exact hrest
  · intro i hi hsize
    change Function.update w.events w.evHead noEvent _ = _
    rw [hhead, show oldest + 1 + i = oldest + (i + 1) by omega]
    rcases Nat.lt_or_ge (i + 1) QUEUE_SIZE with hlast | hlast
    · have hne : (oldest + 0) % QUEUE_SIZE ≠ (oldest + (i + 1)) % QUEUE_SIZE :=
        Ring.offset_ne (Nat.succ_pos i) hlast
      rw [Nat.add_zero] at hne
      rw [Function.update_of_ne hne.symm]
      exact h.clean (i + 1) (by simp only [List.length_cons]; omega) hlast
    · have hwrap : (oldest + (i + 1)) % QUEUE_SIZE = oldest % QUEUE_SIZE := by
        rw [show i + 1 = QUEUE_SIZE by omega, Nat.add_mod_right]
      rw [hwrap, Function.update_self]
  · exact fun event' hevent => h.code event' (List.mem_cons_of_mem _ hevent)

theorem queueInv_idle (h : QueueInv w [] idle oldest) :
    w.events w.evHead = noEvent ∧ QueueInv (takeEvent w) [] (idle + 1) oldest := by
  have hclean : ∀ i, w.events ((oldest + i) % QUEUE_SIZE) = noEvent := by
    intro i
    have hi := h.clean (i % QUEUE_SIZE) (Nat.zero_le _) (Nat.mod_lt _ (by decide))
    rwa [Nat.add_mod_mod] at hi
  have hslot : w.events w.evHead = noEvent := by
    rw [h.head_eq]
    exact hclean idle
  have hevents : (takeEvent w).events = w.events := by
    change Function.update w.events w.evHead noEvent = w.events
    rw [← hslot, Function.update_eq_self]
  refine ⟨hslot, ?_⟩
  constructor
  · exact h.magic
  · exact h.length_lt
  · change Ring.next QUEUE_SIZE w.evHead = _
    rw [h.head_eq, next_mod]
    rfl
  · exact h.tail_eq
  · rfl
  · intro i _ _
    rw [hevents]
    exact hclean i
  · exact h.code

theorem liveWindow_iff : liveWindow server wid = some w ↔
      0 ≤ wid.toInt ∧ wid.toInt < WINDOW_COUNT_MAX ∧
        server.windowList wid.toInt.toNat = some w ∧ w.magic = WINDOW_MAGIC := by
  unfold liveWindow
  constructor
  · intro h
    split at h
    · cases h
    split at h
    · cases h
    split at h
    · cases h
    split at h
    · rename_i hwindow hmagic
      cases h
      exact ⟨by omega, by omega, hwindow, hmagic⟩
    · cases h
  · rintro ⟨hpos, hlt, hwindow, hmagic⟩
    rw [if_neg (by omega), if_neg (by omega), hwindow]
    exact if_pos hmagic

theorem liveWindow_setWindow (h : liveWindow server wid = some w) (hmagic : w'.magic = w.magic) :
    liveWindow (setWindow server wid w') wid = some w' := by
  obtain ⟨hpos, hlt, _, hw⟩ := liveWindow_iff.mp h
  exact liveWindow_iff.mpr ⟨hpos, hlt, Function.update_self .., hmagic.trans hw⟩

theorem liveWindow_setWindow_other (hwid : liveWindow server wid = some w)
    (hid : liveWindow server id = some v) (hne : wid ≠ id) :
    liveWindow (setWindow server wid w') id = some v := by
  obtain ⟨hwpos, _, _, _⟩ := liveWindow_iff.mp hwid
  obtain ⟨hpos, hlt, hv, hmagic⟩ := liveWindow_iff.mp hid
  have hslot : id.toInt.toNat ≠ wid.toInt.toNat := by
    intro heq
    exact hne (Int32.toInt_inj.mp (by omega))
  exact liveWindow_iff.mpr
    ⟨hpos, hlt, (Function.update_of_ne hslot ..).trans hv, hmagic⟩

theorem serve_other (hid : liveWindow server id = some v) (hne : callWindow call ≠ id) :
    liveWindow (serve server call).2 id = some v := by
  cases call with
  | postMessage wid eventType long1 long2 =>
      change liveWindow (windowPostMessage server wid eventType long1 long2).2 id = some v
      unfold windowPostMessage
      split
      · exact hid
      · rename_i w hw
        split
        · exact hid
        · exact liveWindow_setWindow_other hw hid hne
  | postNotification wid eventType long1 long2 long3 long4 =>
      change liveWindow
        (windowPostNotification server wid eventType long1 long2 long3 long4).2 id = some v
      unfold windowPostNotification
      split
      · exact hid
      · rename_i w hw
        split
        · exact hid
        · exact liveWindow_setWindow_other hw hid hne
  | nextEvent message =>
      change liveWindow (serviceNextEvent server message).2 id = some v
      unfold serviceNextEvent
      dsimp only
      split
      · exact hid
      · rename_i w hw
        exact liveWindow_setWindow_other hw hid hne

theorem carriedEvent_eventResponse (h : event.msg ≠ 0) :
    carriedEvent (eventResponse event) = [event] := if_neg h

theorem carriedEvent_noEvent : carriedEvent (eventResponse noEvent) = [] := rfl

theorem windowPostMessage_live (hw : liveWindow server wid = some w)
    (hclean : w.events w.evTail = noEvent) (eventType : Int32) (long1 long2 : UInt64) :
    windowPostMessage server wid eventType long1 long2 =
      windowPostNotification server wid eventType long1 long2 0 0 := by
  unfold windowPostMessage windowPostNotification
  rw [hw]
  dsimp only
  rw [hclean]
  rfl

theorem windowPostNotification_live (hw : liveWindow server wid = some w) (eventType : Int32)
    (long1 long2 long3 long4 : UInt64) :
    windowPostNotification server wid eventType long1 long2 long3 long4 =
      if eventType < 0 then (-1, server)
      else
        (0, setWindow server wid (putEvent w
          ⟨wid.toUInt32.toUInt64, eventType.toUInt32.toUInt64, long1, long2, long3, long4⟩)) := by
  unfold windowPostNotification
  rw [hw]

theorem serviceNextEvent_live (hw : liveWindow server (requestedWindow message) = some w) :
    serviceNextEvent server message =
      (0, { setWindow server (requestedWindow message) (takeEvent w) with
            nextResponse := eventResponse (w.events w.evHead) }) := by
  unfold serviceNextEvent
  dsimp only
  rw [hw]

theorem code_ne_zero (h : eventType ≠ 0) : eventType.toUInt32.toUInt64 ≠ 0 := by
  intro hzero
  apply h
  have hnat : eventType.toUInt32.toNat = 0 := by
    have := congrArg UInt64.toNat hzero
    simpa using this
  exact congrArg UInt32.toInt32 (UInt32.toNat_inj.mp hnat)

def SystemInv (id : Int32) (s : QueueSystem) : Prop :=
  ∃ w oldest, liveWindow s.server id = some w ∧ QueueInv w s.undelivered s.idle oldest

theorem queueStep_other (hinv : SystemInv id s) (hne : callWindow call ≠ id)
    (h : queueStep id s call = .ok (out, t)) :
    s.undelivered ++ out.posted = out.delivered ++ t.undelivered ∧ SystemInv id t := by
  obtain ⟨w, oldest, hw, hqueue⟩ := hinv
  unfold queueStep at h
  simp only [hne, false_and, if_false] at h
  obtain ⟨rfl, rfl⟩ := Prod.mk.inj (Except.ok.inj h)
  refine ⟨by simp, w, oldest, serve_other hw hne, ?_⟩
  simpa using hqueue

theorem queueStep_post {long1 long2 long3 long4 : UInt64}
    (hinv : SystemInv id s)
    (hcall : callWindow call = id) (hpost : isRequest call = false)
    (hevent : eventOf call =
      some ⟨id.toUInt32.toUInt64, eventType.toUInt32.toUInt64, long1, long2, long3, long4⟩)
    (hserve : serve s.server call =
      windowPostNotification s.server id eventType long1 long2 long3 long4)
    (hroom : s.undelivered.length < 31) (hcode : eventType ≠ 0)
    (h : queueStep id s call = .ok (out, t)) :
    s.undelivered ++ out.posted = out.delivered ++ t.undelivered ∧ SystemInv id t := by
  obtain ⟨w, oldest, hw, hqueue⟩ := hinv
  rw [windowPostNotification_live hw] at hserve
  unfold queueStep at h
  by_cases hvalid : eventType < 0
  · rw [if_pos hvalid] at hserve
    simp only [hcall, hpost, hserve, show (-1 : Int) ≠ 0 by decide, and_false, false_and,
      if_false] at h
    obtain ⟨rfl, rfl⟩ := Prod.mk.inj (Except.ok.inj h)
    refine ⟨by simp, w, oldest, hw, ?_⟩
    simpa using hqueue
  · rw [if_neg hvalid] at hserve
    simp only [hcall, hpost, hserve, hevent, and_self, and_false, false_and, if_true, if_false,
      Bool.false_eq_true] at h
    obtain ⟨rfl, rfl⟩ := Prod.mk.inj (Except.ok.inj h)
    refine ⟨rfl, putEvent w _, oldest, liveWindow_setWindow hw rfl, ?_⟩
    exact queueInv_put hqueue hroom (code_ne_zero hcode)

theorem queueStep_request (hinv : SystemInv id s) (hwid : requestedWindow message = id)
    (hidle : s.undelivered ≠ [] → QUEUE_SIZE ∣ s.idle)
    (h : queueStep id s (.nextEvent message) = .ok (out, t)) :
    out.delivered = s.undelivered.take 1 ∧
      s.undelivered ++ out.posted = out.delivered ++ t.undelivered ∧ SystemInv id t := by
  obtain ⟨w, oldest, hw, hqueue⟩ := hinv
  obtain ⟨server, undelivered, idle⟩ := s
  subst hwid
  unfold queueStep at h
  simp only [serve, serviceNextEvent_live hw, callWindow, isRequest, eventOf, and_self,
    if_true, true_and, Option.toList_none] at h
  obtain ⟨rfl, rfl⟩ := Prod.mk.inj (Except.ok.inj h)
  cases undelivered with
  | nil =>
      obtain ⟨hslot, hnext⟩ := queueInv_idle hqueue
      rw [hslot, carriedEvent_noEvent]
      exact ⟨rfl, rfl, takeEvent w, oldest, liveWindow_setWindow hw rfl, hnext⟩
  | cons event undelivered =>
      have hcode := hqueue.code event List.mem_cons_self
      obtain ⟨hslot, hnext⟩ := queueInv_take hqueue (hidle (List.cons_ne_nil _ _))
      rw [hslot, carriedEvent_eventResponse hcode]
      refine ⟨rfl, by simp, takeEvent w, oldest + 1, liveWindow_setWindow hw rfl, ?_⟩
      simpa using hnext

theorem queueStep_spec (hinv : SystemInv id s) (hroom : HasRoom id s call)
    (hsync : InStep id s call) (h : queueStep id s call = .ok (out, t)) :
    s.undelivered ++ out.posted = out.delivered ++ t.undelivered ∧ SystemInv id t := by
  by_cases hcall : callWindow call = id
  · cases call with
    | postMessage wid eventType long1 long2 =>
        obtain rfl : wid = id := hcall
        obtain ⟨w, oldest, hw, hqueue⟩ := hinv
        have hserve : serve s.server (.postMessage wid eventType long1 long2) =
            windowPostNotification s.server wid eventType long1 long2 0 0 :=
          windowPostMessage_live hw hqueue.slot_clean eventType long1 long2
        exact queueStep_post ⟨w, oldest, hw, hqueue⟩ rfl rfl rfl hserve (hroom rfl rfl)
          (hsync rfl) h
    | postNotification wid eventType long1 long2 long3 long4 =>
        obtain rfl : wid = id := hcall
        exact queueStep_post hinv rfl rfl rfl rfl (hroom rfl rfl) (hsync rfl) h
    | nextEvent message =>
        exact (queueStep_request hinv hcall (hsync hcall) h).2
  · exact queueStep_other hinv hcall h

theorem answersOldest_of_inStep (hinv : SystemInv id s) (hsync : InStep id s call) :
    AnswersOldest id s call := by
  intro hcall hrequest out t h
  cases call with
  | postMessage => cases hrequest
  | postNotification => cases hrequest
  | nextEvent message => exact (queueStep_request hinv hcall (hsync hcall) h).1

/-- A server in which the window `id` has just been created. -/
def Created (server : Server) (id : Int32) : Prop :=
  liveWindow server id = some newWindow

/-- While the calls are in step, the events of a window are delivered in the order in which they
were posted, each once and with its six fields, and no request passes over one. -/
theorem events_delivered_in_order (server : Server) (id : Int32) {calls : List QueueCall}
    {outs : List QueueOutcome} {s : QueueSystem} (hcreated : Created server id)
    (hroom : Guarded (queueStep id) (HasRoom id) ⟨server, [], 0⟩ calls)
    (hsync : Guarded (queueStep id) (InStep id) ⟨server, [], 0⟩ calls)
    (hrun : run (queueStep id) ⟨server, [], 0⟩ calls = .ok (outs, s)) :
    (outs.map QueueOutcome.posted).flatten =
        (outs.map QueueOutcome.delivered).flatten ++ s.undelivered ∧
      Guarded (queueStep id) (AnswersOldest id) ⟨server, [], 0⟩ calls := by
  have hstart : SystemInv id ⟨server, [], 0⟩ := ⟨_, 0, hcreated, queueInv_newWindow⟩
  have hguard := hroom.and hsync
  have hfifo := run_fifo (SystemInv id) QueueSystem.undelivered (fun _ out => out.posted)
    (fun _ out => out.delivered)
    (fun _ _ _ _ hinv hstep h => queueStep_spec hinv hstep.1 hstep.2 h) hstart hguard hrun
  rw [gather_outputs (length_outputs hrun), gather_outputs (length_outputs hrun)] at hfifo
  refine ⟨hfifo, Guarded.of_invariant (SystemInv id) ?_ ?_ hstart hguard⟩
  · exact fun _ _ _ _ hinv hstep h => (queueStep_spec hinv hstep.1 hstep.2 h).2
  · exact fun _ _ hinv hstep => answersOldest_of_inStep hinv hstep.2

def GWS_Paint : Int32 := 8

def oneWindow : Server where
  windowList := Function.update (fun _ => none) 5 (some newWindow)
  nextResponse := []

instance (id : Int32) (s : QueueSystem) (call : QueueCall) : Decidable (HasRoom id s call) :=
  inferInstanceAs (Decidable (_ → _ → _))

instance (id : Int32) (s : QueueSystem) : ∀ call, Decidable (InStep id s call)
  | .postMessage _ _ _ _ => inferInstanceAs (Decidable (_ → _))
  | .postNotification _ _ _ _ _ _ => inferInstanceAs (Decidable (_ → _))
  | .nextEvent _ => inferInstanceAs (Decidable (_ → _ → _))

def twoEvents : List QueueCall :=
  [.postNotification 5 GWS_Paint 1 2 3 4, .postMessage 5 GWS_Paint 7 8, .nextEvent 5,
    .nextEvent 5]

theorem events_delivered_in_order_example :
    ∃ outs s, run (queueStep 5) ⟨oneWindow, [], 0⟩ twoEvents = .ok (outs, s) ∧
      (outs.map QueueOutcome.delivered).flatten =
        [⟨5, 8, 1, 2, 3, 4⟩, ⟨5, 8, 7, 8, 0, 0⟩] ∧
      Guarded (queueStep 5) (AnswersOldest 5) ⟨oneWindow, [], 0⟩ twoEvents :=
  ⟨_, _, rfl, rfl, (events_delivered_in_order oneWindow 5 rfl (by decide) (by decide) rfl).2⟩

/-- A request that finds no event hides the event that is posted next from the next request. -/
theorem polled_window_hides_event :
    Created oneWindow 5 ∧
      Guarded (queueStep 5) (HasRoom 5) ⟨oneWindow, [], 0⟩
        [.nextEvent 5, .postMessage 5 GWS_Paint 7 8, .nextEvent 5] ∧
      ∃ outs s, run (queueStep 5) ⟨oneWindow, [], 0⟩
          [.nextEvent 5, .postMessage 5 GWS_Paint 7 8, .nextEvent 5] = .ok (outs, s) ∧
        (outs.map QueueOutcome.posted).flatten = [⟨5, 8, 7, 8, 0, 0⟩] ∧
        (outs.map QueueOutcome.delivered).flatten = [] :=
  ⟨rfl, by decide, _, _, rfl, rfl, rfl⟩

end Gramado.Ds.EventQueue
