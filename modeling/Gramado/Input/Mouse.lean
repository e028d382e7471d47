import Gramado.Library.Run
import Mathlib.Data.List.TakeDrop

/-! The PS/2 mouse driver: the bytes of the controller, the packets and the events. -/

namespace Gramado.Input.Mouse

open Library.Run

def MOUSE_LEFT_BUTTON : UInt8 := 0x01
def MOUSE_RIGHT_BUTTON : UInt8 := 0x02
def MOUSE_MIDDLE_BUTTON : UInt8 := 0x04
def MOUSE_FLAGS_ALWAYS_1 : UInt8 := 0x08
def MOUSE_X_DATA_SIGN : UInt8 := 0x10
def MOUSE_Y_DATA_SIGN : UInt8 := 0x20
def MOUSE_OVERFLOWS : UInt8 := 0xC0

/-- The size of the screen in pixels, of which the kernel uses 16 bits and accepts no zero. -/
structure Screen where
  width : Int
  height : Int
  width_pos : 0 < width
  width_le : width ≤ 0xFFFF
  height_pos : 0 < height
  height_le : height ≤ 0xFFFF

inductive MessageCode where
  | MSG_MOUSEMOVE
  | MSG_MOUSEPRESSED
  | MSG_MOUSERELEASED
  deriving DecidableEq, Repr

/-- A call of `wmMouseEvent`. -/
structure MouseEvent where
  eventId : MessageCode
  long1 : Int
  long2 : Int
  deriving DecidableEq, Repr

/-- What the driver keeps from one packet to the next: `mouse_x`, `mouse_y`, the values saved
before the last packet, `mbuttons_old_state`, `ps2_mouse_moving`, and the position that
`wmMouseEvent` keeps. -/
structure Pointer where
  x : Int
  y : Int
  savedX : Int
  savedY : Int
  button0 : Bool
  button1 : Bool
  button2 : Bool
  moving : Bool
  shownX : Int
  shownY : Int
  deriving DecidableEq, Repr

def hasFlag (flags mask : UInt8) : Bool :=
  flags &&& mask != 0

def signChanged (delta : Int8) (sign : Bool) : Int8 :=
  if delta ≠ 0 ∧ sign = true then Int8.ofInt (delta.toInt - 0xFF - 0x01) else delta

/-- A coordinate that is moved by a delta, and masked with `0x3FF`. -/
def movedBy (position delta : Int) : Int :=
  (position + delta) % 0x400

def limited (position size : Int) : Int :=
  let position := if position < 1 then 1 else position
  if size ≤ position then size - 1 else position

def wmMouseEvent (screen : Screen) (pointer : Pointer) (event : MouseEvent) : Pointer :=
  match event.eventId with
  | .MSG_MOUSEMOVE =>
      { pointer with
        shownX := limited event.long1 screen.width
        shownY := limited event.long2 screen.height }
  | _ => pointer

def buttonEvent (pressed : Bool) (number : Int) : MouseEvent :=
  ⟨if pressed then .MSG_MOUSEPRESSED else .MSG_MOUSERELEASED, number, number⟩

def parsed (screen : Screen) (pointer : Pointer) (event : Option MouseEvent) :
    List MouseEvent × Pointer :=
  match event with
  | none => ([], pointer)
  | some event => ([event], wmMouseEvent screen pointer event)

/-- The three bytes of the packet give the new position and one event at most: that of the
first button that has changed, else that of the movement. -/
def ps2mouseParseDataPacket (screen : Screen) (pointer : Pointer) (flags dx dy : UInt8) :
    List MouseEvent × Pointer :=
  let savedX := pointer.x
  let savedY := pointer.y
  let pointer := { pointer with savedX := savedX, savedY := savedY }
  let packetX := signChanged dx.toInt8 (hasFlag flags MOUSE_X_DATA_SIGN)
  let packetY := signChanged dy.toInt8 (hasFlag flags MOUSE_Y_DATA_SIGN)
  if hasFlag flags MOUSE_OVERFLOWS = true then ([], pointer)
  else
    let x := movedBy pointer.x packetX.toInt
    let y := movedBy pointer.y (-packetY.toInt)
    let left := hasFlag flags MOUSE_LEFT_BUTTON
    let right := hasFlag flags MOUSE_RIGHT_BUTTON
    let middle := hasFlag flags MOUSE_MIDDLE_BUTTON
    let now := { pointer with x := x, y := y, button0 := left, button1 := right, button2 := middle }
    if left ≠ pointer.button0 then parsed screen now (some (buttonEvent left 1))
    else if right ≠ pointer.button1 then parsed screen now (some (buttonEvent right 2))
    else if middle ≠ pointer.button2 then parsed screen now (some (buttonEvent middle 3))
    else if savedX ≠ x ∨ savedY ≠ y then
      parsed screen { now with moving := true } (some ⟨.MSG_MOUSEMOVE, x, y⟩)
    else parsed screen { now with moving := false } none

/-- A byte in the controller, and whether it comes from the mouse. -/
structure PortByte where
  fromMouse : Bool
  byte : UInt8

/-- The state of the driver: `mouse_stage`, `buffer_mouse` and the pointer. -/
structure Driver where
  initialized : Bool
  hasWheel : Bool
  stage : Nat
  buffer : Nat → UInt8
  pointer : Pointer

structure Parse where
  flags : UInt8
  dx : UInt8
  dy : UInt8
  events : List MouseEvent
  deriving DecidableEq, Repr

def saveByte (d : Driver) (byte : UInt8) (stage : Nat) : Driver :=
  { d with buffer := Function.update d.buffer d.stage byte, stage := stage }

def commit (screen : Screen) (d : Driver) : Parse × Driver :=
  let (events, pointer) :=
    ps2mouseParseDataPacket screen d.pointer (d.buffer 0) (d.buffer 1) (d.buffer 2)
  (⟨d.buffer 0, d.buffer 1, d.buffer 2, events⟩, { d with stage := 0, pointer := pointer })

/-- Read the controller until it is empty, a byte is not from the mouse, or a packet is
complete. -/
def readPort (screen : Screen) (d : Driver) : List PortByte → List Parse × Driver × List PortByte
  | [] => ([], d, [])
  | b :: rest =>
      if b.fromMouse = false then ([], d, b :: rest)
      else
        match d.stage with
        | 0 =>
            if hasFlag b.byte MOUSE_FLAGS_ALWAYS_1 = false then ([], saveByte d b.byte 0, rest)
            else readPort screen (saveByte d b.byte 1) rest
        | 1 => readPort screen (saveByte d b.byte 2) rest
        | 2 =>
            if d.hasWheel = true then readPort screen (saveByte d b.byte 3) rest
            else
              let (parse, d) := commit screen (saveByte d b.byte 2)
              ([parse], d, rest)
        | 3 =>
            let (parse, d) := commit screen (saveByte d b.byte 3)
            ([parse], d, rest)
        | _ => ([], saveByte d b.byte 0, rest)

def deviceInterfacePS2Mouse (screen : Screen) (d : Driver) (port : List PortByte) :
    List Parse × Driver × List PortByte :=
  if d.initialized = false then ([], d, port) else readPort screen d port

/-- The driver and the bytes that wait in the controller. -/
structure MouseSystem where
  driver : Driver
  port : List PortByte

def interfaceStep (screen : Screen) (s : MouseSystem) (arrived : List UInt8) :
    Except String (List Parse × MouseSystem) :=
  let (parses, driver, port) :=
    deviceInterfacePS2Mouse screen s.driver (s.port ++ arrived.map fun byte => ⟨true, byte⟩)
  .ok (parses, ⟨driver, port⟩)

structure Packet where
  flags : UInt8
  dx : UInt8
  dy : UInt8
  wheel : UInt8
  always1 : hasFlag flags MOUSE_FLAGS_ALWAYS_1 = true
  noOverflow : hasFlag flags MOUSE_OVERFLOWS = false

def Packet.bytes (hasWheel : Bool) (packet : Packet) : List UInt8 :=
  if hasWheel = true then [packet.flags, packet.dx, packet.dy, packet.wheel]
  else [packet.flags, packet.dx, packet.dy]

def packetStep (screen : Screen) (pointer : Pointer) (packet : Packet) :
    Except String (Parse × Pointer) :=
  let (events, pointer) :=
    ps2mouseParseDataPacket screen pointer packet.flags packet.dx packet.dy
  .ok (⟨packet.flags, packet.dx, packet.dy, events⟩, pointer)

def delta (byte : UInt8) (sign : Bool) : Int :=
  if sign = true then (byte.toNat : Int) - 256 else byte.toNat

def Packet.deltaX (packet : Packet) : Int :=
  delta packet.dx (hasFlag packet.flags MOUSE_X_DATA_SIGN)

def Packet.deltaY (packet : Packet) : Int :=
  delta packet.dy (hasFlag packet.flags MOUSE_Y_DATA_SIGN)

def clamp (position size : Int) : Int :=
  max 0 (min position (size - 1))

def changes (pointer : Pointer) (flags : UInt8) : List MouseEvent :=
  let left := hasFlag flags MOUSE_LEFT_BUTTON
  let right := hasFlag flags MOUSE_RIGHT_BUTTON
  let middle := hasFlag flags MOUSE_MIDDLE_BUTTON
  (if left ≠ pointer.button0 then [buttonEvent left 1] else []) ++
    (if right ≠ pointer.button1 then [buttonEvent right 2] else []) ++
    (if middle ≠ pointer.button2 then [buttonEvent middle 3] else [])

def isButtonEvent (event : MouseEvent) : Bool :=
  event.eventId != .MSG_MOUSEMOVE

/-- The packet moves the pointer by its deltas on the screen, and each button that changes has
its event. -/
def Exact (screen : Screen) (pointer : Pointer) (packet : Packet) : Prop :=
  ∀ parse after, packetStep screen pointer packet = .ok (parse, after) →
    after.x = clamp (pointer.x + packet.deltaX) screen.width ∧
      after.y = clamp (pointer.y - packet.deltaY) screen.height ∧
      parse.events.filter isButtonEvent = changes pointer packet.flags

/-- The delta fits into eight bits and the new coordinate is on the screen and below 1024; or
the delta is 256 steps off the screen, at the edge of it. -/
def AxisFits (position delta steps size : Int) : Prop :=
  (-128 ≤ delta ∧ delta ≤ 127 ∧ 0 ≤ position + steps ∧ position + steps < size ∧
      position + steps < 0x400) ∨
    delta = -256 ∧ position = clamp (position + steps) size ∧ position < 0x400

def Fits (screen : Screen) (pointer : Pointer) (packet : Packet) : Prop :=
  AxisFits pointer.x packet.deltaX packet.deltaX screen.width ∧
    AxisFits pointer.y packet.deltaY (-packet.deltaY) screen.height ∧
      (changes pointer packet.flags).length ≤ 1

theorem signChanged_eq (delta : Int8) (sign : Bool) : signChanged delta sign = delta := by
  unfold signChanged
  split
  · apply Int8.toInt_inj.mp
    have hlow := Int8.le_toInt delta
    have hhigh := Int8.toInt_lt delta
    have hsize : Int8.size = 256 := rfl
    rw [Int8.toInt_ofInt, Int.bmod, hsize]
    omega
  · rfl

theorem toInt_toInt8 (byte : UInt8) :
    byte.toInt8.toInt = if byte.toNat < 128 then (byte.toNat : Int) else byte.toNat - 256 := by
  change byte.toBitVec.toInt = _
  have hcond := BitVec.toInt_eq_toNat_cond byte.toBitVec
  rw [UInt8.toNat_toBitVec] at hcond
  rw [hcond]
  split <;> split <;> omega

variable {position size : Int} {after pointer : Pointer} {screen : Screen} {packet : Packet}
  {d : Driver} {byte : UInt8} {future : List UInt8} {packets : List Packet} {s t : MouseSystem}

theorem movedBy_right_iff (hlow : 0 ≤ position) (hhigh : position < size) (hsize : size ≤ 0xFFFF)
    (byte : UInt8) (sign : Bool) :
    movedBy position byte.toInt8.toInt = clamp (position + delta byte sign) size ↔
      AxisFits position (delta byte sign) (delta byte sign) size := by
  have hbyte := byte.toNat_lt
  rw [toInt_toInt8]
  unfold movedBy clamp AxisFits delta clamp
  cases sign <;> split <;> simp only [Bool.false_eq_true, if_false, if_true] <;> omega

theorem movedBy_left_iff (hlow : 0 ≤ position) (hhigh : position < size) (hsize : size ≤ 0xFFFF)
    (byte : UInt8) (sign : Bool) :
    movedBy position (-byte.toInt8.toInt) = clamp (position - delta byte sign) size ↔
      AxisFits position (delta byte sign) (-delta byte sign) size := by
  have hbyte := byte.toNat_lt
  rw [toInt_toInt8]
  unfold movedBy clamp AxisFits delta clamp
  cases sign <;> split <;> simp only [Bool.false_eq_true, if_false, if_true] <;> omega

theorem parsed_pointer (screen : Screen) (pointer : Pointer) (event : Option MouseEvent) :
    (parsed screen pointer event).2.x = pointer.x ∧
      (parsed screen pointer event).2.y = pointer.y := by
  cases event with
  | none => exact ⟨rfl, rfl⟩
  | some event =>
      obtain ⟨code, long1, long2⟩ := event
      cases code <;> exact ⟨rfl, rfl⟩

theorem parsed_events (screen : Screen) (pointer : Pointer) (event : Option MouseEvent) :
    (parsed screen pointer event).1 = event.toList := by
  cases event <;> rfl

theorem isButtonEvent_buttonEvent (pressed : Bool) (number : Int) :
    isButtonEvent (buttonEvent pressed number) = true := by
  cases pressed <;> rfl

theorem parseDataPacket_spec (screen : Screen) (pointer : Pointer) {flags : UInt8} (dx dy : UInt8)
    (h : hasFlag flags MOUSE_OVERFLOWS = false) {events : List MouseEvent}
    (hparse : ps2mouseParseDataPacket screen pointer flags dx dy = (events, after)) :
    after.x = movedBy pointer.x dx.toInt8.toInt ∧ after.y = movedBy pointer.y (-dy.toInt8.toInt) ∧
      events.filter isButtonEvent = (changes pointer flags).take 1 := by
  unfold ps2mouseParseDataPacket at hparse
  simp only [signChanged_eq] at hparse
  rw [if_neg (by simp [h])] at hparse
  unfold changes
  dsimp only at hparse ⊢
  generalize hasFlag flags MOUSE_LEFT_BUTTON = left at hparse ⊢
  generalize hasFlag flags MOUSE_RIGHT_BUTTON = right at hparse ⊢
  generalize hasFlag flags MOUSE_MIDDLE_BUTTON = middle at hparse ⊢
  have hresult : ∀ (now : Pointer) (event : Option MouseEvent),
      parsed screen now event = (events, after) →
        events = event.toList ∧ after.x = now.x ∧ after.y = now.y := by
    intro now event heq
    have hevents := parsed_events screen now event
    have hpointer := parsed_pointer screen now event
    rw [heq] at hevents hpointer
    exact ⟨hevents, hpointer⟩
  split at hparse
  · obtain ⟨rfl, hx, hy⟩ := hresult _ _ hparse
    refine ⟨hx, hy, ?_⟩
    rename_i hleft
    simp [hleft, isButtonEvent_buttonEvent]
  split at hparse
  · obtain ⟨rfl, hx, hy⟩ := hresult _ _ hparse
    refine ⟨hx, hy, ?_⟩
    rename_i hleft hright
    rw [if_neg hleft, if_pos hright]
    simp [isButtonEvent_buttonEvent]
  split at hparse
  · obtain ⟨rfl, hx, hy⟩ := hresult _ _ hparse
    refine ⟨hx, hy, ?_⟩
    rename_i hleft hright hmiddle
    rw [if_neg hleft, if_neg hright, if_pos hmiddle]
    simp [isButtonEvent_buttonEvent]
  rename_i hleft hright hmiddle
  rw [if_neg hleft, if_neg hright, if_neg hmiddle]
  split at hparse
  · obtain ⟨rfl, hx, hy⟩ := hresult _ _ hparse
    exact ⟨hx, hy, rfl⟩
  · obtain ⟨rfl, hx, hy⟩ := hresult _ _ hparse
    exact ⟨hx, hy, rfl⟩

def OnScreen (screen : Screen) (pointer : Pointer) : Prop :=
  0 ≤ pointer.x ∧ pointer.x < screen.width ∧ 0 ≤ pointer.y ∧ pointer.y < screen.height

theorem exact_iff (h : OnScreen screen pointer) (packet : Packet) :
    Exact screen pointer packet ↔ Fits screen pointer packet := by
  obtain ⟨hxlow, hxhigh, hylow, hyhigh⟩ := h
  generalize hparse : ps2mouseParseDataPacket screen pointer packet.flags packet.dx packet.dy =
    result
  obtain ⟨events, after⟩ := result
  have hstep : packetStep screen pointer packet =
      .ok (⟨packet.flags, packet.dx, packet.dy, events⟩, after) := by
    rw [packetStep, hparse]
  obtain ⟨hx, hy, hevents⟩ := parseDataPacket_spec screen pointer packet.dx packet.dy
    packet.noOverflow hparse
  have hexact : Exact screen pointer packet ↔
      after.x = clamp (pointer.x + packet.deltaX) screen.width ∧
        after.y = clamp (pointer.y - packet.deltaY) screen.height ∧
        events.filter isButtonEvent = changes pointer packet.flags := by
    constructor
    · exact fun hexact => hexact _ _ hstep
    · intro hall parse after' hstep'
      rw [hstep] at hstep'
      obtain ⟨rfl, rfl⟩ := Prod.mk.inj (Except.ok.inj hstep')
      exact hall
  rw [hexact, hx, hy, hevents, Fits]
  exact and_congr (movedBy_right_iff hxlow hxhigh screen.width_le _ _)
    (and_congr (movedBy_left_iff hylow hyhigh screen.height_le _ _)
      (List.take_eq_self_iff _))

theorem onScreen_of_exact {parse : Parse} (h : Exact screen pointer packet)
    (hstep : packetStep screen pointer packet = .ok (parse, after)) : OnScreen screen after := by
  obtain ⟨hx, hy, _⟩ := h parse after hstep
  have hwidth := screen.width_pos
  have hheight := screen.height_pos
  rw [OnScreen, hx, hy]
  unfold clamp
  omega

def mouseByte (byte : UInt8) : PortByte := ⟨true, byte⟩

/-- The driver has read the first `stage` bytes of a packet. -/
structure Reads (d : Driver) (packet : Packet) : Prop where
  initialized : d.initialized = true
  stage_lt : d.stage < (packet.bytes d.hasWheel).length
  flags : 0 < d.stage → d.buffer 0 = packet.flags
  dx : 1 < d.stage → d.buffer 1 = packet.dx
  dy : 2 < d.stage → d.buffer 2 = packet.dy

theorem Reads.next (h : Reads d packet) (hbyte : (packet.bytes d.hasWheel)[d.stage]? = some byte)
    (hlt : d.stage + 1 < (packet.bytes d.hasWheel).length) :
    Reads (saveByte d byte (d.stage + 1)) packet := by
  have hbytes : ∀ i < d.stage, (saveByte d byte (d.stage + 1)).buffer i = d.buffer i :=
    fun i hi => Function.update_of_ne (Nat.ne_of_lt hi) ..
  have hnew : (saveByte d byte (d.stage + 1)).buffer d.stage = byte := Function.update_self ..
  refine ⟨h.initialized, hlt, fun _ => ?_, fun hstage => ?_, fun hstage => ?_⟩
  · rcases Nat.eq_zero_or_pos d.stage with hzero | hpos
    · rw [hzero] at hnew hbyte
      rw [hzero, hnew]
      unfold Packet.bytes at hbyte
      split at hbyte <;> exact (Option.some.inj hbyte).symm
    · rw [hbytes 0 hpos]
      exact h.flags hpos
  · change 1 < d.stage + 1 at hstage
    rcases Nat.lt_or_ge 1 d.stage with hpos | hle
    · rw [hbytes 1 hpos]
      exact h.dx hpos
    · have hone : d.stage = 1 := by omega
      rw [hone] at hnew hbyte
      rw [hone, hnew]
      unfold Packet.bytes at hbyte
      split at hbyte <;> exact (Option.some.inj hbyte).symm
  · change 2 < d.stage + 1 at hstage
    rcases Nat.lt_or_ge 2 d.stage with hpos | hle
    · rw [hbytes 2 hpos]
      exact h.dy hpos
    · have htwo : d.stage = 2 := by omega
      rw [htwo] at hnew hbyte
      rw [htwo, hnew]
      unfold Packet.bytes at hbyte
      split at hbyte <;> exact (Option.some.inj hbyte).symm

theorem Reads.parse (screen : Screen) (h : Reads d packet)
    (hbyte : (packet.bytes d.hasWheel)[d.stage]? = some byte)
    (hlast : d.stage + 1 = (packet.bytes d.hasWheel).length) (stage : Nat) :
    packetStep screen d.pointer packet = .ok ((commit screen (saveByte d byte stage)).1,
        (commit screen (saveByte d byte stage)).2.pointer) := by
  have hbuffer : (saveByte d byte stage).buffer 0 = packet.flags ∧
      (saveByte d byte stage).buffer 1 = packet.dx ∧
      (saveByte d byte stage).buffer 2 = packet.dy := by
    have hold : ∀ i < d.stage, (saveByte d byte stage).buffer i = d.buffer i :=
      fun i hi => Function.update_of_ne (Nat.ne_of_lt hi) ..
    have hnew : (saveByte d byte stage).buffer d.stage = byte := Function.update_self ..
    unfold Packet.bytes at hbyte hlast
    split at hlast
    · have hstage : d.stage = 3 := by simpa using hlast
      rw [hold 0 (by omega), hold 1 (by omega), hold 2 (by omega)]
      exact ⟨h.flags (by omega), h.dx (by omega), h.dy (by omega)⟩
    · rename_i hwheel
      have hstage : d.stage = 2 := by simpa using hlast
      rw [if_neg hwheel, hstage] at hbyte
      rw [hstage] at hnew
      rw [hold 0 (by omega), hold 1 (by omega), hnew]
      exact ⟨h.flags (by omega), h.dx (by omega), (Option.some.inj hbyte).symm⟩
  obtain ⟨hflags, hdx, hdy⟩ := hbuffer
  unfold packetStep commit
  rw [hflags, hdx, hdy]
  rfl

theorem readPort_next (screen : Screen) (hbyte : (packet.bytes d.hasWheel)[d.stage]? = some byte)
    (hlt : d.stage + 1 < (packet.bytes d.hasWheel).length) (port : List PortByte) :
    readPort screen d (mouseByte byte :: port) =
      readPort screen (saveByte d byte (d.stage + 1)) port := by
  rw [readPort, if_neg (by simp [mouseByte])]
  obtain ⟨hfour, hwheel⟩ : d.stage + 1 < 4 ∧ (d.hasWheel ≠ true → d.stage + 1 < 3) := by
    unfold Packet.bytes at hlt
    split at hlt
    · rename_i hyes
      exact ⟨hlt, fun hno => absurd hyes hno⟩
    · exact ⟨Nat.lt_succ_of_lt hlt, fun _ => hlt⟩
  split
  · rename_i hstage
    have hflags : byte = packet.flags := by
      rw [hstage] at hbyte
      unfold Packet.bytes at hbyte
      split at hbyte <;> exact (Option.some.inj hbyte).symm
    have halways : ¬ hasFlag (mouseByte byte).byte MOUSE_FLAGS_ALWAYS_1 = false := by
      change ¬ hasFlag byte MOUSE_FLAGS_ALWAYS_1 = false
      rw [hflags, packet.always1]
      exact Bool.noConfusion
    rw [if_neg halways, hstage]
    rfl
  · rename_i hstage
    rw [hstage]
    rfl
  · rename_i hstage
    have hhas : d.hasWheel = true := by
      by_contra hno
      have hthree := hwheel hno
      omega
    rw [if_pos hhas, hstage]
    rfl
  · omega
  · rename_i hne0 hne1 hne2 _
    have hcases : d.stage = 0 ∨ d.stage = 1 ∨ d.stage = 2 := by omega
    rcases hcases with h0 | h1 | h2
    · exact (hne0 h0).elim
    · exact (hne1 h1).elim
    · exact (hne2 h2).elim

theorem readPort_last (screen : Screen) (hlast : d.stage + 1 = (packet.bytes d.hasWheel).length)
    (port : List PortByte) :
    readPort screen d (mouseByte byte :: port) =
      ([(commit screen (saveByte d byte d.stage)).1], (commit screen (saveByte d byte d.stage)).2,
        port) := by
  rw [readPort, if_neg (by simp [mouseByte])]
  obtain ⟨hcases, hwheel⟩ : (d.stage = 2 ∨ d.stage = 3) ∧ (d.hasWheel = true → d.stage = 3) := by
    unfold Packet.bytes at hlast
    split at hlast
    · have hthree : d.stage = 3 := Nat.succ.inj hlast
      exact ⟨.inr hthree, fun _ => hthree⟩
    · rename_i hno
      exact ⟨.inl (Nat.succ.inj hlast), fun hyes => absurd hyes hno⟩
  split
  · omega
  · omega
  · rename_i hstage
    have hhas : ¬ d.hasWheel = true := by
      intro hyes
      have hthree := hwheel hyes
      omega
    rw [if_neg hhas, hstage]
    rfl
  · rename_i hstage
    rw [hstage]
    rfl
  · rename_i _ _ hne2 hne3
    rcases hcases with h2 | h3
    · exact (hne2 h2).elim
    · exact (hne3 h3).elim

theorem readPort_spec (screen : Screen) {behind : List UInt8} (port : List UInt8)
    (h : Reads d packet)
    (hbytes : (packet.bytes d.hasWheel).drop d.stage ++ behind = port ++ future) :
    ∃ parses d' port', readPort screen d (port.map mouseByte) =
        (parses, d', port'.map mouseByte) ∧ d'.hasWheel = d.hasWheel ∧
      (parses = [] ∧ port' = [] ∧ Reads d' packet ∧ d'.pointer = d.pointer ∧
          (packet.bytes d.hasWheel).drop d'.stage ++ behind = future ∨
        ∃ parse, parses = [parse] ∧ packetStep screen d.pointer packet = .ok (parse, d'.pointer) ∧
          d'.initialized = true ∧ d'.stage = 0 ∧ behind = port' ++ future) := by
  induction port generalizing d with
  | nil => exact ⟨[], d, [], rfl, rfl, .inl ⟨rfl, rfl, h, rfl, hbytes⟩⟩
  | cons b port ih =>
      rw [List.drop_eq_getElem_cons h.stage_lt, List.cons_append, List.cons_append] at hbytes
      obtain ⟨hb, hrest⟩ := List.cons.inj hbytes
      have hbyte : (packet.bytes d.hasWheel)[d.stage]? = some b := by
        rw [List.getElem?_eq_getElem h.stage_lt, hb]
      rw [List.map_cons]
      rcases Nat.lt_or_eq_of_le (Nat.succ_le_of_lt h.stage_lt) with hlt | hlast
      · rw [readPort_next screen hbyte hlt]
        exact ih (h.next hbyte hlt) hrest
      · rw [readPort_last screen hlast]
        rw [show d.stage + 1 = _ from hlast, List.drop_length, List.nil_append] at hrest
        exact ⟨_, _, port, rfl, rfl,
          .inr ⟨_, rfl, h.parse screen hbyte hlast d.stage, h.initialized, rfl, hrest⟩⟩

/-- The packets that are still to be parsed: the driver has read a part of the first one, and the
rest of the bytes waits in the controller or is still to be sent. -/
def Awaits (s : MouseSystem) (packets : List Packet) (future : List UInt8) : Prop :=
  s.driver.initialized = true ∧
    ∃ port : List UInt8, s.port = port.map mouseByte ∧
      match packets with
      | [] => s.driver.stage = 0 ∧ port ++ future = []
      | packet :: rest =>
          Reads s.driver packet ∧
            (packet.bytes s.driver.hasWheel).drop s.driver.stage ++
                rest.flatMap (Packet.bytes s.driver.hasWheel) = port ++ future

theorem bytes_ne_nil (hasWheel : Bool) (packet : Packet) : 0 < (packet.bytes hasWheel).length := by
  unfold Packet.bytes
  split <;> exact Nat.succ_pos _

theorem awaits_boundary {port : List UInt8} (hinit : d.initialized = true) (hstage : d.stage = 0)
    (h : packets.flatMap (Packet.bytes d.hasWheel) = port ++ future) :
    Awaits ⟨d, port.map mouseByte⟩ packets future := by
  refine ⟨hinit, port, rfl, ?_⟩
  cases packets with
  | nil => exact ⟨hstage, h.symm⟩
  | cons packet rest =>
      have hnone : ∀ n, n < d.stage → False := fun n hn => by omega
      refine ⟨⟨hinit, ?_, fun h0 => (hnone _ h0).elim, fun h1 => (hnone _ h1).elim,
        fun h2 => (hnone _ h2).elim⟩, ?_⟩
      · change d.stage < _
        rw [hstage]
        exact bytes_ne_nil _ packet
      · change List.drop d.stage _ ++ _ = _
        rw [hstage, List.drop_zero, ← h, List.flatMap_cons]

theorem interfaceStep_awaits (screen : Screen) {arrived : List UInt8} {parses : List Parse}
    (h : Awaits s packets (arrived ++ future))
    (hstep : interfaceStep screen s arrived = .ok (parses, t)) :
    t.driver.hasWheel = s.driver.hasWheel ∧
      ∃ done rest, packets = done ++ rest ∧ Awaits t rest future ∧
        run (packetStep screen) s.driver.pointer done = .ok (parses, t.driver.pointer) := by
  obtain ⟨driver, waiting⟩ := s
  obtain ⟨hinit, port, hport, hpackets⟩ := h
  change waiting = port.map mouseByte at hport
  subst hport
  unfold interfaceStep deviceInterfacePS2Mouse at hstep
  rw [if_neg (by rw [hinit]; exact Bool.noConfusion)] at hstep
  have hbytes : port.map mouseByte ++ arrived.map (fun byte => (⟨true, byte⟩ : PortByte)) =
      (port ++ arrived).map mouseByte := by
    rw [List.map_append]
    rfl
  dsimp only at hstep
  rw [hbytes] at hstep
  cases packets with
  | nil =>
      obtain ⟨hstage, hnone⟩ := hpackets
      obtain ⟨hnone, hfuture⟩ := List.append_eq_nil_iff.mp ((List.append_assoc ..).trans hnone)
      rw [hnone] at hstep
      obtain ⟨rfl, rfl⟩ := Prod.mk.inj (Except.ok.inj hstep)
      exact ⟨rfl, [], [], rfl, ⟨hinit, [], rfl, hstage, hfuture⟩, rfl⟩
  | cons packet rest =>
      obtain ⟨hreads, hpackets⟩ := hpackets
      rw [← List.append_assoc] at hpackets
      obtain ⟨parses', d', port', hread, hwheel, hcases⟩ :=
        readPort_spec screen (port ++ arrived) hreads hpackets
      rw [hread] at hstep
      obtain ⟨rfl, rfl⟩ := Prod.mk.inj (Except.ok.inj hstep)
      refine ⟨hwheel, ?_⟩
      rcases hcases with ⟨rfl, rfl, hreads', hpointer, hrest⟩ |
        ⟨parse, rfl, hparse, hinit', hstage, hrest⟩
      · refine ⟨[], packet :: rest, rfl, ⟨hreads'.initialized, [], rfl, hreads', ?_⟩, ?_⟩
        · rw [hwheel]
          exact hrest
        · rw [run, hpointer]
      · refine ⟨[packet], rest, rfl, awaits_boundary hinit' hstage ?_, ?_⟩
        · rw [hwheel]
          exact hrest
        · rw [run, hparse]
          rfl

theorem run_append_ok {σ ι ο : Type} {step : σ → ι → Except String (ο × σ)} {s t u : σ}
    {is js : List ι} {os ps : List ο} (h : run step s is = .ok (os, t))
    (h' : run step t js = .ok (ps, u)) : run step s (is ++ js) = .ok (os ++ ps, u) := by
  induction is generalizing s os with
  | nil =>
      cases h
      exact h'
  | cons i is ih =>
      obtain ⟨o, t', os', hstep, hrest, rfl⟩ := run_cons_ok h
      rw [List.cons_append, run, hstep]
      dsimp only
      rw [ih hrest]
      rfl

theorem interface_run (screen : Screen) {calls : List (List UInt8)} {outs : List (List Parse)}
    (h : Awaits s packets (calls.flatten ++ future))
    (hrun : run (interfaceStep screen) s calls = .ok (outs, t)) :
    ∃ done rest, packets = done ++ rest ∧ Awaits t rest future ∧
      run (packetStep screen) s.driver.pointer done = .ok (outs.flatten, t.driver.pointer) := by
  induction calls generalizing s packets outs with
  | nil =>
      cases hrun
      exact ⟨[], packets, rfl, h, rfl⟩
  | cons arrived calls ih =>
      obtain ⟨parses, s', outs', hstep, hrest, rfl⟩ := run_cons_ok hrun
      rw [List.flatten_cons, List.append_assoc] at h
      obtain ⟨_, done, rest, rfl, hawaits, hdone⟩ := interfaceStep_awaits screen h hstep
      obtain ⟨done', rest', rfl, hawaits', hdone'⟩ := ih hawaits hrest
      refine ⟨done ++ done', rest', (List.append_assoc ..).symm, hawaits', ?_⟩
      rw [List.flatten_cons]
      exact run_append_ok hdone hdone'

theorem rest_eq_nil {rest : List Packet} (h : Awaits s rest []) (hport : s.port = []) :
    rest = [] := by
  obtain ⟨_, port, hmap, hrest⟩ := h
  rw [hport] at hmap
  obtain rfl : port = [] := List.map_eq_nil_iff.mp hmap.symm
  cases rest with
  | nil => rfl
  | cons packet rest =>
      obtain ⟨hreads, hbytes⟩ := hrest
      have hdrop := (List.append_eq_nil_iff.mp hbytes).1
      have hlt := hreads.stage_lt
      rw [List.drop_eq_nil_iff] at hdrop
      omega

/-- Whatever calls the bytes of a stream of packets are split over, the packets are parsed one
after the other, each once, and all those of which the last byte has been read. All of them move
the pointer by their deltas on the screen, and give every button that changes its event, if and
only if they all fit. -/
theorem mouse_stream_iff (screen : Screen) {d : Driver} (hinit : d.initialized = true)
    (hstage : d.stage = 0) (hscreen : OnScreen screen d.pointer) (packets : List Packet)
    {calls : List (List UInt8)} (hsplit : calls.flatten = packets.flatMap (Packet.bytes d.hasWheel))
    {outs : List (List Parse)} {t : MouseSystem}
    (hrun : run (interfaceStep screen) ⟨d, []⟩ calls = .ok (outs, t)) :
    ∃ done rest, packets = done ++ rest ∧ (t.port = [] → rest = []) ∧
      run (packetStep screen) d.pointer done = .ok (outs.flatten, t.driver.pointer) ∧
      (Guarded (packetStep screen) (Exact screen) d.pointer done ↔
        Guarded (packetStep screen) (Fits screen) d.pointer done) := by
  have hstart : Awaits ⟨d, ([] : List UInt8).map mouseByte⟩ packets (calls.flatten ++ []) := by
    apply awaits_boundary hinit hstage
    rw [List.append_nil, List.nil_append, hsplit]
  obtain ⟨done, rest, hpackets, hawaits, hdone⟩ := interface_run screen hstart hrun
  refine ⟨done, rest, hpackets, rest_eq_nil hawaits, hdone, ?_⟩
  exact guarded_iff (OnScreen screen) (fun _ packet h => exact_iff h packet)
    (fun _ _ _ _ _ hexact hstep => onScreen_of_exact hexact hstep) hscreen done

def svga : Screen := ⟨800, 600, by decide, by decide, by decide, by decide⟩

def centered : Pointer := ⟨400, 300, 400, 400, false, false, false, false, 0, 0⟩

def startedDriver : Driver := ⟨true, false, 0, fun _ => 0, centered⟩

def pressLeft : Packet := ⟨0x09, 5, 3, 0, by decide, by decide⟩

def releaseLeft : Packet := ⟨0x08, 0, 0, 0, by decide, by decide⟩

instance (screen : Screen) (pointer : Pointer) : Decidable (OnScreen screen pointer) :=
  inferInstanceAs (Decidable (_ ∧ _))

instance (position delta steps size : Int) : Decidable (AxisFits position delta steps size) :=
  inferInstanceAs (Decidable (_ ∨ _))

instance (screen : Screen) (pointer : Pointer) (packet : Packet) :
    Decidable (Fits screen pointer packet) :=
  inferInstanceAs (Decidable (_ ∧ _))

theorem mouse_stream_iff_example :
    ∃ done outs t, run (interfaceStep svga) ⟨startedDriver, []⟩ [[0x09], [5, 3, 0x08], [0, 0]] =
        .ok (outs, t) ∧
      [pressLeft, releaseLeft] = done ∧
      Guarded (packetStep svga) (Exact svga) centered done := by
  obtain ⟨done, rest, hpackets, hrest, _, hiff⟩ := mouse_stream_iff svga
    (show startedDriver.initialized = true from rfl) rfl (by decide : OnScreen svga centered)
    [pressLeft, releaseLeft] (show [[0x09], [5, 3, 0x08], [0, 0]].flatten = _ from rfl) rfl
  obtain rfl := hrest rfl
  rw [List.append_nil] at hpackets
  subst hpackets
  exact ⟨_, _, _, rfl, rfl, hiff.mpr (by decide)⟩

def pressBoth : Packet := ⟨0x0B, 0, 0, 0, by decide, by decide⟩

/-- Only the left button has its event, but both states have been saved. -/
theorem second_button_lost :
    (∃ t, run (interfaceStep svga) ⟨startedDriver, []⟩ [[0x0B, 0, 0]] =
        .ok ([[⟨0x0B, 0, 0, [⟨.MSG_MOUSEPRESSED, 1, 1⟩]⟩]], t) ∧
      t.driver.pointer.button1 = true) ∧
    changes centered pressBoth.flags = [⟨.MSG_MOUSEPRESSED, 1, 1⟩, ⟨.MSG_MOUSEPRESSED, 2, 2⟩] ∧
      ¬ Guarded (packetStep svga) (Exact svga) centered [pressBoth] := by
  refine ⟨⟨_, rfl, rfl⟩, rfl, fun h => ?_⟩
  have hevents := (h.1 _ _ rfl).2.2
  revert hevents
  decide

end Gramado.Input.Mouse
