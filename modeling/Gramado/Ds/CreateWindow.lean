import Gramado.Ds.Geometry
import Gramado.Library.CheckedArithmetic

/-! The rectangles of a window and of its parts when they are created. -/

namespace Gramado.Ds.CreateWindow

open Library.CheckedArithmetic Library.CheckedArithmetic.Tracked
open Ds.Geometry (WorkArea)

def METRICS_BORDER_SIZE : UInt64 := 2
def METRICS_TITLEBAR_DEFAULT_HEIGHT : UInt64 := 32
def METRICS_TITLEBAR_ORNAMENT_SIZE : UInt64 := 3
def METRICS_TITLEBAR_CONTROLS_TOPPAD : UInt64 := 2
def METRICS_TITLEBAR_CONTROLS_RIGHTPAD : UInt64 := 2
def METRICS_TITLEBAR_CONTROLS_SEPARATOR_WIDTH : UInt64 := 1
def METRICS_TITLEBAR_CONTROLS_DEFAULT_WIDTH : UInt64 := 29
def METRICS_TITLEBAR_CONTROLS_DEFAULT_HEIGHT : UInt64 := 25
def METRICS_CLIENTAREA_LEFTPAD : UInt64 := 4
def METRICS_CLIENTAREA_TOPPAD : UInt64 := 4
def METRICS_CLIENTAREA_RIGHTPAD : UInt64 := 4
def METRICS_CLIENTAREA_BOTTOMPAD : UInt64 := 4
def STATUSBAR_HEIGHT : UInt64 := 32
def OVERLAPPED_MIN_WIDTH : UInt64 := 80
def OVERLAPPED_MIN_HEIGHT : UInt64 := 80
def EDITBOX_MIN_WIDTH : UInt64 := 8
def EDITBOX_MIN_HEIGHT : UInt64 := 8
def BUTTON_MIN_WIDTH : UInt64 := 8
def BUTTON_MIN_HEIGHT : UInt64 := 8
def WINDOW_STATE_FULL : UInt32 := 1000
def WINDOW_STATE_MAXIMIZED : UInt32 := 1001
def WS_STATUSBAR : UInt64 := 0x100000000
def WS_TASKBAR : UInt64 := 0x200000000

def FONT_WIDTH : UInt64 := 8
def FONT_HEIGHT : UInt64 := 16

inductive WindowType where
  | WT_SIMPLE
  | WT_EDITBOX_SINGLE_LINE
  | WT_OVERLAPPED
  | WT_CHECKBOX
  | WT_SCROLLBAR
  | WT_EDITBOX_MULTIPLE_LINES
  | WT_BUTTON
  | WT_STATUSBAR
  | WT_ICON
  | WT_TITLEBAR
  | other
  deriving DecidableEq, Repr

structure GwsRect where
  left : UInt64
  top : UInt64
  width : UInt64
  height : UInt64
  deriving DecidableEq, Repr

structure Window where
  valid : Bool
  type : WindowType
  style : UInt64
  state : UInt32
  name : List UInt8
  borderSize : UInt64
  left : UInt64
  top : UInt64
  width : UInt64
  height : UInt64
  absoluteX : UInt64
  absoluteY : UInt64
  absoluteRight : UInt64
  absoluteBottom : UInt64
  leftOffset : UInt64
  rcClient : GwsRect
  deriving DecidableEq, Repr

/-- The screen and the window manager. The working area is a part of a screen that 16 bits
measure. -/
structure Server where
  deviceWidth : UInt64
  deviceHeight : UInt64
  initialized : Bool
  wa : WorkArea
  wa_left : wa.left.toNat < 65536
  wa_top : wa.top.toNat < 65536
  wa_width : wa.width.toNat < 65536
  wa_height : wa.height.toNat < 65536

/-- The window of a request and the windows that are made for it. -/
structure Created where
  window : Window
  titlebar : Option Window
  controls : List Window
  statusbar : Option Window
  deriving DecidableEq, Repr

def mask16 (x : UInt64) : UInt64 := x &&& 0xFFFF

theorem toNat_mask16 (x : UInt64) : (mask16 x).toNat = x.toNat % 65536 := by
  rw [mask16, UInt64.toNat_and]
  exact Nat.and_two_pow_sub_one_eq_mod x.toNat 16

theorem mask16_lt (x : UInt64) : (mask16 x).toNat < 65536 := by
  rw [toNat_mask16]
  exact Nat.mod_lt _ (by decide)

theorem mask16_of_lt {x : UInt64} (h : x.toNat < 65536) : mask16 x = x := by
  apply UInt64.toNat.inj
  rw [toNat_mask16, Nat.mod_eq_of_lt h]

def bytesOf (s : String) : List UInt8 :=
  s.toList.map fun c => .ofNat c.toNat

def default_window_name : List UInt8 := bytesOf "Untitled window"

def windowName (title : List UInt8) : List UInt8 :=
  if title = [] then default_window_name else title

def clientRect (width height : UInt64) : Tracked GwsRect := do
  let crWidth ← sub (← sub width (METRICS_BORDER_SIZE * 2))
    (METRICS_CLIENTAREA_LEFTPAD + METRICS_CLIENTAREA_RIGHTPAD)
  let crHeight ← sub (← sub height (METRICS_BORDER_SIZE * 2))
    (METRICS_CLIENTAREA_TOPPAD + METRICS_CLIENTAREA_BOTTOMPAD)
  pure
    { left := METRICS_BORDER_SIZE + METRICS_CLIENTAREA_LEFTPAD
      top := METRICS_BORDER_SIZE + METRICS_CLIENTAREA_TOPPAD
      width := crWidth, height := crHeight }

/-- A window is relative to its parent, and in the client area if the parent is overlapped. Only
the title bar is not in the client area. -/
def absoluteCorner (parent : Option Window) (type : WindowType) (x y : UInt64) :
    UInt64 × UInt64 :=
  match parent with
  | none => (x, y)
  | some p =>
      if p.type = .WT_OVERLAPPED ∧ type ≠ .WT_TITLEBAR then
        (p.absoluteX + p.rcClient.left + x, p.absoluteY + p.rcClient.top + y)
      else (p.absoluteX + x, p.absoluteY + y)

def Window.place (w : Window) (x y width height : UInt64) : Window :=
  { w with
    width := width, height := height, absoluteX := x, absoluteY := y
    absoluteRight := x + width, absoluteBottom := y + height }

/-- A maximized window has the working area, and a fullscreen window the screen. -/
def Window.viewed (s : Server) (w : Window) : Window :=
  let w := if w.state = WINDOW_STATE_MAXIMIZED ∧ s.initialized = true then
      w.place s.wa.left s.wa.top s.wa.width s.wa.height
    else w
  if w.state = WINDOW_STATE_FULL then
    w.place 0 0 (mask16 s.deviceWidth) (mask16 s.deviceHeight)
  else w

def labelOffset (w : Window) : Tracked (UInt64 × UInt64) := do
  let tmpSize := UInt64.ofNat (min w.name.length 64)
  let left ← sub w.width (tmpSize * FONT_WIDTH)
  let top ← sub w.height FONT_HEIGHT
  pure (left >>> 1, top >>> 1)

def newWindow (s : Server) (parent : Option Window) (type : WindowType) (style : UInt64)
    (state : UInt32) (title : List UInt8) (x y width height : UInt64) (client : GwsRect) :
    Window :=
  let corner := absoluteCorner parent type (mask16 x) (mask16 y)
  let w : Window :=
    { valid := true, type := type, style := style, state := state, name := windowName title
      borderSize := METRICS_BORDER_SIZE, left := mask16 x, top := mask16 y
      width := mask16 width, height := mask16 height
      absoluteX := corner.1, absoluteY := corner.2
      absoluteRight := corner.1 + mask16 width, absoluteBottom := corner.2 + mask16 height
      leftOffset := 0, rcClient := client }
  w.viewed s

def doCreateWindow (s : Server) (parent : Option Window) (type : WindowType) (style : UInt64)
    (state : UInt32) (title : List UInt8) (x y width height : UInt64) : Tracked Window := do
  let client ← clientRect (mask16 width) (mask16 height)
  let w := newWindow s parent type style state title x y width height client
  if type = .WT_BUTTON then
    let _ ← labelOffset w
  pure w

def updateWorkingArea (s : Server) (w : Window) (type : WindowType) : Server :=
  if (type = .WT_SIMPLE ∨ type = .WT_TITLEBAR) ∧ w.style &&& WS_TASKBAR ≠ 0 ∧
      s.initialized = true then
    { s with
      wa := { left := 0, top := 0, width := mask16 s.deviceWidth, height := mask16 w.top }
      wa_left := Nat.zero_lt_succ _
      wa_top := Nat.zero_lt_succ _
      wa_width := mask16_lt s.deviceWidth
      wa_height := mask16_lt w.top }
  else s

def Window.masked (w : Window) : Window :=
  { w with
    absoluteX := mask16 w.absoluteX, absoluteY := mask16 w.absoluteY
    width := mask16 w.width, height := mask16 w.height }

def raise (value minimum : UInt64) : UInt64 := if value < minimum then minimum else value

def createButton (s : Server) (parent : Option Window) (style : UInt64) (state : UInt32)
    (title : List UInt8) (x y width height : UInt64) : Tracked Window := do
  let w ← doCreateWindow s parent .WT_BUTTON style state title x y
    (raise width BUTTON_MIN_WIDTH) (raise height BUTTON_MIN_HEIGHT)
  pure (if (parent.map Window.valid) = some true then w.masked else w)

def createControl (s : Server) (bar : Window) (buttons separators : UInt64) (label : List UInt8) :
    Tracked Window := do
  let lastLeft ← sub (← sub (← sub bar.width (buttons * METRICS_TITLEBAR_CONTROLS_DEFAULT_WIDTH))
    (separators * METRICS_TITLEBAR_CONTROLS_SEPARATOR_WIDTH)) METRICS_TITLEBAR_CONTROLS_RIGHTPAD
  let w ← createButton s (some bar) 0 1 label lastLeft METRICS_TITLEBAR_CONTROLS_TOPPAD
    METRICS_TITLEBAR_CONTROLS_DEFAULT_WIDTH METRICS_TITLEBAR_CONTROLS_DEFAULT_HEIGHT
  let offset ← sub bar.width lastLeft
  pure { w with leftOffset := offset }

def minimizeControl (s : Server) (bar : Window) : Tracked Window :=
  createControl s bar 3 2 (bytesOf "_")

def maximizeControl (s : Server) (bar : Window) : Tracked Window :=
  createControl s bar 2 1 (bytesOf "M")

def closeControl (s : Server) (bar : Window) : Tracked Window :=
  createControl s bar 1 0 (bytesOf "X")

/-- Each control is registered before the next one is made. The window table has room for `room`
windows. -/
def registerControls : List (Tracked Window) → Nat → Tracked (List Window × Nat)
  | [], room => pure ([], room)
  | control :: rest, room => do
      let w ← control
      if room = 0 then pure ([], 0)
      else
        let (ws, room) ← registerControls rest (room - 1)
        pure (w :: ws, room)

def doCreateControls (s : Server) (bar : Window) (room : Nat) : Tracked (List Window × Nat) :=
  registerControls [minimizeControl s bar, maximizeControl s bar, closeControl s bar] room

def doCreateTitlebar (s : Server) (parent : Window) (tbHeight : UInt64) (room : Nat) :
    Tracked (Option Window × List Window × Nat) := do
  let narrow ← sub parent.width (2 * parent.borderSize)
  let wide := parent.state = WINDOW_STATE_FULL ∨ parent.state = WINDOW_STATE_MAXIMIZED
  let left := if wide then 0 else parent.borderSize
  let width := if wide then parent.width else narrow
  let bar ← doCreateWindow s (some parent) .WT_TITLEBAR 0 1 (bytesOf "TitleBar") left left width
    tbHeight
  let bar := { bar with type := .WT_SIMPLE, name := parent.name }
  if bar.width = 0 then pure (none, [], room)
  else
    -- the ornament and the text of the bar
    let _ ← sub (bar.absoluteY + bar.height) METRICS_TITLEBAR_ORNAMENT_SIZE
    let _ ← sub bar.height FONT_HEIGHT
    let (controls, room) ← doCreateControls s bar room
    pure (some bar, controls, room)

def borderClient (w : Window) (size : UInt64) : Tracked Window := do
  let width ← sub w.rcClient.width size
  let height ← sub w.rcClient.height size
  pure
    { w with
      borderSize := size
      rcClient :=
        { left := w.rcClient.left + size, top := w.rcClient.top + size
          width := width, height := height } }

def addStatusbar (s : Server) (c : Created) : Tracked Created :=
  if c.window.style &&& WS_STATUSBAR ≠ 0 then do
    let w := c.window
    let sbTop ← sub w.rcClient.height STATUSBAR_HEIGHT
    let sbWidth ← sub w.width 4
    let bar ← doCreateWindow s (some w) .WT_SIMPLE 0 1 (bytesOf "Statusbar") 0 sbTop sbWidth
      STATUSBAR_HEIGHT
    let height ← sub w.rcClient.height STATUSBAR_HEIGHT
    pure
      { c with
        window := { w with rcClient := { w.rcClient with height := height } }
        statusbar := some bar }
  else pure c

def bordered (w : Window) : Tracked Window :=
  if w.state ≠ WINDOW_STATE_MAXIMIZED ∧ w.state ≠ WINDOW_STATE_FULL then
    borderClient w w.borderSize
  else pure w

def overlappedFrame (s : Server) (w : Window) (room : Nat) : Tracked Created := do
  let w ← bordered w
  if w.state = WINDOW_STATE_FULL then addStatusbar s ⟨w, none, [], none⟩
  else
    let (bar, controls, room) ← doCreateTitlebar s w METRICS_TITLEBAR_DEFAULT_HEIGHT room
    if bar.isNone = true ∨ room = 0 then pure ⟨w, bar, controls, none⟩
    else
      let height ← sub w.rcClient.height METRICS_TITLEBAR_DEFAULT_HEIGHT
      let client :=
        { w.rcClient with
          top := w.rcClient.top + METRICS_TITLEBAR_DEFAULT_HEIGHT, height := height }
      addStatusbar s ⟨{ w with rcClient := client }, bar, controls, none⟩

def doCreateWindowFrame (s : Server) (parent : Option Window) (w : Window) (borderSize : UInt64)
    (room : Nat) : Tracked Created := do
  match parent with
  | none => pure ⟨w, none, [], none⟩
  | some p =>
      if p.valid = false then pure ⟨w, none, [], none⟩
      else
        let w := w.masked
        match w.type with
        | .WT_EDITBOX_SINGLE_LINE | .WT_EDITBOX_MULTIPLE_LINES =>
            let w ← borderClient w (mask16 borderSize)
            pure ⟨w, none, [], none⟩
        | .WT_OVERLAPPED => overlappedFrame s w room
        | .WT_ICON =>
            let w ← borderClient w w.borderSize
            pure ⟨w, none, [], none⟩
        | _ => pure ⟨w, none, [], none⟩

def clipToWorkingArea (s : Server) (y height : UInt64) : Tracked (UInt64 × UInt64) :=
  if s.initialized = true then
    let y := if y < s.wa.top then s.wa.top else y
    if y + height > s.wa.top + s.wa.height then
      if height > s.wa.height then do
        let height ← sub s.wa.height 28
        pure (s.wa.top, height)
      else do
        let y ← sub (s.wa.top + s.wa.height) height
        pure (y, height)
    else pure (y, height)
  else pure (y, height)

def createFramed (s : Server) (parent : Option Window) (type : WindowType) (style : UInt64)
    (state : UInt32) (title : List UInt8) (x y width height : UInt64) (room : Nat) :
    Tracked (Created × Server) := do
  let w ← doCreateWindow s parent .WT_SIMPLE style state title x y width height
  let s' := updateWorkingArea s w .WT_SIMPLE
  let created ← doCreateWindowFrame s' parent { w with type := type } METRICS_BORDER_SIZE room
  pure (created, s')

def createSimple (s : Server) (parent : Option Window) (style : UInt64) (state : UInt32)
    (title : List UInt8) (x y width height : UInt64) : Tracked (Created × Server) := do
  let w ← doCreateWindow s parent .WT_SIMPLE style state title x y width height
  pure (⟨w, none, [], none⟩, updateWorkingArea s w .WT_SIMPLE)

def createOverlapped (s : Server) (parent : Option Window) (style : UInt64) (state : UInt32)
    (title : List UInt8) (x y width height : UInt64) (room : Nat) :
    Tracked (Created × Server) := do
  let (y, height) ← clipToWorkingArea s y height
  createFramed s parent .WT_OVERLAPPED style state title x y
    (raise width OVERLAPPED_MIN_WIDTH) (raise height OVERLAPPED_MIN_HEIGHT) room

def createWindow (s : Server) (parent : Option Window) (type : WindowType) (style : UInt64)
    (state : UInt32) (title : List UInt8) (x y width height : UInt64) (room : Nat) :
    Option (Tracked (Created × Server)) :=
  match type with
  | .WT_SIMPLE => some (createSimple s parent style state title x y width height)
  | .WT_OVERLAPPED => some (createOverlapped s parent style state title x y width height room)
  | .WT_EDITBOX_SINGLE_LINE | .WT_EDITBOX_MULTIPLE_LINES =>
      some (createFramed s parent type style state title x y
        (raise width EDITBOX_MIN_WIDTH) (raise height EDITBOX_MIN_HEIGHT) room)
  | .WT_BUTTON =>
      some do
        let w ← createButton s parent style state title x y width height
        pure (⟨w, none, [], none⟩, s)
  | .WT_ICON =>
      some (createFramed s parent .WT_ICON style state title x y width height room)
  | _ => none

end Gramado.Ds.CreateWindow
