import Gramado.Library.Run
import Mathlib.Data.Int.NatAbs

/-! The rectangles of the windows of the display server. -/

namespace Gramado.Ds.Geometry

def WINDOW_COUNT_MAX : Nat := 1024
def METRICS_DEFAULT_MINIMUM_WINDOW_WIDTH : UInt64 := 103
def METRICS_DEFAULT_MINIMUM_WINDOW_HEIGHT : UInt64 := 43
def METRICS_CLIENTAREA_PADS : UInt64 := 4 + 4

inductive WindowType where
  | WT_SIMPLE
  | WT_EDITBOX_SINGLE_LINE
  | WT_OVERLAPPED
  | WT_EDITBOX_MULTIPLE_LINES
  | WT_BUTTON
  | other
  deriving DecidableEq, Repr

inductive WindowState where
  | WINDOW_STATE_FULL
  | WINDOW_STATE_MAXIMIZED
  | WINDOW_STATE_MINIMIZED
  | WINDOW_STATE_NORMAL
  deriving DecidableEq, Repr

/-- What no call here changes in a window. A window is valid if its magic number is. -/
structure Node where
  valid : Bool
  type : WindowType
  isTitleBar : Bool
  parent : Option Nat
  titlebar : Option Nat
  controlsInitialized : Bool
  minimizeWid : Int
  maximizeWid : Int
  closeWid : Int
  leftOffset : UInt64
  borderSize : UInt64
  titlebarHeight : UInt64
  clientLeft : UInt64
  clientTop : UInt64
  clientTid : UInt64

structure Box where
  state : WindowState
  left : UInt64
  top : UInt64
  width : UInt64
  height : UInt64
  absoluteX : UInt64
  absoluteY : UInt64
  absoluteRight : UInt64
  absoluteBottom : UInt64
  clientWidth : UInt64
  clientHeight : UInt64
  widthInChars : UInt64
  heightInChars : UInt64
  deriving DecidableEq, Repr

structure WorkArea where
  left : UInt64
  top : UInt64
  width : UInt64
  height : UInt64
  deriving DecidableEq, Repr

/-- The windows, found by their addresses, and the window manager. -/
structure Desktop where
  nodes : Nat → Node
  windowList : Nat → Option Nat
  rootWindow : Option Nat
  taskbarWindow : Option Nat
  initialized : Bool
  isFullscreen : Bool
  wa : WorkArea
  maximizationStyle : Option Nat

abbrev Boxes := Nat → Box

/-- The parameters of the system call that updates the window proxy of a thread. -/
structure ProxyMessage where
  tid : Nat
  left : UInt64
  top : UInt64
  width : UInt64
  height : UInt64
  clientLeft : UInt64
  clientTop : UInt64
  clientWidth : UInt64
  clientHeight : UInt64
  deriving DecidableEq, Repr

def Boxes.set (b : Boxes) (p : Nat) (f : Box → Box) : Boxes := Function.update b p (f (b p))

def Desktop.overlapped (k : Desktop) (p : Nat) : Bool := (k.nodes p).type = .WT_OVERLAPPED

def Desktop.isTaskbar (k : Desktop) (p : Nat) : Bool := k.taskbarWindow = some p

def Desktop.windowFromWid (k : Desktop) (wid : Int) : Option Nat :=
  if wid < 0 ∨ WINDOW_COUNT_MAX ≤ wid then none
  else (k.windowList wid.toNat).filter fun p => (k.nodes p).valid

def Desktop.controls (k : Desktop) (t : Nat) : List Nat :=
  [(k.nodes t).minimizeWid, (k.nodes t).maximizeWid, (k.nodes t).closeWid].filterMap
    k.windowFromWid

def proxyMessage (k : Desktop) (p : Nat) (b : Boxes) : ProxyMessage :=
  { tid := (k.nodes p).clientTid.toNat % 2 ^ 32
    left := (b p).absoluteX
    top := (b p).absoluteY
    width := (b p).width
    height := (b p).height
    clientLeft := if k.isTaskbar p = true then 0 else (k.nodes p).clientLeft
    clientTop := if k.isTaskbar p = true then 0 else (k.nodes p).clientTop
    clientWidth := if k.isTaskbar p = true then (b p).width else (b p).clientWidth
    clientHeight := if k.isTaskbar p = true then (b p).height else (b p).clientHeight }

def proxyMessages (k : Desktop) (p : Nat) (b : Boxes) : List ProxyMessage :=
  if k.overlapped p = true ∨ k.isTaskbar p = true then [proxyMessage k p b] else []

def Box.synced (box : Box) : Box :=
  { box with
    absoluteRight := box.absoluteX + box.width
    absoluteBottom := box.absoluteY + box.height }

def Box.setSize (width height : UInt64) (box : Box) : Box :=
  { box with width := width, height := height }

def Box.setWidth (width : UInt64) (box : Box) : Box := { box with width := width }

def Box.setLeft (left : UInt64) (box : Box) : Box := { box with left := left }

def Box.setCorner (x y : UInt64) (box : Box) : Box := { box with absoluteX := x, absoluteY := y }

def Box.setRelative (x y : UInt64) (box : Box) : Box := { box with left := x, top := y }

def Box.placedAt (x y : UInt64) (box : Box) : Box := (box.setCorner x y).synced

def Box.setState (state : WindowState) (box : Box) : Box := { box with state := state }

def Box.setChars (box : Box) : Box :=
  { box with widthInChars := box.width / 8, heightInChars := box.height / 8 }

def Box.setClient (n : Node) (box : Box) : Box :=
  { box with
    clientWidth := box.width - n.borderSize * 2 - METRICS_CLIENTAREA_PADS
    clientHeight :=
      box.height - n.borderSize * 2 - METRICS_CLIENTAREA_PADS - n.titlebarHeight }

def Desktop.clampedSize (k : Desktop) (cx cy : UInt64) : UInt64 × UInt64 :=
  let cx := max cx METRICS_DEFAULT_MINIMUM_WINDOW_WIDTH
  let cy := max cy METRICS_DEFAULT_MINIMUM_WINDOW_HEIGHT
  if k.initialized = true then (min cx k.wa.width, min cy k.wa.height) else (cx, cy)

def Desktop.newSize (k : Desktop) (p : Nat) (cx cy : UInt64) : UInt64 × UInt64 :=
  if k.overlapped p = true then k.clampedSize cx cy else (cx, cy)

def resizeTitlebar (k : Desktop) (p t : Nat) (b : Boxes) : Boxes :=
  let width := (b p).width - (k.nodes p).borderSize - (k.nodes p).borderSize
  (k.controls t).foldl (fun b c => b.set c (Box.setLeft (width - (k.nodes c).leftOffset)))
    (b.set t (Box.setWidth width))

def gwsResizeWindow (k : Desktop) (p : Nat) (cx cy : UInt64) (b : Boxes) :
    List ProxyMessage × Boxes :=
  let n := k.nodes p
  let size := k.newSize p cx cy
  let b := b.set p (Box.setSize size.1 size.2)
  let b := if n.valid = true then b.set p Box.synced else b
  let b :=
    if k.overlapped p = true then
      let b := match n.titlebar with
        | none => b
        | some t => resizeTitlebar k p t b
      b.set p (Box.setClient n)
    else b
  let b :=
    if n.type = .WT_EDITBOX_SINGLE_LINE ∨ n.type = .WT_EDITBOX_MULTIPLE_LINES then
      b.set p Box.setChars
    else b
  (proxyMessages k p b, b)

def moveTitlebar (k : Desktop) (p t : Nat) (b : Boxes) : Boxes :=
  let x := (b p).absoluteX + (k.nodes p).borderSize
  let y := (b p).absoluteY + (k.nodes p).borderSize
  let b := b.set t (Box.setCorner x y)
  if (k.nodes t).controlsInitialized = true then
    (k.controls t).foldl
      (fun b c => b.set c fun box => box.placedAt (x + box.left) (y + box.top)) b
  else b

def placeInParent (k : Desktop) (p : Nat) (x y : UInt64) (b : Boxes) : Boxes :=
  match (k.nodes p).parent with
  | none => b
  | some q =>
      if (k.nodes q).valid = true then
        b.set p (Box.placedAt ((b q).absoluteX + x) ((b q).absoluteY + y))
      else b

/-- Inside the client area of an overlapped parent, or inside a simple parent. -/
def placeInClient (k : Desktop) (p : Nat) (b : Boxes) : Boxes :=
  match (k.nodes p).parent with
  | none => b
  | some q =>
      if (k.nodes q).valid = false then b
      else
        match (k.nodes q).type with
        | .WT_OVERLAPPED =>
            b.set p fun box => box.placedAt
              ((b q).absoluteX + (k.nodes q).clientLeft + box.left)
              ((b q).absoluteY + (k.nodes q).clientTop + box.top)
        | .WT_SIMPLE =>
            b.set p fun box => box.placedAt ((b q).absoluteX + box.left)
              ((b q).absoluteY + box.top)
        | _ => b

def gwssrvChangeWindowPosition (k : Desktop) (p : Nat) (x y : UInt64) (b : Boxes) :
    List ProxyMessage × Boxes :=
  let b := b.set p (Box.placedAt x y)
  -- Nothing else is done for the taskbar.
  if k.overlapped p = false ∧ k.isTaskbar p = true then ([], b)
  else
    let b := if k.overlapped p = false then placeInParent k p x y b else b
    let b := b.set p (Box.setRelative x y)
    let b :=
      if k.overlapped p = true then
        match (k.nodes p).titlebar with
        | none => b
        | some t => moveTitlebar k p t b
      else b
    let b := placeInClient k p b
    (proxyMessages k p b, b)

def resizeAndMove (k : Desktop) (p : Nat) (cx cy x y : UInt64) (b : Boxes) :
    List ProxyMessage × Boxes :=
  let (sent, b) := gwsResizeWindow k p cx cy b
  let (sent', b) := gwssrvChangeWindowPosition k p x y b
  (sent ++ sent', b)

/-- The part of `minimize_window` that stays in the window. -/
def minimizeWindow (k : Desktop) (p : Nat) (b : Boxes) : Boxes :=
  if (k.nodes p).valid = true ∧ k.overlapped p = true then
    b.set p (Box.setState .WINDOW_STATE_MINIMIZED)
  else b

def Desktop.canDock (k : Desktop) (p : Nat) : Bool :=
  (k.nodes p).valid && k.rootWindow ≠ some p && !k.isTaskbar p &&
    (k.nodes p).type ≠ .WT_BUTTON && k.initialized && !k.isFullscreen &&
    k.wa.width ≠ 0 && k.wa.height ≠ 0

def dockWindow (k : Desktop) (p : Nat) (position : Int) (b : Boxes) :
    List ProxyMessage × Boxes :=
  if k.canDock p = false then ([], b)
  else
    match position with
    -- Top: the window is restored.
    | 1 =>
        let b :=
          if (b p).state = .WINDOW_STATE_MINIMIZED then
            b.set p (Box.setState .WINDOW_STATE_NORMAL)
          else b
        resizeAndMove k p (k.wa.width - 4) (k.wa.height - 4 - 24) (k.wa.left + 2) (k.wa.top + 2) b
    -- Right.
    | 2 =>
        if (b p).state = .WINDOW_STATE_MINIMIZED then ([], b)
        else
          resizeAndMove k p (k.wa.width / 2 - 4) (k.wa.height - 4 - 24) (k.wa.width / 2 + 2)
            (k.wa.top + 2) b
    -- Bottom.
    | 3 =>
        if (b p).state ≠ .WINDOW_STATE_MINIMIZED then ([], minimizeWindow k p b) else ([], b)
    -- Left.
    | 4 =>
        if (b p).state = .WINDOW_STATE_MINIMIZED then ([], b)
        else
          resizeAndMove k p (k.wa.width / 2 - 4) (k.wa.height - 4 - 24) (k.wa.left + 2)
            (k.wa.top + 2) b
    | _ => ([], b)

def Desktop.maximizedArea (k : Desktop) : WorkArea :=
  match k.maximizationStyle.getD 3 with
  | 2 =>
      { left := k.wa.left + 24, top := k.wa.top + 24
        width := k.wa.width - 24 * 2, height := k.wa.height - 24 * 2 }
  | 3 => { k.wa with height := k.wa.height - 24 }
  | _ => k.wa

def maximizeWindow (k : Desktop) (p : Nat) (b : Boxes) : List ProxyMessage × Boxes :=
  if (k.nodes p).valid = false ∨ k.rootWindow = some p ∨ k.isTaskbar p = true ∨
      k.overlapped p = false then ([], b)
  else
    let b := b.set p (Box.setState .WINDOW_STATE_MAXIMIZED)
    if k.initialized = false then ([], b)
    else
      let area := k.maximizedArea
      if area.width = 0 ∨ area.height = 0 then ([], b)
      else
        let (sent, b) := resizeAndMove k p area.width area.height area.left area.top b
        (sent, b.set p (Box.setClient (k.nodes p)))

inductive Call where
  | resize (p : Nat) (cx cy : UInt64)
  | move (p : Nat) (x y : UInt64)
  | dock (p : Nat) (position : Int)
  | maximize (p : Nat)
  deriving DecidableEq, Repr

/-- The callers of `gws_resize_window` and `gwssrv_change_window_position` check the window. -/
def call (k : Desktop) (c : Call) (b : Boxes) : List ProxyMessage × Boxes :=
  match c with
  | .resize p cx cy =>
      if (k.nodes p).valid = true then gwsResizeWindow k p cx cy b else ([], b)
  | .move p x y =>
      if (k.nodes p).valid = true then gwssrvChangeWindowPosition k p x y b else ([], b)
  | .dock p position => dockWindow k p position b
  | .maximize p => maximizeWindow k p b

def step (k : Desktop) (b : Boxes) (c : Call) : Except String (List ProxyMessage × Boxes) :=
  .ok (call k c b)

end Gramado.Ds.Geometry
