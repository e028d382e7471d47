import Gramado.Ds.EventQueue
import Gramado.Ds.Protocol

/-! The services of the display server, as `dsProcedure` calls them. -/

namespace Gramado.Ds.Services

open Library.ByteMemory Ds.Protocol

/-- The message codes that `dsProcedure` knows. -/
inductive Code where
  | hello
  | createWindow
  | backbufferPutPixel
  | drawHorizontalLine
  | drawChar
  | drawText
  | refreshWindow
  | redrawWindow
  | resizeWindow
  | changeWindowPosition
  | backbufferPutPixel2
  | disconnect
  | refreshScreen
  | refreshRectangle
  | drawRectangle
  | sendEvent
  | getNextEvent
  | grPlot0
  | grCubeZ
  | grRectangle
  | asyncCommand
  | putClientMessage
  | getClientMessage
  | setText
  | getText
  | quit
  | drainInput
  | getWindowInfo
  | cloneAndExecute
  deriving DecidableEq, Repr

def Code.number : Code → Nat
  | .hello => 1000
  | .createWindow => 1001
  | .backbufferPutPixel => 1002
  | .drawHorizontalLine => 1003
  | .drawChar => 1004
  | .drawText => 1005
  | .refreshWindow => 1006
  | .redrawWindow => 1007
  | .resizeWindow => 1008
  | .changeWindowPosition => 1009
  | .backbufferPutPixel2 => 2000
  | .disconnect => 2010
  | .refreshScreen => 2020
  | .refreshRectangle => 2021
  | .drawRectangle => 2022
  | .sendEvent => 2030
  | .getNextEvent => 2031
  | .grPlot0 => 2040
  | .grCubeZ => 2041
  | .grRectangle => 2042
  | .asyncCommand => 2222
  | .putClientMessage => 2223
  | .getClientMessage => 2224
  | .setText => 2240
  | .getText => 2241
  | .quit => 4080
  | .drainInput => 8080
  | .getWindowInfo => 9093
  | .cloneAndExecute => 9099

def Code.all : List Code :=
  [.hello, .createWindow, .backbufferPutPixel, .drawHorizontalLine, .drawChar, .drawText,
    .refreshWindow, .redrawWindow, .resizeWindow, .changeWindowPosition, .backbufferPutPixel2,
    .disconnect, .refreshScreen, .refreshRectangle, .drawRectangle, .sendEvent, .getNextEvent,
    .grPlot0, .grCubeZ, .grRectangle, .asyncCommand, .putClientMessage, .getClientMessage,
    .setText, .getText, .quit, .drainInput, .getWindowInfo, .cloneAndExecute]

/-- The case of a message code in the `switch` of `dsProcedure`. -/
def codeOf (msg : Int32) : Option Code :=
  Code.all.find? fun code => (code.number : Int) = msg.toInt

structure Rect where
  left : UInt64
  top : UInt64
  width : UInt64
  height : UInt64
  deriving DecidableEq, Repr

def WT_EDITBOX_SINGLE_LINE : Nat := 2
def WT_EDITBOX : Nat := WT_EDITBOX_SINGLE_LINE
def WT_EDITBOX_MULTIPLE_LINES : Nat := 7

/-- The fields of a `gws_window_d` that a response tells something of. A `windowText` of `none` is
the NULL pointer. -/
structure Window extends EventQueue.Window where
  used : Bool
  type : Nat
  absoluteX : UInt64
  absoluteY : UInt64
  width : UInt64
  height : UInt64
  rcClient : Rect
  textbufferSizeInBytes : Int
  windowText : Option (Nat → UInt8)

/-- The window table, with the contents and the event queues of the windows. -/
structure Windows where
  windowList : Nat → Option Window
  windowsCount : Int

/-- What the requests of all clients work on; `rest` stands for the back buffer, the focus and
whatever else the services change. -/
structure World (δ : Type) where
  windows : Windows
  isTimeToQuit : Bool
  rest : δ

/-- The arguments that `serviceCreateWindow` takes out of a request. -/
structure CreateArgs where
  status : UInt64
  state : UInt64
  x : UInt64
  y : UInt64
  w : UInt64
  h : UInt64
  color : UInt32
  type : UInt64
  pwid : Int32
  style : UInt64
  clientPid : Int32
  clientTid : Int32
  data : List UInt8
  deriving DecidableEq, Repr

def decodeCreateWindow (buffer : Memory) : CreateArgs where
  status := word buffer 2 &&& 0xFFFFFFFF
  state := word buffer 3 &&& 0xFFFFFFFF
  x := word buffer 4 &&& 0xFFFF
  y := word buffer 5 &&& 0xFFFF
  w := word buffer 6 &&& 0xFFFF
  h := word buffer 7 &&& 0xFFFF
  color := (word buffer 8 &&& 0x00FFFFFF).toUInt32
  type := word buffer 9 &&& 0xFFFF
  pwid := toInt (word buffer 10 &&& 0xFFFF)
  style := word buffer 11
  clientPid := toInt (word buffer 12 &&& 0xFFFF)
  clientTid := toInt (word buffer 13 &&& 0xFFFF)
  data := (List.range 255).map (fun i => buffer (8 * 14 + i)) ++ [0]

/-- The arguments that `serviceDrawText` takes out of a request. -/
structure TextArgs where
  windowId : Int32
  x : UInt64
  y : UInt64
  color : UInt32
  buf : List UInt8
  deriving DecidableEq, Repr

def decodeDrawText (buffer : Memory) : TextArgs where
  windowId := toInt (word buffer 4) &&& 0xFFFF
  x := word buffer 5 &&& 0xFFFF
  y := word buffer 6 &&& 0xFFFF
  color := (word buffer 7).toUInt32
  buf := (List.range 256).map (fun i => buffer (8 * 8 + i)) ++ [0]

variable {buffer buffer' : Memory}

theorem word_eq_of_request (h : ∀ i < REQUEST_SIZE, buffer i = buffer' i) {i : Nat} (hi : i < 46) :
    word buffer i = word buffer' i := by
  rw [REQUEST_SIZE] at h
  exact word_congr fun k _ hk => h k (by omega)

theorem decodeCreateWindow_congr (h : ∀ i < REQUEST_SIZE, buffer i = buffer' i) :
    decodeCreateWindow buffer = decodeCreateWindow buffer' := by
  have hdata : (List.range 255).map (fun i => buffer (8 * 14 + i)) =
      (List.range 255).map (fun i => buffer' (8 * 14 + i)) := by
    refine List.map_congr_left fun i hi => h _ ?_
    have hlt := List.mem_range.mp hi
    rw [REQUEST_SIZE]
    omega
  rw [decodeCreateWindow, decodeCreateWindow, hdata]
  simp only [word_eq_of_request h (show 2 < 46 by decide),
    word_eq_of_request h (show 3 < 46 by decide), word_eq_of_request h (show 4 < 46 by decide),
    word_eq_of_request h (show 5 < 46 by decide), word_eq_of_request h (show 6 < 46 by decide),
    word_eq_of_request h (show 7 < 46 by decide), word_eq_of_request h (show 8 < 46 by decide),
    word_eq_of_request h (show 9 < 46 by decide), word_eq_of_request h (show 10 < 46 by decide),
    word_eq_of_request h (show 11 < 46 by decide), word_eq_of_request h (show 12 < 46 by decide),
    word_eq_of_request h (show 13 < 46 by decide)]

theorem decodeDrawText_congr (h : ∀ i < REQUEST_SIZE, buffer i = buffer' i) :
    decodeDrawText buffer = decodeDrawText buffer' := by
  have hdata : (List.range 256).map (fun i => buffer (8 * 8 + i)) =
      (List.range 256).map (fun i => buffer' (8 * 8 + i)) := by
    refine List.map_congr_left fun i hi => h _ ?_
    have hlt := List.mem_range.mp hi
    rw [REQUEST_SIZE]
    omega
  rw [decodeDrawText, decodeDrawText, hdata]
  simp only [word_eq_of_request h (show 4 < 46 by decide),
    word_eq_of_request h (show 5 < 46 by decide), word_eq_of_request h (show 6 < 46 by decide),
    word_eq_of_request h (show 7 < 46 by decide)]

/-- How `serviceCreateWindow` ends: before it calls `CreateWindow`, in `CreateWindow` or
`RegisterWindow`, or with a window. -/
inductive Created where
  | refused
  | failed
  | window (wid : Int32)

/-- The workers behind the services: what they do to the world, and what the services learn from
them. `drawText` tells whether the text was drawn. -/
structure Workers (δ : Type) where
  /-- The descriptor of the server's own socket. -/
  savedServerFd : Int
  created : CreateArgs → Int → Windows → Created
  createWindow : CreateArgs → Int → World δ → World δ
  drawText : TextArgs → World δ → Bool × World δ
  perform : Code → List UInt8 → World δ → World δ

structure Server (δ : Type) where
  noReply : Bool
  buffer : Memory
  nextResponse : Memory
  world : World δ

variable {δ : Type} (workers : Workers δ)

/-- A window that the table has at a valid index, with the magic number of a window. -/
def windowAt (windows : Windows) (wid : Int32) : Option Window :=
  if wid.toInt < 0 ∨ (EventQueue.WINDOW_COUNT_MAX : Int) ≤ wid.toInt then none
  else
    match windows.windowList wid.toInt.toNat with
    | none => none
    | some w => if w.magic = EventQueue.WINDOW_MAGIC then some w else none

def usedWindowAt (windows : Windows) (wid : Int32) : Option Window :=
  match windowAt windows wid with
  | none => none
  | some w => if w.used = true then some w else none

def performed (code : Code) (s : Server δ) : Server δ :=
  { s with world := workers.perform code (bytes s.buffer REQUEST_SIZE) s.world }

def cleanBuffer (s : Server δ) : Server δ := { s with buffer := clean }

def respond (s : Server δ) (words : List (Nat × UInt64)) : Server δ :=
  { s with nextResponse := setWords s.nextResponse words }

def cleanResponse (s : Server δ) : Server δ := { s with nextResponse := clean }

def serviceCreateWindow (clientFd : Int) (s : Server δ) : Int × Server δ :=
  let args := decodeCreateWindow s.buffer
  let created := workers.created args clientFd s.world.windows
  let s := { s with world := workers.createWindow args clientFd s.world }
  match created with
  | .refused => (-1, s)
  | .failed => (-1, respond s [(1, 0)])
  | .window wid =>
      (0, respond (cleanResponse (cleanBuffer s))
        [(0, wid.toUInt32.toUInt64), (1, SERVER_PACKET_TYPE_REPLY), (2, 0), (3, 0)])

def serviceDrawText (s : Server δ) : Server δ :=
  let (drawn, world) := workers.drawText (decodeDrawText s.buffer) s.world
  let s := { s with world := world }
  if drawn = true then cleanBuffer s else s

def changeService (code : Code) (s : Server δ) : Server δ :=
  match usedWindowAt s.world.windows (toInt (word s.buffer 0)) with
  | none => s
  | some _ => cleanBuffer (performed workers code s)

def serviceResizeWindow (s : Server δ) : Server δ := changeService workers .resizeWindow s

def serviceChangeWindowPosition (s : Server δ) : Server δ :=
  changeService workers .changeWindowPosition s

/-- Services 2021 and 2022 compare the message code once more, all 64 bits of it. -/
def rectangleService (code : Code) (s : Server δ) : Server δ :=
  if word s.buffer 1 ≠ .ofNat code.number then s
  else respond (performed workers code s) [(0, 0), (1, SERVER_PACKET_TYPE_REPLY)]

def serviceRefreshRectangle (s : Server δ) : Server δ := rectangleService workers .refreshRectangle s

def serviceDrawRectangle (s : Server δ) : Server δ := rectangleService workers .drawRectangle s

def eventWords (event : EventQueue.Event) : List (Nat × UInt64) :=
  [(0, 0), (1, SERVER_PACKET_TYPE_EVENT), (2, 1234), (3, 5678), (4, event.wid), (5, event.msg),
    (6, event.long1), (7, event.long2), (8, event.long3), (9, event.long4)]

def takeEvent (world : World δ) (wid : Int32) (w : Window) : World δ :=
  { world with
    windows.windowList := Function.update world.windows.windowList wid.toInt.toNat
      (some { w with toWindow := EventQueue.takeEvent w.toWindow }) }

def serviceNextEvent (s : Server δ) : Server δ :=
  let wid := EventQueue.requestedWindow (word s.buffer 0)
  match windowAt s.world.windows wid with
  | none => s
  | some w =>
      { respond (cleanResponse s) (eventWords (w.events w.evHead)) with
        world := takeEvent s.world wid w }

/-- The requests of a `GWS_AsyncCommand` that end with a clean buffer. -/
def ASYNC_DONE : List UInt64 := [1, 3, 4, 6, 7, 8, 9, 10, 11, 12, 13, 14, 15, 22, 30, 44, 88, 89]

def serviceAsyncCommand (s : Server δ) : Server δ :=
  if word s.buffer 1 ≠ .ofNat Code.asyncCommand.number then s
  else if word s.buffer 2 ∈ ASYNC_DONE then cleanBuffer (performed workers .asyncCommand s)
  else performed workers .asyncCommand s

/-- The 64 characters of a text and the end of the string, from byte 64 of the response on. -/
def respondText (s : Server δ) (text : Nat → UInt8) : Server δ :=
  { s with nextResponse := blit (blit s.nextResponse 64 64 text) 128 1 fun _ => 0 }

def serviceGetText (s : Server δ) : Server δ :=
  let wid := toInt (word s.buffer 4) &&& 0xFFFF
  match windowAt s.world.windows wid with
  | none => s
  | some w =>
      let s := respond s
        [(0, wid.toUInt32.toUInt64), (1, SERVER_PACKET_TYPE_REPLY), (2, 1234), (3, 5678)]
      if w.type ≠ WT_EDITBOX ∧ w.type ≠ WT_EDITBOX_MULTIPLE_LINES then s
      else if w.textbufferSizeInBytes < 64 then s
      else
        match w.windowText with
        | none => s
        | some text => respondText s text

def infoWords (wid : Int32) (w : Window) : List (Nat × UInt64) :=
  [(0, wid.toUInt32.toUInt64), (1, SERVER_PACKET_TYPE_REPLY), (2, 1234), (3, 5678),
    (7, w.absoluteX), (8, w.absoluteY), (9, w.width), (10, w.height), (13, w.rcClient.left),
    (14, w.rcClient.top), (15, w.rcClient.width), (16, w.rcClient.height)]

def serviceGetWindowInfo (s : Server δ) : Server δ :=
  let wid := toInt (word s.buffer 0)
  if toInt (word s.buffer 1) ≠ Int32.ofNat Code.getWindowInfo.number then s
  else
    match usedWindowAt s.world.windows wid with
    | none => s
    | some w => respond (cleanResponse s) (infoWords wid w)

/-- `pid` is the answer of the kernel to `rtl_clone_and_execute`. -/
def serviceCloneAndExecute (pid : Int32) (s : Server δ) : Server δ :=
  respond (cleanResponse s) [(0, pid.toUInt32.toUInt64), (1, SERVER_PACKET_TYPE_REPLY)]

def quitService (s : Server δ) : Server δ :=
  if s.world.windows.windowsCount = 0 then { s with world := { s.world with isTimeToQuit := true } } else s

def answered (s : Server δ) : Server δ := { s with noReply := false }

def unanswered (s : Server δ) : Server δ := { s with noReply := true }

def serve (clientFd : Int) (pid : Int32) (s : Server δ) : Code → Int × Server δ
  | .hello => (0, answered (performed workers .hello s))
  | .createWindow =>
      let (rv, s) := serviceCreateWindow workers clientFd s
      (if rv < 0 then -1 else 0, answered s)
  | .backbufferPutPixel => (0, answered (performed workers .backbufferPutPixel s))
  | .drawHorizontalLine => (0, answered (performed workers .drawHorizontalLine s))
  | .drawChar => (0, unanswered (performed workers .drawChar s))
  | .drawText => (0, unanswered (serviceDrawText workers s))
  | .refreshWindow => (0, unanswered (performed workers .refreshWindow s))
  | .redrawWindow => (0, unanswered (performed workers .redrawWindow s))
  | .resizeWindow => (0, answered (serviceResizeWindow workers s))
  | .changeWindowPosition => (0, answered (serviceChangeWindowPosition workers s))
  | .backbufferPutPixel2 => (0, answered (performed workers .backbufferPutPixel2 s))
  | .disconnect => (0, s)
  | .refreshScreen => (0, performed workers .refreshScreen s)
  | .refreshRectangle => (0, answered (serviceRefreshRectangle workers s))
  | .drawRectangle => (0, answered (serviceDrawRectangle workers s))
  | .sendEvent => (0, s)
  | .getNextEvent => (0, answered (serviceNextEvent s))
  | .grPlot0 => (0, answered (performed workers .grPlot0 s))
  | .grCubeZ => (0, answered s)
  | .grRectangle => (0, answered s)
  | .asyncCommand => (0, unanswered (serviceAsyncCommand workers s))
  | .putClientMessage => (0, unanswered s)
  | .getClientMessage => (0, answered s)
  | .setText => (0, unanswered (performed workers .setText s))
  | .getText => (0, answered (serviceGetText s))
  | .quit => (0, quitService s)
  | .drainInput => (0, s)
  | .getWindowInfo => (0, answered (serviceGetWindowInfo s))
  | .cloneAndExecute => (0, answered (serviceCloneAndExecute pid s))

def dsProcedure (clientFd : Int) (pid msg : Int32) (s : Server δ) : Int × Server δ :=
  if clientFd < 0 then (-1, s)
  else if msg ≤ 0 then (-1, s)
  else
    match codeOf msg with
    | none => (-1, s)
    | some code => serve workers clientFd pid s code

end Gramado.Ds.Services
