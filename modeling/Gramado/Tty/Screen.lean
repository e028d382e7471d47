import Gramado.Library.Log
import Mathlib.Data.Int.NatAbs

/-! The virtual consoles: the cursor, and what is drawn. -/

namespace Gramado.Tty.Screen

open Library.Log

def CONSOLETTYS_COUNT_MAX : Nat := 4

def toULong (n : Int) : Nat := (n % 2 ^ 64).toNat

def toInt (n : Nat) : Int :=
  if n % 2 ^ 32 < 2 ^ 31 then (n % 2 ^ 32 : Nat) else (n % 2 ^ 32 : Nat) - 2 ^ 32

/-- The part of `tty_d` that a console uses for its output. -/
structure Console where
  initialized : Bool
  echo : Bool
  fullscreen : Bool
  cursorX : Nat
  cursorY : Nat
  cursorLeft : Nat
  cursorTop : Nat
  cursorRight : Nat
  cursorBottom : Nat
  fgColor : Nat
  bgColor : Nat
  defaultFgColor : Nat
  defaultBgColor : Nat
  prevChar : UInt8
  deriving DecidableEq, Repr

inductive Drawing where
  | glyph (console x y : Nat) (ch : UInt8) (fgColor bgColor : Nat)
  | scroll (console bgColor : Nat)
  deriving DecidableEq, Repr

structure Display where
  consoles : Nat → Console
  fgConsole : Nat
  savedX : Int
  savedY : Int
  terminalMode : Bool
  verboseMode : Bool
  useGui : Bool

abbrev Painted := Logged String Drawing Display

def Display.setConsole (d : Display) (n : Nat) (c : Console) : Display :=
  { d with consoles := Function.update d.consoles n c }

@[simp] theorem Display.consoles_setConsole (d : Display) (n : Nat) (c : Console) :
    (d.setConsole n c).consoles n = c := by
  simp only [Display.setConsole, Function.update_self]

@[simp] theorem Display.setConsole_setConsole (d : Display) (n : Nat) (c c' : Console) :
    (d.setConsole n c).setConsole n c' = d.setConsole n c' := by
  simp only [Display.setConsole, Function.update_idem]

def Console.moveTo (c : Console) (x y : Nat) : Console := { c with cursorX := x, cursorY := y }

def Console.setPrevChar (c : Console) (ch : UInt8) : Console := { c with prevChar := ch }

def Console.lastLine (c : Console) : Nat := toULong (c.cursorBottom - 1)

/-- The console behind a scroll: the limits are stored again, with sixteen bits. -/
def Console.scrolled (c : Console) : Console :=
  { c with
    cursorLeft := c.cursorLeft % 2 ^ 16
    cursorTop := c.cursorTop % 2 ^ 16
    cursorRight := c.cursorRight % 2 ^ 16
    cursorBottom := c.cursorBottom % 2 ^ 16
    cursorX := 0
    cursorY := toULong ((c.cursorBottom % 2 ^ 16 : Nat) - 1) }

def consoleScrollRect (n : Nat) (d : Display) : Painted :=
  if d.useGui = false then .error "console_scroll_rect: no GUI"
  else if CONSOLETTYS_COUNT_MAX ≤ n then silent d
  else
    .ok ([.scroll n (d.consoles n).bgColor], d.setConsole n (d.consoles n).scrolled)

def scrollFullscreen (n : Nat) (d : Display) : Painted :=
  if (d.consoles n).fullscreen = true then consoleScrollRect n d else silent d

def consoleOutbyteImp (ch : UInt8) (n : Nat) (d : Display) : Painted :=
  if d.useGui = false then .error "__console_outbyte_imp: kernel in text mode"
  else
    let c := d.consoles n
    .ok ([.glyph n c.cursorX c.cursorY ch c.fgColor c.bgColor], d)

def lineFeedAtBottom (n : Nat) (d : Display) : Painted :=
  (scrollFullscreen n d).andThen fun d =>
    let c := d.consoles n
    silent (d.setConsole n ((c.moveTo c.cursorX c.lastLine).setPrevChar 0x0A))

/-- A new line; the cursor goes to the first column if `returns`. -/
def lineFeed (returns : Bool) (n : Nat) (d : Display) : Painted :=
  let c := d.consoles n
  if c.cursorBottom ≤ c.cursorY then lineFeedAtBottom n d
  else
    let x := if returns = true then c.cursorLeft else c.cursorX
    silent (d.setConsole n ((c.moveTo x (c.cursorY + 1)).setPrevChar 0x0A))

def Console.atLineEnd (c : Console) : Bool := c.cursorRight - 1 ≤ c.cursorX

def Console.wrapped (c : Console) : Console :=
  if c.atLineEnd = true then c.moveTo c.cursorLeft ((c.cursorY + 1) % 2 ^ 64) else c

/-- Behind the last line the console scrolls, and the cursor goes to the last line. -/
def scrollAtBottom (n : Nat) (d : Display) : Painted :=
  if (d.consoles n).cursorBottom ≤ (d.consoles n).cursorY then
    (scrollFullscreen n d).andThen fun d =>
      let c := d.consoles n
      silent (d.setConsole n (c.moveTo 0 c.lastLine))
  else silent d

/-- The part of `console_outbyte` behind the control characters. -/
def drawCharacter (ch : UInt8) (n : Nat) (d : Display) : Painted :=
  let c := d.consoles n
  if c.cursorRight ≤ c.cursorLeft then .error "console_outbyte: l >= r"
  else if c.cursorBottom ≤ c.cursorTop then .error "console_outbyte: t >= b"
  else
    let increment := !c.atLineEnd
    (scrollAtBottom n (d.setConsole n c.wrapped)).andThen fun d =>
      (if c.echo = true then consoleOutbyteImp ch n d else silent d).andThen fun d =>
        let c := (d.consoles n).setPrevChar ch
        let x := if increment = true then (c.cursorX + 1) % 2 ^ 64 else c.cursorX
        silent (d.setConsole n (c.moveTo x c.cursorY))

def consoleOutbyte (ch : UInt8) (n : Nat) (d : Display) : Painted :=
  if CONSOLETTYS_COUNT_MAX ≤ n then silent d
  else
    let c := d.consoles n
    if c.initialized = false then silent d
    -- Form feed.
    else if ch = 0x0C then silent (d.setConsole n (c.moveTo c.cursorLeft c.cursorTop))
    -- Line feed: the column is kept in a text editor only.
    else if ch = 0x0A then
      if c.prevChar = 0x0D then lineFeed true n d
      else lineFeed (d.terminalMode || d.verboseMode) n d
    -- Tabulator.
    else if ch = 0x09 then
      silent (d.setConsole n
        ((c.moveTo ((c.cursorX + 8) % 2 ^ 64) c.cursorY).setPrevChar ch))
    -- Carriage return.
    else if ch = 0x0D then
      silent (d.setConsole n ((c.moveTo c.cursorLeft c.cursorY).setPrevChar ch))
    -- A space is not drawn.
    else if ch = 0x20 then
      silent (d.setConsole n
        ((c.moveTo ((c.cursorX + 1) % 2 ^ 64) c.cursorY).setPrevChar ch))
    -- Backspace: it is drawn in the upper left corner.
    else if ch = 0x08 ∧ 0 < c.cursorX then
      silent (d.setConsole n ((c.moveTo (c.cursorX - 1) c.cursorY).setPrevChar ch))
    else if ch = 0x08 ∧ 0 < c.cursorY then
      silent (d.setConsole n
        ((c.moveTo (toULong (c.cursorRight - 1)) (c.cursorY - 1)).setPrevChar ch))
    else drawCharacter ch n d

def consoleEcho (ch : UInt8) (n : Nat) (d : Display) : Painted :=
  if CONSOLETTYS_COUNT_MAX ≤ n then silent d else consoleOutbyte ch n d

def Display.setTerminalMode (d : Display) (mode : Bool) : Display :=
  { d with terminalMode := mode }

def consolePutchar (ch : UInt8) (n : Nat) (d : Display) : Painted :=
  if CONSOLETTYS_COUNT_MAX ≤ n then silent d
  else
    (consoleOutbyte ch n (d.setTerminalMode true)).andThen fun d =>
      silent (d.setTerminalMode false)

def localGotoxy (newX newY : Int) (n : Nat) (d : Display) : Display :=
  let c := d.consoles n
  if CONSOLETTYS_COUNT_MAX ≤ n then d
  else if c.cursorRight < toULong newX then d
  else if c.cursorBottom < toULong newY then d
  else d.setConsole n (c.moveTo (toULong newX % 2 ^ 32) (toULong newY % 2 ^ 32))

def localSaveCur (n : Nat) (d : Display) : Display :=
  { d with savedX := toInt (d.consoles n).cursorX, savedY := toInt (d.consoles n).cursorY }

def localRestoreCur (n : Nat) (d : Display) : Display :=
  if CONSOLETTYS_COUNT_MAX ≤ n then d
  else d.setConsole n
    ((d.consoles n).moveTo (toULong d.savedX % 2 ^ 16) (toULong d.savedY % 2 ^ 16))

/-- The upper and the lower limit are stored again as values of type `int`. -/
def Console.setLimits (c : Console) (top bottom : Nat) : Console :=
  { c with cursorTop := top, cursorBottom := bottom }

def localInsertLine (n : Nat) (d : Display) : Painted :=
  if CONSOLETTYS_COUNT_MAX ≤ n then silent d
  else
    let c := d.consoles n
    let oldtop := toULong (toInt c.cursorTop)
    let oldbottom := toULong (toInt c.cursorBottom)
    (scrollFullscreen n (d.setConsole n (c.setLimits c.cursorY c.cursorBottom))).andThen fun d =>
      silent (d.setConsole n ((d.consoles n).setLimits oldtop oldbottom))

def localDeleteLine (n : Nat) (d : Display) : Display :=
  if CONSOLETTYS_COUNT_MAX ≤ n then d
  else
    let c := d.consoles n
    d.setConsole n
      (c.setLimits (toULong (toInt c.cursorTop)) (toULong (toInt c.cursorBottom)))

def eraseRange (mode : Nat) (c : Console) : Option (Nat × Nat) :=
  if mode = 0 then some (c.cursorX, c.cursorRight)
  else if mode = 1 then some (c.cursorLeft, (c.cursorX + 1) % 2 ^ 64)
  else if mode = 2 then some (c.cursorLeft, c.cursorRight)
  else none

def csiK (mode : Nat) (d : Display) : Painted :=
  let n := d.fgConsole
  let x := (d.consoles n).cursorX
  let y := (d.consoles n).cursorY
  match eraseRange mode (d.consoles n) with
  | none => silent d
  | some (start, stop) =>
      (each (fun column d =>
          consoleOutbyte 0x20 n (localGotoxy (toInt (start + column)) (toInt y) n d))
        (List.range (stop - start)) d).andThen fun d =>
          silent (localGotoxy (toInt x) (toInt y) n d)

def csiL (nr n : Nat) (d : Display) : Painted :=
  if CONSOLETTYS_COUNT_MAX ≤ n then silent d
  else each (fun _ => localInsertLine n) (List.range (if nr = 0 then 1 else nr)) d

def csiM (nr n : Nat) (d : Display) : Display :=
  if CONSOLETTYS_COUNT_MAX ≤ n then d
  else (List.range (if nr = 0 then 1 else nr)).foldl (fun d _ => localDeleteLine n d) d

def spaces (nr : Nat) (c : Console) : Nat :=
  let room := toULong (c.cursorRight - 1)
  if room < nr then room else if nr = 0 then 1 else nr

def csiP (nr n : Nat) (d : Display) : Painted :=
  if CONSOLETTYS_COUNT_MAX ≤ n then silent d
  else each (fun _ => consolePutchar 0x20 n) (List.range (spaces nr (d.consoles n))) d

def csiAt (nr n : Nat) (d : Display) : Painted := csiP nr n d

def consolePrintIndent (indent n : Nat) (d : Display) : Painted :=
  if CONSOLETTYS_COUNT_MAX ≤ n then silent d
  else each (fun _ => consolePutchar 0x20 n) (List.range indent) d

def consoleIoctl (request arg : Nat) (d : Display) : Painted :=
  let n := d.fgConsole
  let c := d.consoles n
  match request with
  | 998 => consoleScrollRect n d
  | 999 => consoleScrollRect n d
  | 1001 => silent (localGotoxy (toInt arg) (toInt c.cursorY) n d)
  | 1002 => silent (localGotoxy (toInt c.cursorX) (toInt arg) n d)
  | 1003 =>
      silent (if arg < CONSOLETTYS_COUNT_MAX then { d with fgConsole := arg } else d)
  | 1008 => silent (localGotoxy (toInt arg) 0 n d)
  | 1009 => silent (localGotoxy (toInt arg) (toInt c.lastLine) n d)
  | 1010 => if arg < 70 then consolePrintIndent arg n d else silent d
  | _ => silent d

def initialConsole (width height fg bg : Nat) : Console where
  initialized := true
  echo := true
  fullscreen := true
  cursorX := 0
  cursorY := 0
  cursorLeft := 0
  cursorTop := 0
  cursorRight := width
  cursorBottom := height
  fgColor := fg
  bgColor := bg
  defaultFgColor := fg
  defaultBgColor := bg
  prevChar := 0

def initialDisplay (width height fg bg : Nat) : Display where
  consoles := fun _ => initialConsole width height fg bg
  fgConsole := 0
  savedX := 0
  savedY := 0
  terminalMode := false
  verboseMode := false
  useGui := true

variable {c c' : Console} {d d' : Display} {p : Painted}

section Keeps

structure Console.Small (c : Console) : Prop where
  left : c.cursorLeft < 2 ^ 16
  top : c.cursorTop < 2 ^ 16
  right : c.cursorRight < 2 ^ 16
  bottom : c.cursorBottom < 2 ^ 16

structure Console.SameLimits (c c' : Console) : Prop where
  left : c'.cursorLeft = c.cursorLeft
  top : c'.cursorTop = c.cursorTop
  right : c'.cursorRight = c.cursorRight
  bottom : c'.cursorBottom = c.cursorBottom

structure Console.Keeps (c c' : Console) : Prop where
  initialized : c'.initialized = c.initialized
  echo : c'.echo = c.echo
  fullscreen : c'.fullscreen = c.fullscreen
  limits : c.Small → c.SameLimits c'

structure Display.Keeps (d d' : Display) : Prop where
  fgConsole : d'.fgConsole = d.fgConsole
  useGui : d'.useGui = d.useGui
  consoles : ∀ m, (d.consoles m).Keeps (d'.consoles m)

theorem Console.SameLimits.refl (c : Console) : c.SameLimits c := ⟨rfl, rfl, rfl, rfl⟩

theorem Console.SameLimits.small (h : c.SameLimits c') (hc : c.Small) : c'.Small := by
  refine ⟨?_, ?_, ?_, ?_⟩
  · rw [h.left]
    exact hc.left
  · rw [h.top]
    exact hc.top
  · rw [h.right]
    exact hc.right
  · rw [h.bottom]
    exact hc.bottom

theorem Console.Keeps.refl (c : Console) : c.Keeps c := ⟨rfl, rfl, rfl, fun _ => .refl c⟩

theorem Console.Keeps.trans {c'' : Console} (h : c.Keeps c') (h' : c'.Keeps c'') : c.Keeps c'' := by
  refine ⟨h'.initialized.trans h.initialized, h'.echo.trans h.echo,
    h'.fullscreen.trans h.fullscreen, ?_⟩
  intro hc
  have hl := h.limits hc
  have hl' := h'.limits (hl.small hc)
  exact ⟨hl'.left.trans hl.left, hl'.top.trans hl.top, hl'.right.trans hl.right,
    hl'.bottom.trans hl.bottom⟩

theorem Display.Keeps.refl (d : Display) : d.Keeps d := ⟨rfl, rfl, fun m => .refl (d.consoles m)⟩

theorem Display.Keeps.trans {d'' : Display} (h : d.Keeps d') (h' : d'.Keeps d'') : d.Keeps d'' :=
  ⟨h'.fgConsole.trans h.fgConsole, h'.useGui.trans h.useGui,
    fun m => (h.consoles m).trans (h'.consoles m)⟩

theorem Display.keeps_setConsole {n : Nat} (h : (d.consoles n).Keeps c) :
    d.Keeps (d.setConsole n c) := by
  refine ⟨rfl, rfl, ?_⟩
  intro m
  change (d.consoles m).Keeps (Function.update d.consoles n c m)
  by_cases hm : m = n
  · rw [hm, Function.update_self]
    exact h
  · rw [Function.update_of_ne hm]
    exact .refl _

theorem Console.keeps_moveTo (c : Console) (x y : Nat) : c.Keeps (c.moveTo x y) :=
  ⟨rfl, rfl, rfl, fun _ => ⟨rfl, rfl, rfl, rfl⟩⟩

theorem Console.keeps_setPrevChar (c : Console) (ch : UInt8) : c.Keeps (c.setPrevChar ch) :=
  ⟨rfl, rfl, rfl, fun _ => ⟨rfl, rfl, rfl, rfl⟩⟩

theorem Console.keeps_scrolled (c : Console) : c.Keeps c.scrolled :=
  ⟨rfl, rfl, rfl, fun hc => ⟨Nat.mod_eq_of_lt hc.left, Nat.mod_eq_of_lt hc.top,
    Nat.mod_eq_of_lt hc.right, Nat.mod_eq_of_lt hc.bottom⟩⟩

theorem Console.keeps_wrapped (c : Console) : c.Keeps c.wrapped := by
  rw [Console.wrapped]
  split
  · exact c.keeps_moveTo _ _
  · exact .refl c

def Kept (d : Display) (p : Painted) : Prop :=
  Meets p fun _ d' => d.Keeps d'

theorem kept_silent (h : d.Keeps d') : Kept d (silent d') := meets_silent h

theorem kept_self (d : Display) : Kept d (silent d) := kept_silent (.refl d)

theorem Kept.andThen {next : Display → Painted} (h : Kept d p) (hnext : ∀ d', Kept d' (next d')) :
    Kept d (p.andThen next) :=
  Meets.andThen h fun _ d' hd' => (hnext d').mono fun _ _ h' => hd'.trans h'

theorem kept_each {ι : Type} {visit : ι → Display → Painted}
    (hvisit : ∀ i d, Kept d (visit i d)) (is : List ι) (d : Display) :
    Kept d (each visit is d) :=
  each_invariant d.Keeps (fun i d' hd' => (hvisit i d').mono fun _ _ h' => hd'.trans h') is
    (.refl d)

theorem kept_ite {c : Prop} [Decidable c] {q : Painted} (hp : Kept d p) (hq : Kept d q) :
    Kept d (if c then p else q) := by
  split
  · exact hp
  · exact hq

theorem kept_error (d : Display) (e : String) : Kept d (.error e) := meets_error e

theorem keeps_move (d : Display) (n x y : Nat) :
    d.Keeps (d.setConsole n ((d.consoles n).moveTo x y)) :=
  Display.keeps_setConsole (Console.keeps_moveTo _ x y)

theorem keeps_moveChar (d : Display) (n x y : Nat) (ch : UInt8) :
    d.Keeps (d.setConsole n (((d.consoles n).moveTo x y).setPrevChar ch)) :=
  Display.keeps_setConsole
    ((Console.keeps_moveTo _ x y).trans (Console.keeps_setPrevChar _ ch))

theorem consoleScrollRect_kept (n : Nat) (d : Display) : Kept d (consoleScrollRect n d) := by
  refine kept_ite (kept_error d _) (kept_ite (kept_self d) ?_)
  exact meets_ok (Display.keeps_setConsole (Console.keeps_scrolled _))

theorem scrollFullscreen_kept (n : Nat) (d : Display) : Kept d (scrollFullscreen n d) :=
  kept_ite (consoleScrollRect_kept n d) (kept_self d)

theorem lineFeed_kept (returns : Bool) (n : Nat) (d : Display) : Kept d (lineFeed returns n d) := by
  refine kept_ite ?_ (kept_silent (keeps_moveChar d n _ _ _))
  exact (scrollFullscreen_kept n d).andThen fun d' => kept_silent (keeps_moveChar d' n _ _ _)

theorem scrollAtBottom_kept (n : Nat) (d : Display) : Kept d (scrollAtBottom n d) := by
  refine kept_ite ?_ (kept_self d)
  exact (scrollFullscreen_kept n d).andThen fun d' => kept_silent (keeps_move d' n _ _)

theorem consoleOutbyteImp_kept (ch : UInt8) (n : Nat) (d : Display) :
    Kept d (consoleOutbyteImp ch n d) :=
  kept_ite (kept_error d _) (meets_ok (.refl d))

theorem drawCharacter_kept (ch : UInt8) (n : Nat) (d : Display) :
    Kept d (drawCharacter ch n d) := by
  refine kept_ite (kept_error d _) (kept_ite (kept_error d _) ?_)
  have hwrap : d.Keeps (d.setConsole n (d.consoles n).wrapped) :=
    Display.keeps_setConsole (Console.keeps_wrapped _)
  refine Kept.andThen ((scrollAtBottom_kept n _).mono fun _ _ h => hwrap.trans h) ?_
  intro d'
  refine Kept.andThen (kept_ite (consoleOutbyteImp_kept ch n d') (kept_self d')) ?_
  intro d''
  exact kept_silent (Display.keeps_setConsole
    ((Console.keeps_setPrevChar _ ch).trans (Console.keeps_moveTo _ _ _)))

theorem consoleOutbyte_kept (ch : UInt8) (n : Nat) (d : Display) :
    Kept d (consoleOutbyte ch n d) := by
  refine kept_ite (kept_self d) (kept_ite (kept_self d) ?_)
  refine kept_ite (kept_silent (keeps_move d n _ _)) ?_
  refine kept_ite (kept_ite (lineFeed_kept _ n d) (lineFeed_kept _ n d)) ?_
  refine kept_ite (kept_silent (keeps_moveChar d n _ _ _)) ?_
  refine kept_ite (kept_silent (keeps_moveChar d n _ _ _)) ?_
  refine kept_ite (kept_silent (keeps_moveChar d n _ _ _)) ?_
  refine kept_ite (kept_silent (keeps_moveChar d n _ _ _)) ?_
  exact kept_ite (kept_silent (keeps_moveChar d n _ _ _)) (drawCharacter_kept ch n d)

theorem consoleEcho_kept (ch : UInt8) (n : Nat) (d : Display) : Kept d (consoleEcho ch n d) :=
  kept_ite (kept_self d) (consoleOutbyte_kept ch n d)

theorem keeps_setTerminalMode (d : Display) (mode : Bool) : d.Keeps (d.setTerminalMode mode) :=
  ⟨rfl, rfl, fun m => .refl (d.consoles m)⟩

theorem consolePutchar_kept (ch : UInt8) (n : Nat) (d : Display) :
    Kept d (consolePutchar ch n d) := by
  refine kept_ite (kept_self d) ?_
  have hmode := keeps_setTerminalMode d true
  refine Kept.andThen ((consoleOutbyte_kept ch n _).mono fun _ _ h => hmode.trans h) ?_
  exact fun d' => kept_silent (keeps_setTerminalMode d' false)

theorem localGotoxy_keeps (x y : Int) (n : Nat) (d : Display) : d.Keeps (localGotoxy x y n d) := by
  rw [localGotoxy]
  split
  · exact .refl d
  · split
    · exact .refl d
    · split
      · exact .refl d
      · exact keeps_move d n _ _

theorem localSaveCur_keeps (n : Nat) (d : Display) : d.Keeps (localSaveCur n d) :=
  ⟨rfl, rfl, fun m => .refl (d.consoles m)⟩

theorem localRestoreCur_keeps (n : Nat) (d : Display) : d.Keeps (localRestoreCur n d) := by
  rw [localRestoreCur]
  split
  · exact .refl d
  · exact keeps_move d n _ _

theorem toULong_toInt {m : Nat} (h : m < 2 ^ 31) : toULong (toInt m) = m := by
  rw [toInt, Nat.mod_eq_of_lt (by omega), if_pos h, toULong]
  omega

theorem consoleScrollRect_meets (n : Nat) (d : Display) : Meets (consoleScrollRect n d) fun _ d' =>
      d' = d ∨ d' = d.setConsole n (d.consoles n).scrolled := by
  rw [consoleScrollRect]
  split
  · exact meets_error _
  · split
    · exact meets_silent (.inl rfl)
    · exact meets_ok (.inr rfl)

theorem scrollFullscreen_meets (n : Nat) (d : Display) : Meets (scrollFullscreen n d) fun _ d' =>
      d' = d ∨ d' = d.setConsole n (d.consoles n).scrolled := by
  rw [scrollFullscreen]
  split
  · exact consoleScrollRect_meets n d
  · exact meets_silent (.inl rfl)

theorem localInsertLine_kept (n : Nat) (d : Display) : Kept d (localInsertLine n d) := by
  rw [localInsertLine]
  refine kept_ite (kept_self d) ?_
  refine Meets.andThen (scrollFullscreen_meets n _) ?_
  rintro _ d' (rfl | rfl)
  · apply meets_silent
    simp only [Display.consoles_setConsole, Display.setConsole_setConsole]
    apply Display.keeps_setConsole
    refine ⟨rfl, rfl, rfl, fun hc => ⟨rfl, ?_, rfl, ?_⟩⟩
    · exact toULong_toInt (by have := hc.top; omega)
    · exact toULong_toInt (by have := hc.bottom; omega)
  · apply meets_silent
    simp only [Display.consoles_setConsole, Display.setConsole_setConsole]
    apply Display.keeps_setConsole
    refine ⟨rfl, rfl, rfl, fun hc => ⟨Nat.mod_eq_of_lt hc.left, ?_, Nat.mod_eq_of_lt hc.right, ?_⟩⟩
    · exact toULong_toInt (by have := hc.top; omega)
    · exact toULong_toInt (by have := hc.bottom; omega)

theorem localDeleteLine_keeps (n : Nat) (d : Display) : d.Keeps (localDeleteLine n d) := by
  rw [localDeleteLine]
  split
  · exact .refl d
  · refine Display.keeps_setConsole ⟨rfl, rfl, rfl, fun hc => ⟨rfl, ?_, rfl, ?_⟩⟩
    · exact toULong_toInt (by have := hc.top; omega)
    · exact toULong_toInt (by have := hc.bottom; omega)

theorem csiK_kept (mode : Nat) (d : Display) : Kept d (csiK mode d) := by
  rw [csiK]
  generalize eraseRange mode (d.consoles d.fgConsole) = range
  cases range with
  | none => exact kept_self d
  | some range =>
      refine Kept.andThen (kept_each ?_ _ d) ?_
      · intro column d'
        have hmove := localGotoxy_keeps
        exact (consoleOutbyte_kept 0x20 _ _).mono fun _ _ h => (hmove _ _ _ d').trans h
      · exact fun d' => kept_silent (localGotoxy_keeps _ _ _ d')

theorem csiL_kept (nr n : Nat) (d : Display) : Kept d (csiL nr n d) :=
  kept_ite (kept_self d) (kept_each (fun _ => localInsertLine_kept n) _ d)

theorem csiM_keeps (nr n : Nat) (d : Display) : d.Keeps (csiM nr n d) := by
  rw [csiM]
  split
  · exact .refl d
  · generalize List.range _ = times
    induction times generalizing d with
    | nil => exact .refl d
    | cons _ times ih => exact (localDeleteLine_keeps n d).trans (ih _)

theorem csiP_kept (nr n : Nat) (d : Display) : Kept d (csiP nr n d) :=
  kept_ite (kept_self d) (kept_each (fun _ => consolePutchar_kept 0x20 n) _ d)

end Keeps

end Gramado.Tty.Screen
