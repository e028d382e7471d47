import Gramado.Tty.Screen

/-! The escape sequences of the virtual consoles. -/

namespace Gramado.Tty.Escape

open Library.Log Tty.Screen

def NPAR : Nat := 16

/-- `__EscapeSequenceStage`. -/
inductive Stage where
  | stage0
  | stage1
  | stage2
  | stage3
  | stage4
  deriving DecidableEq, Repr

/-- What the parser keeps from one byte to the next, for all the consoles. -/
structure Parser where
  stage : Stage
  par : Nat → Nat
  npar : Nat
  ques : Bool

structure ConsoleSystem where
  display : Display
  parser : Parser

abbrev Written := Logged String Drawing ConsoleSystem

def Parser.setStage (p : Parser) (stage : Stage) : Parser := { p with stage := stage }

def ConsoleSystem.setStage (s : ConsoleSystem) (stage : Stage) : ConsoleSystem :=
  { s with parser := s.parser.setStage stage }

def onDisplay (painted : Painted) (p : Parser) : Written :=
  painted.andThen fun d => silent ⟨d, p⟩

def putOutside (doEcho : Bool) (n : Nat) (ch : UInt8) (d : Display) : Painted :=
  if 32 ≤ ch ∧ ch ≠ 127 then
    if doEcho = true ∧ ch ≤ 127 then consoleEcho ch n d else silent d
  else if ch = 0x1B then silent d
  else if ch = 0x0A ∨ ch = 0x0D ∨ ch = 0x08 ∨ ch = 0x09 then consolePutchar ch n d
  else silent d

def stageOutside (ch : UInt8) : Stage := if ch = 0x1B then .stage1 else .stage0

def response : List UInt8 := [0x1B, 0x5B, 0x3F, 0x31, 0x3B, 0x32, 0x63]

/-- `console_write_string` with the response. It writes one byte at a time, and every write
begins in stage 0. -/
def respond (n : Nat) (d : Display) : Painted :=
  if CONSOLETTYS_COUNT_MAX ≤ n then silent d
  else each (fun ch d => putOutside (d.consoles n).echo n ch d) response d

/-- `k_atoi` of the one character that a parameter holds. -/
def kAtoi (ch : Nat) : Nat := if 0x30 ≤ ch ∧ ch ≤ 0x39 then ch - 0x30 else 0

def Parser.value (p : Parser) (i : Nat) : Nat := kAtoi (p.par i % 2 ^ 8)

inductive Command where
  | column
  | up
  | down
  | forward
  | backward
  | nextLine
  | previousLine
  | position
  | eraseDisplay
  | eraseLine
  | insertLine
  | deleteLine
  | deleteChars
  | insertChars
  | graphics
  | margins
  | saveCursor
  | restoreCursor
  deriving DecidableEq, Repr

def commandOf (ch : UInt8) : Option Command :=
  if ch = 0x47 ∨ ch = 0x60 then some .column
  else if ch = 0x41 ∨ ch = 0x66 then some .up
  else if ch = 0x42 ∨ ch = 0x65 then some .down
  else if ch = 0x43 ∨ ch = 0x61 then some .forward
  else if ch = 0x44 ∨ ch = 0x64 then some .backward
  else if ch = 0x45 then some .nextLine
  else if ch = 0x46 then some .previousLine
  else if ch = 0x48 then some .position
  else if ch = 0x4A then some .eraseDisplay
  else if ch = 0x4B then some .eraseLine
  else if ch = 0x4C then some .insertLine
  else if ch = 0x4D then some .deleteLine
  else if ch = 0x50 then some .deleteChars
  else if ch = 0x40 then some .insertChars
  else if ch = 0x6D then some .graphics
  else if ch = 0x72 then some .margins
  else if ch = 0x73 then some .saveCursor
  else if ch = 0x75 then some .restoreCursor
  else none

/-- The cursor goes to a column and a line that are computed with `unsigned long`. -/
def gotoxyFrom (x y : Int) (n : Nat) (d : Display) : Painted :=
  silent (localGotoxy (toInt (toULong x)) (toInt (toULong y)) n d)

def COLOR_BLACK : Nat := 0x000000
def COLOR_RED : Nat := 0xFF0000
def COLOR_GREEN : Nat := 0x00FF00
def COLOR_YELLOW : Nat := 0xFFFF00
def COLOR_BLUE : Nat := 0x0000FF
def COLOR_CYAN : Nat := 0x00FFFF
def COLOR_WHITE : Nat := 0xFFFFFF

def Console.setColors (c : Console) (fg bg : Nat) : Console :=
  { c with fgColor := fg, bgColor := bg }

def defaultColors (c : Console) : Console :=
  Console.setColors c c.defaultFgColor c.defaultBgColor

def setAttribute (p : Nat) (c : Console) : Console :=
  match p with
  | 0 => defaultColors c
  | 30 => Console.setColors c COLOR_BLACK c.bgColor
  | 31 => Console.setColors c COLOR_RED c.bgColor
  | 32 => Console.setColors c COLOR_GREEN c.bgColor
  | 33 => Console.setColors c COLOR_YELLOW c.bgColor
  | 34 => Console.setColors c COLOR_BLUE c.bgColor
  | 35 => Console.setColors c COLOR_RED c.bgColor
  | 36 => Console.setColors c COLOR_CYAN c.bgColor
  | 37 => Console.setColors c COLOR_WHITE c.bgColor
  | 40 => Console.setColors c c.fgColor COLOR_BLACK
  | 41 => Console.setColors c c.fgColor COLOR_RED
  | 42 => Console.setColors c c.fgColor COLOR_GREEN
  | 43 => Console.setColors c c.fgColor COLOR_YELLOW
  | 44 => Console.setColors c c.fgColor COLOR_BLUE
  | 45 => Console.setColors c c.fgColor COLOR_RED
  | 46 => Console.setColors c c.fgColor COLOR_CYAN
  | 47 => Console.setColors c c.fgColor COLOR_WHITE
  | _ => c

def csiAttributes (p : Parser) (c : Console) : Console :=
  if p.npar = 0 then defaultColors c
  else (List.range p.npar).foldl (fun c i => setAttribute (p.par i) c) c

def Parser.clearParameters (p : Parser) : Parser :=
  if p.npar = 0 then p else { p with par := fun _ => 0, npar := 0 }

/-- What a command does to the consoles. The attributes and the erased line are those of the
foreground console. -/
def perform (command : Command) (p : Parser) (n : Nat) (d : Display) : Painted :=
  let x : Int := (d.consoles n).cursorX
  let y : Int := (d.consoles n).cursorY
  match command with
  | .column => gotoxyFrom (p.value 0) y n d
  | .up => gotoxyFrom x (y - p.value 0) n d
  | .down => gotoxyFrom x (y + p.value 0) n d
  | .forward => gotoxyFrom (x + p.value 0) y n d
  | .backward => gotoxyFrom (x - p.value 0) y n d
  | .nextLine => gotoxyFrom 0 (y + p.value 0) n d
  | .previousLine => gotoxyFrom 0 (y - p.value 0) n d
  | .position => gotoxyFrom (p.value 0) (p.value 1) n d
  -- csi_J is empty.
  | .eraseDisplay => silent d
  | .eraseLine => csiK (p.value 0) d
  | .insertLine => csiL (p.value 0) n d
  | .deleteLine => silent (csiM (p.value 0) n d)
  | .deleteChars => csiP (p.value 0) n d
  | .insertChars => csiAt (p.value 0) n d
  | .graphics =>
      silent (d.setConsole d.fgConsole (csiAttributes p (d.consoles d.fgConsole)))
  -- The margins are not changed.
  | .margins => silent d
  | .saveCursor => silent (localSaveCur n d)
  | .restoreCursor => silent (localRestoreCur n d)

/-- The parser behind a command: only `csi_m` gives the characters back to stage 0. -/
def Parser.performed (p : Parser) (command : Command) : Parser :=
  match command with
  | .graphics => p.clearParameters.setStage .stage0
  | _ => p.setStage .stage4

def writeCommand (n : Nat) (ch : UInt8) (s : ConsoleSystem) : Written :=
  match commandOf ch with
  | none => silent (s.setStage .stage0)
  | some command =>
      onDisplay (perform command s.parser n s.display) (s.parser.performed command)

def Parser.nextParameter (p : Parser) : Parser := { p with npar := p.npar + 1 }

def Parser.setParameter (p : Parser) (ch : UInt8) : Parser :=
  { p with par := fun i => if i = p.npar then ch.toNat else p.par i }

def writeParameter (n : Nat) (ch : UInt8) (s : ConsoleSystem) : Written :=
  if ch = 0x3B ∧ s.parser.npar < NPAR - 1 then silent ⟨s.display, s.parser.nextParameter⟩
  else if 0x30 ≤ ch ∧ ch ≤ 0x39 then silent ⟨s.display, s.parser.setParameter ch⟩
  else writeCommand n ch s

def emptyParser (ques : Bool) : Parser := ⟨.stage3, fun _ => 0, 0, ques⟩

def writeFirstParameter (n : Nat) (ch : UInt8) (s : ConsoleSystem) : Written :=
  if ch = 0x3F then silent ⟨s.display, emptyParser true⟩
  else writeParameter n ch ⟨s.display, emptyParser false⟩

def writeEscaped (n : Nat) (ch : UInt8) (s : ConsoleSystem) : Written :=
  let d := s.display
  if ch = 0x5B then silent (s.setStage .stage2)
  else if ch = 0x45 then
    onDisplay (gotoxyFrom 0 ((d.consoles n).cursorY + 1) n d) (s.parser.setStage .stage0)
  -- The reverse line feed does nothing.
  else if ch = 0x4D then silent (s.setStage .stage0)
  else if ch = 0x44 then onDisplay (consolePutchar ch n d) (s.parser.setStage .stage0)
  else if ch = 0x5A then onDisplay (respond n d) (s.parser.setStage .stage0)
  else silent (s.setStage .stage0)

def writeByte (doEcho : Bool) (n : Nat) (ch : UInt8) (s : ConsoleSystem) : Written :=
  match s.parser.stage with
  | .stage0 =>
      onDisplay (putOutside doEcho n ch s.display) (s.parser.setStage (stageOutside ch))
  | .stage1 => writeEscaped n ch s
  | .stage2 => writeFirstParameter n ch s
  | .stage3 => writeParameter n ch s
  | .stage4 => writeCommand n ch s

/-- The console that is written to echoes if its terminal does; that is looked up once. -/
def writeBytes (n : Nat) (data : List UInt8) (s : ConsoleSystem) : Written :=
  each (writeByte (s.display.consoles n).echo n) data s

/-- The result of a call: a panic, or the value that it returns, what is drawn, and the
consoles behind it. -/
abbrev Returned := Except String (Int × List Drawing × ConsoleSystem)

def Written.returning (w : Written) (value : Int) : Returned :=
  match w with
  | .error e => .error e
  | .ok (drawn, s) => .ok (value, drawn, s)

def consoleWrite (n : Nat) (data : List UInt8) (s : ConsoleSystem) : Returned :=
  if CONSOLETTYS_COUNT_MAX ≤ n then .ok (-1, [], s)
  else if data = [] then .ok (-1, [], s)
  else Written.returning (writeBytes n data (s.setStage .stage0)) data.length

def initialSystem (width height fg bg : Nat) : ConsoleSystem :=
  ⟨initialDisplay width height fg bg, ⟨.stage0, fun _ => 0, 0, false⟩⟩

section Keeps

variable {n : Nat} {s : ConsoleSystem}

/-- A write leaves the limits and the flags of the consoles alone, unless it fails. -/
def KeptBehind (s : ConsoleSystem) (w : Written) : Prop :=
  Meets w fun _ t => s.display.Keeps t.display

theorem keptBehind_silent {t : ConsoleSystem} (h : t.display = s.display) :
    KeptBehind s (silent t) :=
  meets_silent (by rw [h]; exact .refl _)

theorem keptBehind_ite {c : Prop} [Decidable c] {w w' : Written} (hw : KeptBehind s w)
    (hw' : KeptBehind s w') : KeptBehind s (if c then w else w') := by
  split
  · exact hw
  · exact hw'

theorem onDisplay_kept {painted : Painted} (h : Kept s.display painted) (p : Parser) :
    KeptBehind s (onDisplay painted p) :=
  Meets.andThen h fun _ _ hd => meets_silent hd

theorem putOutside_kept (doEcho : Bool) (n : Nat) (ch : UInt8) (d : Display) :
    Kept d (putOutside doEcho n ch d) := by
  refine kept_ite (kept_ite (consoleEcho_kept ch n d) (kept_self d)) ?_
  exact kept_ite (kept_self d) (kept_ite (consolePutchar_kept ch n d) (kept_self d))

theorem respond_kept (n : Nat) (d : Display) : Kept d (respond n d) :=
  kept_ite (kept_self d) (kept_each (fun ch d => putOutside_kept _ n ch d) response d)

theorem gotoxyFrom_kept (x y : Int) (n : Nat) (d : Display) : Kept d (gotoxyFrom x y n d) :=
  kept_silent (localGotoxy_keeps _ _ n d)

theorem setAttribute_keeps (p : Nat) (c : Console) : c.Keeps (setAttribute p c) := by
  have hcolors : ∀ fg bg, c.Keeps (Console.setColors c fg bg) :=
    fun fg bg => ⟨rfl, rfl, rfl, fun _ => ⟨rfl, rfl, rfl, rfl⟩⟩
  unfold setAttribute
  split
  all_goals exact hcolors _ _

theorem csiAttributes_keeps (p : Parser) (c : Console) : c.Keeps (csiAttributes p c) := by
  rw [csiAttributes]
  split
  · exact setAttribute_keeps 0 c
  · generalize List.range p.npar = indices
    induction indices generalizing c with
    | nil => exact .refl c
    | cons i indices ih => exact (setAttribute_keeps (p.par i) c).trans (ih _)

theorem perform_kept (command : Command) (p : Parser) (n : Nat) (d : Display) :
    Kept d (perform command p n d) := by
  cases command with
  | column | up | down | forward | backward | nextLine | previousLine | position =>
      exact gotoxyFrom_kept _ _ n d
  | eraseDisplay | margins => exact kept_self d
  | eraseLine => exact csiK_kept _ d
  | insertLine => exact csiL_kept _ n d
  | deleteLine => exact kept_silent (csiM_keeps _ n d)
  | deleteChars | insertChars => exact csiP_kept _ n d
  | graphics => exact kept_silent (Display.keeps_setConsole (csiAttributes_keeps p _))
  | saveCursor => exact kept_silent (localSaveCur_keeps n d)
  | restoreCursor => exact kept_silent (localRestoreCur_keeps n d)

theorem writeCommand_kept (n : Nat) (ch : UInt8) (s : ConsoleSystem) :
    KeptBehind s (writeCommand n ch s) := by
  rw [writeCommand]
  cases commandOf ch with
  | none => exact keptBehind_silent rfl
  | some command => exact onDisplay_kept (perform_kept command s.parser n s.display) _

theorem writeParameter_kept (n : Nat) (ch : UInt8) (s : ConsoleSystem) :
    KeptBehind s (writeParameter n ch s) :=
  keptBehind_ite (keptBehind_silent rfl)
    (keptBehind_ite (keptBehind_silent rfl) (writeCommand_kept n ch s))

theorem writeByte_kept (doEcho : Bool) (n : Nat) (ch : UInt8) (s : ConsoleSystem) :
    KeptBehind s (writeByte doEcho n ch s) := by
  rw [writeByte]
  cases s.parser.stage with
  | stage0 => exact onDisplay_kept (putOutside_kept doEcho n ch s.display) _
  | stage1 =>
      refine keptBehind_ite (keptBehind_silent rfl) ?_
      refine keptBehind_ite (onDisplay_kept (gotoxyFrom_kept _ _ n s.display) _) ?_
      refine keptBehind_ite (keptBehind_silent rfl) ?_
      refine keptBehind_ite (onDisplay_kept (consolePutchar_kept ch n s.display) _) ?_
      exact keptBehind_ite (onDisplay_kept (respond_kept n s.display) _) (keptBehind_silent rfl)
  | stage2 =>
      exact keptBehind_ite (keptBehind_silent rfl) (writeParameter_kept n ch ⟨s.display, _⟩)
  | stage3 => exact writeParameter_kept n ch s
  | stage4 => exact writeCommand_kept n ch s

theorem writeBytes_kept (n : Nat) (data : List UInt8) (s : ConsoleSystem) :
    KeptBehind s (writeBytes n data s) :=
  each_invariant (fun t : ConsoleSystem => s.display.Keeps t.display)
    (fun ch t ht => (writeByte_kept (s.display.consoles n).echo n ch t).mono
      fun _ _ h => ht.trans h) data (.refl _)

end Keeps

end Gramado.Tty.Escape
