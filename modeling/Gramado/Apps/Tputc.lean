import Gramado.Library.CheckedRead
import Gramado.Rtl.Strings

/-! How the terminal application writes characters into its client window and reads escape
sequences. -/

namespace Gramado.Apps.Tputc

open Library.CheckedRead hiding strlen
open Rtl.Strings

inductive Drawing where
  | char (left top : Nat) (c : UInt8)
  | clear
  deriving DecidableEq, Repr

/-- The client window, its font and its size in characters. -/
structure Window where
  id : Int
  charWidth : Nat
  charHeight : Nat
  widthInChars : Nat
  heightInChars : Nat
  left : Nat
  top : Nat

structure Screen where
  window : Window
  cursorX : Nat
  cursorY : Nat
  textSavedCol : Nat
  textSavedRow : Nat
  lines : Nat → Nat → UInt8
  drawn : List Drawing

structure Terminal where
  sequenceStatus : Nat
  esc : Nat
  csiBuffer : UInt8
  screen : Screen

section Writing

namespace Screen

def moveTo (s : Screen) (x y : Nat) : Screen := { s with cursorX := x, cursorY := y }

/-- The character is drawn, put into the line buffer, and the cursor goes on. -/
def putChar (s : Screen) (c : UInt8) : Screen :=
  let x := s.cursorX * s.window.charWidth
  let y := s.cursorY * s.window.charHeight
  { s with
    drawn := s.drawn ++ [.char (x % 65536) (y % 65536) c]
    lines := fun row col =>
      if row = s.cursorY ∧ col = s.cursorX then c else s.lines row col
    cursorX := if s.window.widthInChars ≤ s.cursorX + 1 then 0 else s.cursorX + 1
    cursorY := if s.window.widthInChars ≤ s.cursorX + 1 then s.cursorY + 1 else s.cursorY }

def carriageReturn (s : Screen) : Screen := s.moveTo 0 s.cursorY

def clearTerminalClientWindow (s : Screen) : Screen :=
  { s.moveTo s.window.left s.window.top with drawn := s.drawn ++ [.clear] }

def lineFeed (s : Screen) : Screen :=
  if s.window.heightInChars ≤ s.cursorY + 1 then
    (s.moveTo 0 (s.cursorY + 1)).clearTerminalClientWindow
  else s.moveTo 0 (s.cursorY + 1)

def saveCur (s : Screen) : Screen :=
  { s with textSavedCol := s.cursorX, textSavedRow := s.cursorY }

def restoreCur (s : Screen) : Screen := s.moveTo s.textSavedCol s.textSavedRow

/-- The cursor stands on one of the 80 characters of one of the 32 lines of `LINES`. -/
def InsideLines (s : Screen) : Prop := s.cursorY < 32 ∧ s.cursorX < 80

instance (s : Screen) : Decidable s.InsideLines := inferInstanceAs (Decidable (_ ∧ _))

end Screen

namespace Terminal

def setStatus (t : Terminal) (sequenceStatus : Nat) : Terminal :=
  { t with sequenceStatus := sequenceStatus }

def setEsc (t : Terminal) (esc : Nat) : Terminal := { t with esc := esc }

def setCsiBuffer (t : Terminal) (c : UInt8) : Terminal := { t with csiBuffer := c }

def setScreen (t : Terminal) (screen : Screen) : Terminal := { t with screen := screen }

end Terminal

def terminalWriteChar (fd window : Int) (c : UInt8) (t : Terminal) : Except Fault Terminal :=
  if fd < 0 then .ok t
  else if window < 0 then .ok t
  else if c = 0x0D then .ok (t.setScreen t.screen.carriageReturn)
  else if c = 0x0A then .ok (t.setScreen t.screen.lineFeed)
  else if t.screen.InsideLines then .ok (t.setScreen (t.screen.putChar c))
  else .error .outside

def writeBlanks (fd window : Int) : Nat → Terminal → Except Fault Terminal
  | 0, t => .ok t
  | ivalue + 1, t => do
      let t ← terminalWriteChar fd window 0x20 t
      writeBlanks fd window ivalue t

end Writing

section Reading

def ESC_START : Nat := 1
def ESC_CSI : Nat := 2
def ESC_STR : Nat := 4
def ESC_ALTCHARSET : Nat := 8
def ESC_STR_END : Nat := 16
def ESC_TEST : Nat := 32

def isControl (ascii : UInt8) : Bool := ascii ≤ 0x1F || ascii = 0x7F

def csiValue (t : Terminal) : Nat := (atoi [t.csiBuffer]).toNat

def putControl (fd window : Int) (ascii : UInt8) (t : Terminal) : Except Fault Terminal :=
  match ascii with
  | 0x09 | 0x08 | 0x0D | 0x0C | 0x0A => terminalWriteChar fd window ascii t
  | 0x1B => .ok ((t.setStatus 1).setEsc ESC_START)
  | _ => .ok t

def putCsi (fd window : Int) (ascii : UInt8) (t : Terminal) : Except Fault Terminal :=
  let s := t.screen
  match ascii with
  | 0x6D => .ok ((t.setStatus 0).setEsc 0)  -- m
  | 0x73 => .ok (t.setScreen s.saveCur)  -- s
  | 0x75 => .ok (t.setScreen s.restoreCur)  -- u
  | 0x41 => .ok (t.setScreen (s.moveTo s.cursorX (s.cursorY - csiValue t)))  -- A
  | 0x42 => .ok (t.setScreen (s.moveTo s.cursorX (min 24 (s.cursorY + csiValue t))))  -- B
  | 0x43 => .ok (t.setScreen (s.moveTo (min 79 (s.cursorX + csiValue t)) s.cursorY))  -- C
  | 0x44 =>  -- D
      if csiValue t ≤ s.cursorX then
        .ok (t.setScreen (s.moveTo (s.cursorX - csiValue t) s.cursorY))
      else .ok t
  | 0x4B =>  -- K
      if s.cursorX + csiValue t < 80 then writeBlanks fd window (csiValue t) t else .ok t
  | 0x3B => .ok t  -- the styles behind a semicolon are not set
  | _ => .ok (t.setCsiBuffer ascii)

/-- The line feed that `tputstring` writes, with the status before and behind the text. -/
def putLineFeed (fd : Int) (t : Terminal) : Except Fault Terminal := do
  let t ← putControl fd t.screen.window.id 0x0A (t.setStatus 0)
  .ok (t.setStatus 0)

def putEscape (fd window : Int) (ascii : UInt8) (t : Terminal) : Except Fault Terminal :=
  match ascii with
  | 0x5B => .ok (t.setEsc (t.esc ||| ESC_CSI))
  | 0x23 => .ok (t.setEsc (t.esc ||| ESC_TEST))
  | 0x50 | 0x5F | 0x5E | 0x5D | 0x6B => .ok (t.setEsc (t.esc ||| ESC_STR))
  | 0x28 => .ok (t.setEsc (t.esc ||| ESC_ALTCHARSET))
  | 0x29 | 0x2A | 0x2B => .ok ((t.setEsc 0).setStatus 0)
  | 0x41 | 0x44 => putLineFeed fd (t.setEsc 0)
  | 0x45 | 0x48 | 0x4D | 0x5A | 0x63 | 0x3D | 0x3E =>
      terminalWriteChar fd window 0x24 (t.setEsc 0)
  | _ => .ok t

def tputc (fd window : Int) (t : Terminal) (ascii : UInt8) : Except Fault Terminal :=
  if fd < 0 then .ok t
  else if window < 0 then .ok t
  else if t.sequenceStatus = 0 ∧ isControl ascii = false then
    terminalWriteChar fd window ascii t
  else if isControl ascii then putControl fd window ascii t
  else if t.esc &&& ESC_START ≠ 0 then
    if t.esc &&& ESC_CSI ≠ 0 then putCsi fd window ascii t
    else if t.esc &&& ESC_STR_END ≠ 0 then .ok t
    else if t.esc &&& ESC_ALTCHARSET ≠ 0 then .ok t
    else if t.esc &&& ESC_TEST ≠ 0 then .ok t
    else putEscape fd window ascii t
  else .ok t

def tputs (fd : Int) (s : Text) (t : Terminal) : Except Fault Terminal :=
  s.foldlM (fun t ascii => tputc fd t.screen.window.id t ascii) t

/-- The status of the escape sequences is reset in front of the string and behind it. -/
def tputstring (fd : Int) (s : Text) (t : Terminal) : Except Fault Terminal :=
  if strlen s = 0 then .ok t
  else do
    let t ← tputs fd (cString s) (t.setStatus 0)
    .ok (t.setStatus 0)

end Reading

variable {s : Text}

section Lemmas

variable {fd window : Int} {t : Terminal} {c : UInt8}

@[simp] theorem screen_setScreen (s : Screen) : (t.setScreen s).screen = s := rfl

@[simp] theorem status_setScreen (s : Screen) :
    (t.setScreen s).sequenceStatus = t.sequenceStatus := rfl

@[simp] theorem esc_setScreen (s : Screen) : (t.setScreen s).esc = t.esc := rfl

theorem terminalWriteChar_keeps : Ensures (terminalWriteChar fd window c t) fun r =>
      r.sequenceStatus = t.sequenceStatus ∧ r.esc = t.esc := by
  rw [terminalWriteChar]
  refine ensures_ite (fun _ => ensures_ok ⟨rfl, rfl⟩) fun _ => ?_
  refine ensures_ite (fun _ => ensures_ok ⟨rfl, rfl⟩) fun _ => ?_
  refine ensures_ite (fun _ => ensures_ok (by simp)) fun _ => ?_
  refine ensures_ite (fun _ => ensures_ok (by simp)) fun _ => ?_
  exact ensures_ite (fun _ => ensures_ok (by simp)) fun _ => ensures_error _

theorem writeBlanks_keeps (n : Nat) : Ensures (writeBlanks fd window n t) fun r =>
      r.sequenceStatus = t.sequenceStatus ∧ r.esc = t.esc := by
  induction n generalizing t with
  | zero => exact ensures_ok ⟨rfl, rfl⟩
  | succ n ih =>
      rw [writeBlanks]
      refine Ensures.bind terminalWriteChar_keeps ?_
      rintro u ⟨hstatus, hesc⟩
      rw [← hstatus, ← hesc]
      exact ih

theorem putCsi_keeps (hc : c ≠ 0x6D) : Ensures (putCsi fd window c t) fun r =>
      r.sequenceStatus = t.sequenceStatus ∧ r.esc = t.esc := by
  rw [putCsi.eq_def]
  dsimp only
  split
  · exact absurd rfl hc
  · exact ensures_ok (by simp)
  · exact ensures_ok (by simp)
  · exact ensures_ok (by simp)
  · exact ensures_ok (by simp)
  · exact ensures_ok (by simp)
  · exact ensures_ite (fun _ => ensures_ok (by simp)) fun _ => ensures_ok ⟨rfl, rfl⟩
  · exact ensures_ite (fun _ => writeBlanks_keeps _) fun _ => ensures_ok ⟨rfl, rfl⟩
  · exact ensures_ok ⟨rfl, rfl⟩
  · exact ensures_ok ⟨rfl, rfl⟩

def IsParameter (c : UInt8) : Prop := c = 0x3B ∨ 0x30 ≤ c ∧ c ≤ 0x39

theorem isControl_parameter (hc : IsParameter c) : isControl c = false := by
  rcases hc with rfl | ⟨hlow, hhigh⟩
  · rfl
  · rw [UInt8.le_iff_toNat_le] at hlow hhigh
    have hne : c ≠ 0x7F := by
      rintro rfl
      exact absurd hhigh (by decide)
    have hlt : ¬ c ≤ 0x1F := by
      rw [UInt8.le_iff_toNat_le]
      exact fun h => absurd (hlow.trans h) (by decide)
    simp [isControl, hne, hlt]

theorem putCsi_parameter (hc : IsParameter c) :
    ∃ b, putCsi fd window c t = .ok (t.setCsiBuffer b) := by
  rcases hc with rfl | ⟨hlow, hhigh⟩
  · exact ⟨t.csiBuffer, rfl⟩
  · refine ⟨c, ?_⟩
    rw [putCsi.eq_def]
    dsimp only
    split
    · exact absurd hhigh (by decide)
    · exact absurd hhigh (by decide)
    · exact absurd hhigh (by decide)
    · exact absurd hhigh (by decide)
    · exact absurd hhigh (by decide)
    · exact absurd hhigh (by decide)
    · exact absurd hhigh (by decide)
    · exact absurd hhigh (by decide)
    · exact absurd hhigh (by decide)
    · rfl

theorem terminalWriteChar_char (hfd : 0 ≤ fd) (hwindow : 0 ≤ window) (hc : isControl c = false) :
    terminalWriteChar fd window c t =
      if t.screen.InsideLines then .ok (t.setScreen (t.screen.putChar c))
      else .error .outside := by
  have hreturn : c ≠ 0x0D := by
    rintro rfl
    exact absurd hc (by decide)
  have hfeed : c ≠ 0x0A := by
    rintro rfl
    exact absurd hc (by decide)
  rw [terminalWriteChar, if_neg (by omega), if_neg (by omega), if_neg hreturn, if_neg hfeed]

theorem tputc_normal (hfd : 0 ≤ fd) (hwindow : 0 ≤ window) (hstatus : t.sequenceStatus = 0)
    (hc : isControl c = false) : tputc fd window t c = terminalWriteChar fd window c t := by
  rw [tputc, if_neg (by omega), if_neg (by omega), if_pos ⟨hstatus, hc⟩]

theorem tputc_control (hfd : 0 ≤ fd) (hwindow : 0 ≤ window) (hc : isControl c = true) :
    tputc fd window t c = putControl fd window c t := by
  rw [tputc, if_neg (by omega), if_neg (by omega), if_neg (by simp [hc]), if_pos hc]

theorem tputs_cons (s : Text) :
    tputs fd (c :: s) t = tputc fd t.screen.window.id t c >>= tputs fd s := by
  rw [tputs, List.foldlM_cons]
  rfl

theorem tputs_append (s s' : Text) : tputs fd (s ++ s') t = tputs fd s t >>= tputs fd s' := by
  rw [tputs, List.foldlM_append]
  rfl

@[simp] theorem tputs_nil : tputs fd [] t = .ok t := rfl

@[simp] theorem tputs_singleton : tputs fd [c] t = tputc fd t.screen.window.id t c := by
  rw [tputs_cons]
  generalize tputc fd t.screen.window.id t c = x
  cases x with
  | error e => rfl
  | ok u => rfl

def InCsi (t : Terminal) : Prop := t.sequenceStatus = 1 ∧ t.esc = ESC_START ||| ESC_CSI

theorem tputc_csi (hfd : 0 ≤ fd) (hwindow : 0 ≤ window) (ht : InCsi t)
    (hc : isControl c = false) : tputc fd window t c = putCsi fd window c t := by
  obtain ⟨hstatus, hesc⟩ := ht
  rw [tputc, if_neg (by omega), if_neg (by omega), if_neg (by simp [hstatus]),
    if_neg (by simp [hc]), hesc, if_pos (by decide), if_pos (by decide)]

theorem tputc_bracket (hfd : 0 ≤ fd) (hwindow : 0 ≤ window) (hstatus : t.sequenceStatus = 1)
    (hesc : t.esc = ESC_START) :
    tputc fd window t 0x5B = .ok (t.setEsc (ESC_START ||| ESC_CSI)) := by
  rw [tputc, if_neg (by omega), if_neg (by omega), if_neg (by simp [hstatus]),
    if_neg (by decide), hesc, if_pos (by decide), if_neg (by decide), if_neg (by decide),
    if_neg (by decide), if_neg (by decide), putEscape, hesc]

theorem tputs_introducer (hfd : 0 ≤ fd) (hwindow : 0 ≤ t.screen.window.id) :
    tputs fd [0x1B, 0x5B] t = .ok ((t.setStatus 1).setEsc (ESC_START ||| ESC_CSI)) := by
  rw [tputs_cons, tputc_control hfd hwindow rfl, putControl, ok_bind, tputs_singleton]
  exact tputc_bracket hfd hwindow rfl rfl

theorem tputs_parameters (hfd : 0 ≤ fd) (hs : ∀ c ∈ s, IsParameter c)
    (hwindow : 0 ≤ t.screen.window.id) (ht : InCsi t) :
    ∃ b, tputs fd s t = .ok (t.setCsiBuffer b) := by
  induction s generalizing t with
  | nil => exact ⟨t.csiBuffer, rfl⟩
  | cons c s ih =>
      have hc := hs c List.mem_cons_self
      have hput : ∃ b, putCsi fd t.screen.window.id c t = .ok (t.setCsiBuffer b) :=
        putCsi_parameter hc
      obtain ⟨b, hb⟩ := hput
      obtain ⟨b', hb'⟩ := ih (fun d hd => hs d (List.mem_cons_of_mem c hd))
        (t := t.setCsiBuffer b) hwindow ht
      refine ⟨b', ?_⟩
      rw [tputs_cons, tputc_csi hfd hwindow ht (isControl_parameter hc), hb, ok_bind, hb']
      rfl

theorem tputs_sequence (hfd : 0 ≤ fd) (hs : ∀ c ∈ s, IsParameter c)
    (hwindow : 0 ≤ t.screen.window.id) (hc : isControl c = false) :
    ∃ u, InCsi u ∧ u.screen = t.screen ∧
      tputs fd ([0x1B, 0x5B] ++ (s ++ [c])) t = putCsi fd t.screen.window.id c u := by
  obtain ⟨b, hb⟩ := tputs_parameters hfd hs
    (t := (t.setStatus 1).setEsc (ESC_START ||| ESC_CSI)) hwindow ⟨rfl, rfl⟩
  refine ⟨((t.setStatus 1).setEsc (ESC_START ||| ESC_CSI)).setCsiBuffer b, ⟨rfl, rfl⟩, rfl, ?_⟩
  rw [tputs_append, tputs_introducer hfd hwindow, ok_bind, tputs_append, hb, ok_bind,
    tputs_singleton]
  exact tputc_csi hfd hwindow ⟨rfl, rfl⟩ hc

end Lemmas

end Gramado.Apps.Tputc
