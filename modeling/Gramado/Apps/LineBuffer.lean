import Gramado.Apps.Tputc
import Gramado.Library.Run

/-! The table of lines of the terminal application, and where the cursor may go for the bytes that
are written. -/

namespace Gramado.Apps.LineBuffer

open Library.CheckedRead hiding strlen
open Library.Run Rtl.Strings Apps.Tputc

def inChars (pixels font old : Nat) : Nat :=
  if 0 < font ∧ font < pixels then pixels / font % 65536 else old

def updateClients (fd : Int) (w h : Nat) (s : Screen) : Screen :=
  if fd < 0 then s
  else if s.window.id < 0 then s
  else
    { s with window :=
      { s.window with
        widthInChars := inChars w s.window.charWidth s.window.widthInChars
        heightInChars := inChars h s.window.charHeight s.window.heightInChars } }

/-- A new size of the window, in pixels, may come between the bytes. -/
inductive Call where
  | tputstring (s : Text)
  | tputc (window : Int) (ascii : UInt8)
  | terminalWriteChar (window : Int) (c : UInt8)
  | updateClients (w h : Nat)

def perform (fd : Int) (t : Terminal) : Call → Except Fault Terminal
  | .tputstring s => tputstring fd s t
  | .tputc window ascii => tputc fd window t ascii
  | .terminalWriteChar window c => terminalWriteChar fd window c t
  | .updateClients w h => .ok (t.setScreen (updateClients fd w h t.screen))

def step (fd : Int) (t : Terminal) (call : Call) : Except Fault (Unit × Terminal) := do
  let t ← perform fd t call
  .ok ((), t)

/-- The terminal as its initialisation leaves it. The client area begins at `0` and `0`. -/
def start (window : Window) : Terminal :=
  ⟨0, 0, 0, ⟨{ window with left := 0, top := 0 }, 0, 0, 0, 0, fun _ _ => 32, []⟩⟩

def write (c : UInt8) (s : Screen) : Screen :=
  if c = 0x0D then s.carriageReturn
  else if c = 0x0A then s.lineFeed
  else s.putChar c

/-- The cursor is not taken beyond the last line or the last column of the table: a line feed
there clears the window, a character there does not end the line of the window, or is the last of
it. -/
def CharStays (c : UInt8) (s : Screen) : Prop :=
  if c = 0x0D then True
  else if c = 0x0A then s.window.heightInChars ≤ s.cursorY + 1 ∨ s.cursorY < 31
  else if s.window.widthInChars ≤ s.cursorX + 1 then s.cursorY < 31
  else s.cursorX < 79

def WritesStay : List UInt8 → Screen → Prop
  | [], _ => True
  | c :: cs, s => CharStays c s ∧ WritesStay cs (write c s)

/-- The characters that `tputc` hands to `terminal_write_char` for a byte. -/
def written (t : Terminal) (ascii : UInt8) : List UInt8 :=
  if t.sequenceStatus = 0 ∧ isControl ascii = false then [ascii]
  else if isControl ascii then if ascii ∈ [0x09, 0x08, 0x0D, 0x0C, 0x0A] then [ascii] else []
  else if t.esc &&& ESC_START ≠ 0 then
    if t.esc &&& ESC_CSI ≠ 0 then
      if ascii = 0x4B ∧ t.screen.cursorX + csiValue t < 80 then List.replicate (csiValue t) 0x20
      else []
    else if t.esc &&& ESC_STR_END ≠ 0 then []
    else if t.esc &&& ESC_ALTCHARSET ≠ 0 then []
    else if t.esc &&& ESC_TEST ≠ 0 then []
    else if ascii = 0x41 ∨ ascii = 0x44 then [0x0A]
    else if ascii ∈ [0x45, 0x48, 0x4D, 0x5A, 0x63, 0x3D, 0x3E] then [0x24]
    else []
  else []

def ByteStays (fd window : Int) (t : Terminal) (ascii : UInt8) : Prop :=
  0 ≤ fd → 0 ≤ window → WritesStay (written t ascii) t.screen

def TextStays (fd : Int) : Text → Terminal → Prop
  | [], _ => True
  | ascii :: s, t =>
      ByteStays fd t.screen.window.id t ascii ∧
        match tputc fd t.screen.window.id t ascii with
        | .error _ => True
        | .ok t => TextStays fd s t

/-- What the bytes of a call write does not take the cursor out of the table. -/
def Stays (fd : Int) (t : Terminal) : Call → Prop
  | .tputstring s => TextStays fd (cString s) (t.setStatus 0)
  | .tputc window ascii => ByteStays fd window t ascii
  | .terminalWriteChar window c => 0 ≤ fd → 0 ≤ window → CharStays c t.screen
  | .updateClients _ _ => True

instance (c : UInt8) (s : Screen) : Decidable (CharStays c s) :=
  inferInstanceAs (Decidable (ite _ _ _))

instance decidableWritesStay : ∀ cs s, Decidable (WritesStay cs s)
  | [], _ => inferInstanceAs (Decidable True)
  | c :: cs, s =>
      have : Decidable (WritesStay cs (write c s)) := decidableWritesStay cs (write c s)
      inferInstanceAs (Decidable (CharStays c s ∧ _))

instance (fd window : Int) (t : Terminal) (ascii : UInt8) :
    Decidable (ByteStays fd window t ascii) :=
  inferInstanceAs (Decidable (_ → _ → _))

/-- The cursor, the saved cursor and the corner of the client area lie in the table. -/
structure Within (s : Screen) : Prop where
  cursor : s.InsideLines
  row : s.textSavedRow < 32
  col : s.textSavedCol < 80
  top : s.window.top < 32
  left : s.window.left < 80

theorem within_start (window : Window) : Within (start window).screen := by
  refine ⟨⟨?_, ?_⟩, ?_, ?_, ?_, ?_⟩ <;> simp [start]

variable {s : Screen} {c ascii : UInt8}

theorem within_moveTo (hs : Within s) {x y : Nat} (hx : x < 80) (hy : y < 32) :
    Within (s.moveTo x y) :=
  ⟨⟨hy, hx⟩, hs.row, hs.col, hs.top, hs.left⟩

theorem within_write (hs : Within s) (hc : CharStays c s) : Within (write c s) := by
  obtain ⟨hy, hx⟩ := hs.cursor
  unfold CharStays at hc
  unfold write
  split_ifs at hc ⊢ with hreturn hfeed hwrap
  · exact within_moveTo hs (by decide) hy
  · unfold Screen.lineFeed
    split_ifs with hclear
    · exact ⟨⟨hs.top, hs.left⟩, hs.row, hs.col, hs.top, hs.left⟩
    · have hrow : s.cursorY < 31 := hc.resolve_left hclear
      exact within_moveTo hs (by decide) (by omega)
  · refine ⟨?_, hs.row, hs.col, hs.top, hs.left⟩
    simp only [Screen.InsideLines, Screen.putChar, if_pos hwrap]
    omega
  · refine ⟨?_, hs.row, hs.col, hs.top, hs.left⟩
    simp only [Screen.InsideLines, Screen.putChar, if_neg hwrap]
    omega

section Functions

variable {fd window : Int} {t : Terminal}

theorem terminalWriteChar_eq (hfd : 0 ≤ fd) (hwindow : 0 ≤ window) (ht : t.screen.InsideLines)
    (c : UInt8) : terminalWriteChar fd window c t = .ok (t.setScreen (write c t.screen)) := by
  rw [terminalWriteChar, if_neg (by omega), if_neg (by omega), write]
  split_ifs <;> rfl

theorem terminalWriteChar_within (ht : Within t.screen)
    (hc : 0 ≤ fd → 0 ≤ window → CharStays c t.screen) :
    Returns (terminalWriteChar fd window c t) fun r => Within r.screen := by
  by_cases hfd : fd < 0
  · simpa [terminalWriteChar, hfd] using ht
  by_cases hwindow : window < 0
  · simpa [terminalWriteChar, hfd, hwindow] using ht
  rw [terminalWriteChar_eq (by omega) (by omega) ht.cursor, returns_ok]
  exact within_write ht (hc (by omega) (by omega))

theorem writeBlanks_within (hfd : 0 ≤ fd) (hwindow : 0 ≤ window) (n : Nat)
    (ht : Within t.screen) (hn : WritesStay (List.replicate n 0x20) t.screen) :
    Returns (writeBlanks fd window n t) fun r => Within r.screen := by
  induction n generalizing t with
  | zero => exact (returns_ok t).mpr ht
  | succ n ih =>
      rw [List.replicate_succ, WritesStay] at hn
      rw [writeBlanks, terminalWriteChar_eq hfd hwindow ht.cursor, ok_bind]
      apply ih
      · exact within_write ht hn.1
      · exact hn.2

theorem putControl_within (ht : Within t.screen)
    (h : ascii ∈ [0x09, 0x08, 0x0D, 0x0C, 0x0A] → 0 ≤ fd → 0 ≤ window → CharStays ascii t.screen) :
    Returns (putControl fd window ascii t) fun r => Within r.screen := by
  rw [putControl.eq_def]
  split
  · exact terminalWriteChar_within ht (h (by decide))
  · exact terminalWriteChar_within ht (h (by decide))
  · exact terminalWriteChar_within ht (h (by decide))
  · exact terminalWriteChar_within ht (h (by decide))
  · exact terminalWriteChar_within ht (h (by decide))
  · exact (returns_ok _).mpr ht
  · exact (returns_ok _).mpr ht

theorem putCsi_within (hfd : 0 ≤ fd) (hwindow : 0 ≤ window)
    (ht : Within t.screen)
    (h : ascii = 0x4B → t.screen.cursorX + csiValue t < 80 →
      WritesStay (List.replicate (csiValue t) 0x20) t.screen) :
    Returns (putCsi fd window ascii t) fun r => Within r.screen := by
  obtain ⟨hy, hx⟩ := ht.cursor
  rw [putCsi.eq_def]
  dsimp only
  split
  · exact (returns_ok _).mpr ht
  · exact (returns_ok _).mpr ⟨⟨hy, hx⟩, hy, hx, ht.top, ht.left⟩
  · exact (returns_ok _).mpr (within_moveTo ht ht.col ht.row)
  · exact (returns_ok _).mpr (within_moveTo ht hx (by omega))
  · exact (returns_ok _).mpr (within_moveTo ht hx (by omega))
  · exact (returns_ok _).mpr (within_moveTo ht (by omega) hy)
  · split_ifs
    · exact (returns_ok _).mpr (within_moveTo ht (by omega) hy)
    · exact (returns_ok _).mpr ht
  · split_ifs with hshort
    · exact writeBlanks_within hfd hwindow _ ht (h rfl hshort)
    · exact (returns_ok _).mpr ht
  · exact (returns_ok _).mpr ht
  · exact (returns_ok _).mpr ht

theorem putLineFeed_within (ht : Within t.screen) (h : CharStays 0x0A t.screen) :
    Returns (putLineFeed fd t) fun r => Within r.screen := by
  rw [putLineFeed, returns_bind]
  have hcontrol : Returns (putControl fd t.screen.window.id 0x0A (t.setStatus 0))
      fun r => Within r.screen := putControl_within ht fun _ _ _ => h
  apply hcontrol.mono
  intro r hr
  exact (returns_ok _).mpr hr

theorem putEscape_within (ht : Within t.screen)
    (hfeed : ascii = 0x41 ∨ ascii = 0x44 → CharStays 0x0A t.screen)
    (hmark : ascii ∈ [0x45, 0x48, 0x4D, 0x5A, 0x63, 0x3D, 0x3E] → CharStays 0x24 t.screen) :
    Returns (putEscape fd window ascii t) fun r => Within r.screen := by
  have hwrite (hc : CharStays 0x24 t.screen) :
      Returns (terminalWriteChar fd window 0x24 (t.setEsc 0)) fun r => Within r.screen :=
    terminalWriteChar_within ht fun _ _ => hc
  have hfed (hc : CharStays 0x0A t.screen) :
      Returns (putLineFeed fd (t.setEsc 0)) fun r => Within r.screen :=
    putLineFeed_within ht hc
  rw [putEscape.eq_def]
  split
  all_goals first
    | exact (returns_ok _).mpr ht
    | exact hfed (hfeed (by decide))
    | exact hwrite (hmark (by decide))

theorem tputc_within (ht : Within t.screen) (h : ByteStays fd window t ascii) :
    Returns (tputc fd window t ascii) fun r => Within r.screen := by
  by_cases hfd : fd < 0
  · simpa [tputc, hfd] using ht
  by_cases hwindow : window < 0
  · simpa [tputc, hfd, hwindow] using ht
  have hstay := h (by omega) (by omega)
  unfold written at hstay
  rw [tputc, if_neg hfd, if_neg hwindow]
  split_ifs at hstay ⊢ with hnormal hcontrol hlist hstart hcsi herase hend haltcharset htest hfeed
    hmark
  · exact terminalWriteChar_within ht fun _ _ => hstay.1
  · exact putControl_within ht fun _ _ _ => hstay.1
  · exact putControl_within ht fun hmem => absurd hmem hlist
  · exact putCsi_within (by omega) (by omega) ht fun _ _ => hstay
  · exact putCsi_within (by omega) (by omega) ht fun hc hshort => absurd ⟨hc, hshort⟩ herase
  · exact (returns_ok _).mpr ht
  · exact (returns_ok _).mpr ht
  · exact (returns_ok _).mpr ht
  · refine putEscape_within ht (fun _ => hstay.1) fun hmem => ?_
    rcases hfeed with rfl | rfl
    · exact absurd hmem (by decide)
    · exact absurd hmem (by decide)
  · exact putEscape_within ht (fun hc => absurd hc hfeed) fun _ => hstay.1
  · exact putEscape_within ht (fun hc => absurd hc hfeed) fun hmem => absurd hmem hmark
  · exact (returns_ok _).mpr ht

theorem tputs_within {s : Text} (ht : Within t.screen) (h : TextStays fd s t) :
    Returns (tputs fd s t) fun r => Within r.screen := by
  induction s generalizing t with
  | nil => exact (returns_ok t).mpr ht
  | cons ascii s ih =>
      obtain ⟨r, hr, hwithin⟩ := tputc_within ht h.1
      have hrest := h.2
      rw [hr] at hrest
      rw [tputs_cons, hr, ok_bind]
      exact ih hwithin hrest

theorem tputstring_within {s : Text} (ht : Within t.screen)
    (h : TextStays fd (cString s) (t.setStatus 0)) :
    Returns (tputstring fd s t) fun r => Within r.screen := by
  rw [tputstring]
  split_ifs
  · exact (returns_ok _).mpr ht
  · rw [returns_bind]
    have htext : Returns (tputs fd (cString s) (t.setStatus 0)) fun r => Within r.screen :=
      tputs_within ht h
    apply htext.mono
    intro r hr
    exact (returns_ok _).mpr hr

theorem within_updateClients (w h : Nat) (hs : Within s) : Within (updateClients fd w h s) := by
  unfold updateClients
  split_ifs
  · exact hs
  · exact hs
  · exact ⟨hs.cursor, hs.row, hs.col, hs.top, hs.left⟩

theorem perform_within {call : Call} (ht : Within t.screen) (h : Stays fd t call) :
    Returns (perform fd t call) fun r => Within r.screen := by
  cases call with
  | tputstring s => exact tputstring_within ht h
  | tputc window ascii => exact tputc_within ht h
  | terminalWriteChar window c => exact terminalWriteChar_within ht h
  | updateClients width height =>
      exact (returns_ok _).mpr (within_updateClients width height ht)

end Functions

def Inside (fd : Int) (window : Window) (calls : List Call) : Prop :=
  Returns (run (step fd) (start window) calls) fun _ => True

theorem run_inside (fd : Int) (window : Window) (calls : List Call)
    (h : Guarded (step fd) (Stays fd) (start window) calls) : Inside fd window calls := by
  have hstep (t : Terminal) (call : Call) (ht : Within t.screen) (hcall : Stays fd t call) :
      ∃ u r, step fd t call = .ok (u, r) ∧ Within r.screen := by
    obtain ⟨r, hr, hwithin⟩ := perform_within ht hcall
    refine ⟨(), r, ?_, hwithin⟩
    rw [step, hr, ok_bind]
  obtain ⟨outs, t, hrun, _⟩ := run_total (fun t => Within t.screen) hstep (within_start window) h
  exact ⟨(outs, t), hrun, trivial⟩

def standardWindow : Window := ⟨3, 8, 8, 80, 25, 0, 0⟩

theorem run_inside_standard :
    Inside 4 standardWindow [.tputc 3 0x68, .terminalWriteChar 3 0x0A, .tputc 3 0x21] := by
  apply run_inside
  refine ⟨?_, ?_, ?_, trivial⟩
  · exact (by decide : ByteStays 4 3 (start standardWindow) 0x68)
  · intro _ _
    decide
  · intro _ _
    decide

def highWindow : Window := ⟨3, 8, 8, 80, 65535, 0, 0⟩

theorem lineFeeds_outside {t : Terminal} (n : Nat) (hheight : t.screen.window.heightInChars = 65535)
    (hy : t.screen.cursorY + n = 32) :
    ¬ Returns (run (step 4) t (List.replicate n (.terminalWriteChar 3 0x0A) ++
      [.terminalWriteChar 3 0x61])) fun _ => True := by
  rintro ⟨⟨outs, u⟩, hrun, _⟩
  induction n generalizing t outs with
  | zero =>
      obtain ⟨_, r, _, hstep, _, _⟩ := run_cons_ok hrun
      have hout : ¬ t.screen.InsideLines := by
        rintro ⟨hlt, _⟩
        omega
      have hfault : terminalWriteChar 4 3 0x61 t = .error .outside := by
        rw [terminalWriteChar, if_neg (by decide), if_neg (by decide), if_neg (by decide),
          if_neg (by decide), if_neg hout]
      rw [step, perform, hfault] at hstep
      cases hstep
  | succ n ih =>
      rw [List.replicate_succ, List.cons_append] at hrun
      obtain ⟨_, r, _, hstep, hrest, _⟩ := run_cons_ok hrun
      have hfeed : step 4 t (.terminalWriteChar 3 0x0A) =
          .ok ((), t.setScreen (t.screen.moveTo 0 (t.screen.cursorY + 1))) := by
        have hfree : ¬ t.screen.window.heightInChars ≤ t.screen.cursorY + 1 := by omega
        rw [step, perform, terminalWriteChar, if_neg (by decide), if_neg (by decide),
          if_neg (by decide), if_pos rfl, Screen.lineFeed, if_neg hfree, ok_bind]
      rw [hfeed] at hstep
      obtain ⟨_, rfl⟩ := Prod.mk.inj (Except.ok.inj hstep)
      have hnext : t.screen.cursorY + 1 + n = 32 := by omega
      exact @ih (t.setScreen (t.screen.moveTo 0 (t.screen.cursorY + 1))) hheight hnext _ hrest

/-- As many line feeds as the table has lines, and a character. -/
theorem high_window_outside :
    ¬ Inside 4 highWindow (List.replicate 32 (.terminalWriteChar 3 0x0A) ++
      [.terminalWriteChar 3 0x61]) :=
  lineFeeds_outside 32 rfl rfl

end Gramado.Apps.LineBuffer
