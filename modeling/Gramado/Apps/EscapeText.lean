import Gramado.Apps.Tputc
import Gramado.Tty.Vt100

/-! Texts with escape sequences, and how the terminal application reads them. -/

namespace Gramado.Apps.EscapeText

open Library.CheckedRead hiding strlen
open Library.Run Rtl.Strings Apps.Tputc
open Tty.Vt100 (Digits parameterBytes number digitByte_bounds)

inductive Final where
  | A
  | B
  | C
  | D
  | K
  | s
  | u
  deriving DecidableEq, Repr

inductive Item where
  | char (c : UInt8) (printable : 32 ≤ c ∧ c ≤ 126)
  | carriageReturn
  | lineFeed
  | sequence (n : Digits) (final : Final)
  | graphics (params : List Digits)

section Bytes

def Final.byte : Final → UInt8
  | .A => 0x41
  | .B => 0x42
  | .C => 0x43
  | .D => 0x44
  | .K => 0x4B
  | .s => 0x73
  | .u => 0x75

def Item.bytes : Item → Text
  | .char c _ => [c]
  | .carriageReturn => [0x0D]
  | .lineFeed => [0x0A]
  | .sequence n final => [0x1B, 0x5B] ++ (parameterBytes [n] ++ [final.byte])
  | .graphics params => [0x1B, 0x5B] ++ (parameterBytes params ++ [0x6D])

def Item.IsSequence : Item → Prop
  | .sequence _ _ => True
  | .graphics _ => True
  | _ => False

def textBytes (text : List Item) : Text := text.flatMap Item.bytes

end Bytes

section Meaning

def eraseBlanks : Nat → Screen → Screen
  | 0, s => s
  | n + 1, s => eraseBlanks n (s.putChar 0x20)

/-- What a sequence with a number does. The cursor stays inside 80 columns and 25 rows. -/
def Final.apply (final : Final) (n : Nat) (s : Screen) : Screen :=
  match final with
  | .A => s.moveTo s.cursorX (s.cursorY - n)
  | .B => s.moveTo s.cursorX (min 24 (s.cursorY + n))
  | .C => s.moveTo (min 79 (s.cursorX + n)) s.cursorY
  | .D => s.moveTo (s.cursorX - n) s.cursorY
  | .K => if s.cursorX + n < 80 then eraseBlanks n s else s
  | .s => s.saveCur
  | .u => s.restoreCur

def Item.apply (item : Item) (s : Screen) : Screen :=
  match item with
  | .char c _ => s.putChar c
  | .carriageReturn => s.carriageReturn
  | .lineFeed => s.lineFeed
  | .sequence n final => final.apply (number n) s
  | .graphics _ => s

def readItem (s : Screen) (item : Item) : Except Fault (Unit × Screen) := .ok ((), item.apply s)

def shown (text : List Item) (s : Screen) : Screen := text.foldl (fun s item => item.apply s) s

end Meaning

/-- The screen is what the text makes of it, and no sequence goes on behind its last byte. -/
structure ReadsText (fd : Int) (text : List Item) (t : Terminal) : Prop where
  screen : Returns (tputstring fd (textBytes text) t) fun r => r.screen = shown text t.screen
  ended : ∀ pre item, pre ++ [item] <+: text → item.IsSequence →
    Returns (tputs fd (textBytes (pre ++ [item])) (t.setStatus 0)) fun r => r.sequenceStatus = 0

/-- A character is written inside the line buffer, and a sequence ends with an `m`. -/
def Readable (s : Screen) : Item → Prop
  | .char _ _ => s.InsideLines
  | .sequence _ _ => False
  | _ => True

instance (s : Screen) : (item : Item) → Decidable (Readable s item)
  | .char _ _ => inferInstanceAs (Decidable s.InsideLines)
  | .sequence _ _ => inferInstanceAs (Decidable False)
  | .carriageReturn => inferInstanceAs (Decidable True)
  | .lineFeed => inferInstanceAs (Decidable True)
  | .graphics _ => inferInstanceAs (Decidable True)

variable {c : UInt8} {item : Item} {t : Terminal} {text : List Item}

section Bytes

theorem isControl_printable (hc : 32 ≤ c ∧ c ≤ 126) : isControl c = false := by
  rw [UInt8.le_iff_toNat_le, UInt8.le_iff_toNat_le] at hc
  have hne : c ≠ 0x7F := by
    rintro rfl
    exact absurd hc.2 (by decide)
  have hlt : ¬ c ≤ 0x1F := by
    rw [UInt8.le_iff_toNat_le]
    exact fun h => absurd (hc.1.trans h) (by decide)
  simp [isControl, hne, hlt]

theorem isControl_byte (final : Final) : isControl final.byte = false := by
  cases final
  all_goals rfl

theorem byte_ne (final : Final) : final.byte ≠ 0x6D := by
  cases final
  all_goals decide

theorem mem_parameterBytes (params : List Digits) : ∀ c ∈ parameterBytes params, IsParameter c := by
  have hdigits : ∀ digits : Digits, ∀ c ∈ digits.map Tty.Vt100.digitByte, IsParameter c := by
    intro digits c hc
    obtain ⟨digit, _, rfl⟩ := List.mem_map.mp hc
    exact .inr (digitByte_bounds digit)
  induction params with
  | nil => exact fun c hc => absurd hc List.not_mem_nil
  | cons digits rest ih =>
      cases rest with
      | nil => exact hdigits digits
      | cons next rest =>
          intro c hc
          rw [parameterBytes] at hc
          rcases List.mem_append.mp hc with hc | hc
          · exact hdigits digits c hc
          · rcases List.mem_cons.mp hc with rfl | hc
            · exact .inl rfl
            · exact ih c hc

theorem parameter_ne_zero (hc : IsParameter c) : c ≠ 0 := by
  rintro rfl
  rcases hc with h | h
  · exact absurd h (by decide)
  · exact absurd h (by decide)

theorem bytes_ne_zero (item : Item) : ∀ c ∈ item.bytes, c ≠ 0 := by
  have hsequence : ∀ (params : List Digits) (last : UInt8), last ≠ 0 →
      ∀ c ∈ [0x1B, 0x5B] ++ (parameterBytes params ++ [last]), c ≠ 0 := by
    intro params last hlast c hc
    rw [List.mem_append, List.mem_append, List.mem_singleton] at hc
    rcases hc with hc | hc | rfl
    · rcases List.mem_pair.mp hc with rfl | rfl
      · decide
      · decide
    · exact parameter_ne_zero (mem_parameterBytes params c hc)
    · exact hlast
  cases item with
  | char d printable =>
      intro c hc
      rw [List.mem_singleton.mp hc]
      rintro rfl
      exact absurd printable.1 (by decide)
  | carriageReturn => simp [Item.bytes]
  | lineFeed => simp [Item.bytes]
  | sequence n final => exact hsequence [n] final.byte (by cases final <;> decide)
  | graphics params => exact hsequence params 0x6D (by decide)

theorem cString_textBytes (text : List Item) : cString (textBytes text) = textBytes text := by
  apply cString_of_free
  intro c hc
  obtain ⟨item, _, hc⟩ := List.mem_flatMap.mp hc
  exact bytes_ne_zero item c hc

theorem bytes_ne_nil (item : Item) : item.bytes ≠ [] := by
  cases item with
  | char c printable => exact List.cons_ne_nil _ _
  | carriageReturn => exact List.cons_ne_nil _ _
  | lineFeed => exact List.cons_ne_nil _ _
  | sequence n final => exact List.cons_ne_nil _ _
  | graphics params => exact List.cons_ne_nil _ _

end Bytes

section Items

variable {fd : Int} {t : Terminal}

theorem window_apply (item : Item) (s : Screen) (h : Readable s item) :
    (item.apply s).window = s.window := by
  cases item with
  | char c printable => rfl
  | carriageReturn => rfl
  | lineFeed =>
      rw [Item.apply, Screen.lineFeed]
      split
      · rfl
      · rfl
  | sequence n final => exact absurd h id
  | graphics params => rfl

theorem returns_readable (hfd : 0 ≤ fd) (hwindow : 0 ≤ t.screen.window.id)
    (hstatus : t.sequenceStatus = 0) (hitem : Readable t.screen item) :
    Returns (tputs fd item.bytes t) fun r =>
      r.screen = item.apply t.screen ∧ r.sequenceStatus = 0 := by
  cases item with
  | char c printable =>
      have hc := isControl_printable printable
      have hinside : t.screen.InsideLines := hitem
      rw [Item.bytes, tputs_singleton, tputc_normal hfd hwindow hstatus hc,
        terminalWriteChar_char hfd hwindow hc, if_pos hinside, returns_ok]
      exact ⟨rfl, hstatus⟩
  | carriageReturn =>
      rw [Item.bytes, tputs_singleton, tputc_control hfd hwindow rfl, putControl,
        terminalWriteChar, if_neg (by omega), if_neg (by omega), if_pos rfl, returns_ok]
      exact ⟨rfl, hstatus⟩
  | lineFeed =>
      rw [Item.bytes, tputs_singleton, tputc_control hfd hwindow rfl, putControl,
        terminalWriteChar, if_neg (by omega), if_neg (by omega), if_neg (by decide), if_pos rfl,
        returns_ok]
      exact ⟨rfl, hstatus⟩
  | sequence n final => exact absurd hitem id
  | graphics params =>
      obtain ⟨u, _, hscreen, heq⟩ :=
        tputs_sequence hfd (mem_parameterBytes params) hwindow (c := 0x6D) rfl
      rw [Item.bytes, heq, putCsi, returns_ok]
      exact ⟨hscreen, rfl⟩

theorem readable_of_returns (hfd : 0 ≤ fd) (hwindow : 0 ≤ t.screen.window.id)
    (hstatus : t.sequenceStatus = 0)
    (h : Returns (tputs fd item.bytes t) fun r => item.IsSequence → r.sequenceStatus = 0) :
    Readable t.screen item := by
  cases item with
  | char c printable =>
      have hc := isControl_printable printable
      rw [Item.bytes, tputs_singleton, tputc_normal hfd hwindow hstatus hc,
        terminalWriteChar_char hfd hwindow hc, returns_ite, returns_error] at h
      exact not_not.mp h.2
  | carriageReturn => trivial
  | lineFeed => trivial
  | sequence n final =>
      obtain ⟨u, hcsi, _, heq⟩ :=
        tputs_sequence hfd (mem_parameterBytes [n]) hwindow (isControl_byte final)
      rw [Item.bytes, heq] at h
      obtain ⟨r, hr, hend⟩ := h
      obtain ⟨hkeeps, _⟩ := putCsi_keeps (byte_ne final) r hr
      rw [hend trivial, hcsi.1] at hkeeps
      exact absurd hkeeps (by decide)
  | graphics params => trivial

end Items

section Texts

variable {fd : Int}

/-- What `ReadsText` says of the bytes behind the reset of the status. -/
def ReadsFrom (fd : Int) (text : List Item) (t : Terminal) : Prop :=
  (Returns (tputs fd (textBytes text) t) fun r => r.screen = shown text t.screen) ∧
    ∀ pre item, pre ++ [item] <+: text → item.IsSequence →
      Returns (tputs fd (textBytes (pre ++ [item])) t) fun r => r.sequenceStatus = 0

theorem textBytes_cons (item : Item) (text : List Item) :
    textBytes (item :: text) = item.bytes ++ textBytes text :=
  List.flatMap_cons

theorem readsText_iff_readsFrom (text : List Item) (t : Terminal) :
    ReadsText fd text t ↔ ReadsFrom fd text (t.setStatus 0) := by
  have hscreen : (Returns (tputstring fd (textBytes text) t) fun r =>
      r.screen = shown text t.screen) ↔
      Returns (tputs fd (textBytes text) (t.setStatus 0)) fun r =>
        r.screen = shown text t.screen := by
    rw [tputstring]
    by_cases htext : text = []
    · subst htext
      simp [textBytes, strlen, cString, shown, Terminal.setStatus]
    · have hne : strlen (textBytes text) ≠ 0 := by
        rw [strlen, cString_textBytes, List.length_eq_zero_iff.ne]
        obtain ⟨item, rest, rfl⟩ := List.exists_cons_of_ne_nil htext
        rw [textBytes_cons]
        exact fun h => bytes_ne_nil item (List.append_eq_nil_iff.mp h).1
      rw [if_neg hne, cString_textBytes, returns_bind]
      simp [Terminal.setStatus]
  constructor
  · intro h
    exact ⟨hscreen.mp h.screen, h.ended⟩
  · intro h
    exact ⟨hscreen.mpr h.1, h.2⟩

theorem readsFrom_nil (t : Terminal) : ReadsFrom fd [] t := by
  refine ⟨returns_ok _ |>.mpr rfl, ?_⟩
  intro pre item hpre
  simp at hpre

theorem readsFrom_cons {u : Terminal} (hitem : tputs fd item.bytes t = .ok u)
    (hscreen : u.screen = item.apply t.screen) (hstatus : u.sequenceStatus = 0) :
    ReadsFrom fd (item :: text) t ↔ ReadsFrom fd text u := by
  have hbytes : ∀ rest, tputs fd (textBytes (item :: rest)) t = tputs fd (textBytes rest) u := by
    intro rest
    rw [textBytes_cons, tputs_append, hitem, ok_bind]
  have hshown : shown (item :: text) t.screen = shown text u.screen := by
    rw [hscreen]
    rfl
  rw [ReadsFrom, ReadsFrom, hbytes, hshown]
  apply and_congr_right
  intro _
  constructor
  · intro h pre last hpre hlast
    rw [← hbytes]
    exact h (item :: pre) last (List.cons_prefix_cons.mpr ⟨rfl, hpre⟩) hlast
  · intro h pre last hpre hlast
    cases pre with
    | nil =>
        obtain ⟨rfl, _⟩ := List.cons_prefix_cons.mp hpre
        rw [List.nil_append, hbytes]
        exact returns_ok u |>.mpr hstatus
    | cons first pre =>
        obtain ⟨rfl, hrest⟩ := List.cons_prefix_cons.mp hpre
        rw [List.cons_append, hbytes]
        exact h pre last hrest hlast

theorem returns_of_readsFrom (h : ReadsFrom fd (item :: text) t) :
    Returns (tputs fd item.bytes t) fun r => item.IsSequence → r.sequenceStatus = 0 := by
  obtain ⟨hscreen, hended⟩ := h
  rw [textBytes_cons, tputs_append, returns_bind] at hscreen
  obtain ⟨u, hu, _⟩ := hscreen
  refine ⟨u, hu, fun hsequence => ?_⟩
  obtain ⟨r, hr, hstatus⟩ := hended [] item (by simp) hsequence
  rw [List.nil_append, textBytes_cons, textBytes, List.flatMap_nil, List.append_nil, hu] at hr
  cases hr
  exact hstatus

theorem readsFrom_iff (hfd : 0 ≤ fd) (text : List Item) (hwindow : 0 ≤ t.screen.window.id)
    (hstatus : t.sequenceStatus = 0) :
    ReadsFrom fd text t ↔ Guarded readItem Readable t.screen text := by
  induction text generalizing t with
  | nil => exact iff_of_true (readsFrom_nil t) trivial
  | cons item text ih =>
      have hnext : Readable t.screen item → (ReadsFrom fd (item :: text) t ↔
            Guarded readItem Readable (item.apply t.screen) text) := by
        intro hitem
        obtain ⟨u, hu, hscreen, hstatus'⟩ := returns_readable hfd hwindow hstatus hitem
        rw [readsFrom_cons hu hscreen hstatus', ← hscreen]
        refine ih ?_ hstatus'
        rw [hscreen, window_apply item t.screen hitem]
        exact hwindow
      constructor
      · intro h
        have hitem := readable_of_returns hfd hwindow hstatus (returns_of_readsFrom h)
        exact ⟨hitem, (hnext hitem).mp h⟩
      · rintro ⟨hitem, hrest⟩
        exact (hnext hitem).mpr hrest

/-- A text is read as it should be when each of its characters is written inside the line buffer
and each of its sequences ends with an `m`. -/
theorem readsText_iff (hfd : 0 ≤ fd) (text : List Item) {t : Terminal}
    (hwindow : 0 ≤ t.screen.window.id) :
    ReadsText fd text t ↔ Guarded readItem Readable t.screen text := by
  rw [readsText_iff_readsFrom]
  exact readsFrom_iff hfd text hwindow rfl

end Texts

section Examples

def freshTerminal : Terminal where
  sequenceStatus := 0
  esc := 0
  csiBuffer := 0
  screen :=
    { window :=
        { id := 3, charWidth := 8, charHeight := 8, widthInChars := 80, heightInChars := 25,
          left := 0, top := 0 }
      cursorX := 0
      cursorY := 0
      textSavedCol := 0
      textSavedRow := 0
      lines := fun _ _ => 0x20
      drawn := [] }

theorem readsText_iff_colors :
    ReadsText 1 [.char 0x68 (by decide), .graphics [[3, 0], [4, 6]], .lineFeed] freshTerminal :=
  (readsText_iff (by decide) _ (by decide)).mpr (by decide)

/-- The character behind the movement is not drawn, and of a number the last digit counts. -/
theorem escape_unread :
    ¬ ReadsText 1 [.sequence [4] .A, .char 0x58 (by decide)] freshTerminal ∧
      (Returns (tputstring 1 (bytes "\x1b[4AX") freshTerminal) fun r => r.screen.drawn = []) ∧
      Returns (tputstring 1 (bytes "\x1b[12Bm") freshTerminal) fun r => r.screen.cursorY = 2 := by
  refine ⟨?_, ⟨_, rfl, rfl⟩, ⟨_, rfl, rfl⟩⟩
  rw [readsText_iff_readsFrom, readsFrom_iff (by decide) _ (by decide) rfl]
  decide

end Examples

end Gramado.Apps.EscapeText
