import Gramado.Tty.Escape

/-! The cells of the screen on which characters are drawn. -/

namespace Gramado.Tty.Cells

open Library.Log Tty.Screen Tty.Escape

inductive Event where
  | outbyte (ch : UInt8)
  | putchar (ch : UInt8)
  | ioctl (request arg : Nat)
  | command (command : Command) (parser : Parser)

def step (n : Nat) (e : Event) (d : Display) : Painted :=
  match e with
  | .outbyte ch => consoleOutbyte ch n d
  | .putchar ch => consolePutchar ch n d
  | .ioctl request arg => consoleIoctl request arg d
  | .command command parser => perform command parser n d

def Event.char? : Event → Option UInt8
  | .outbyte ch => some ch
  | .putchar ch => some ch
  | _ => none

structure Fit (c : Console) : Prop where
  initialized : c.initialized = true
  small : c.Small
  width : c.cursorLeft + 1 < c.cursorRight
  height : c.cursorTop + 1 < c.cursorBottom

def cell? (n : Nat) : Drawing → Option (Nat × Nat)
  | .glyph m x y _ _ _ => if m = n then some (x, y) else none
  | .scroll _ _ => none

def cells (n : Nat) (drawn : List Drawing) : List (Nat × Nat) := drawn.filterMap (cell? n)

def isScroll (n : Nat) : Drawing → Bool
  | .glyph _ _ _ _ _ _ => false
  | .scroll m _ => m = n

def Scrolls (n : Nat) (drawn : List Drawing) : Prop := drawn.any (isScroll n) = true

def InLimits (c : Console) (cell : Nat × Nat) : Prop :=
  c.cursorLeft ≤ cell.1 ∧ cell.1 < c.cursorRight ∧ c.cursorTop ≤ cell.2 ∧
    cell.2 < c.cursorBottom

def Printable (e : Event) : Prop :=
  match e.char? with
  | some ch => 32 ≤ ch ∧ ch ≠ 127
  | none => False

def Inked (e : Event) : Prop :=
  match e.char? with
  | some ch => 32 < ch ∧ ch ≠ 127
  | none => False

/-- The characters are drawn inside the limits, and two neighbours are drawn on different cells,
unless the console scrolls in between. -/
def DrawnRight (n : Nat) (e : Event) (rest : List Event) (d : Display) : Prop :=
  (Meets (step n e d) fun drawn _ => ∀ cell ∈ cells n drawn, InLimits (d.consoles n) cell) ∧
    ∀ e' ∈ rest.head?, Printable e → Printable e' →
      Meets (step n e d) fun drawn d' =>
        Meets (step n e' d') fun drawn' _ =>
          ∀ cell, cell ∈ cells n drawn → cell ∈ cells n drawn' → Scrolls n drawn'

def Steers (ch : UInt8) (c : Console) : Prop :=
  ch = 0x0C ∨ ch = 0x0A ∨ ch = 0x09 ∨ ch = 0x0D ∨ ch = 0x20 ∨
    ch = 0x08 ∧ (0 < c.cursorX ∨ 0 < c.cursorY)

def DrawsGlyph (n : Nat) (ch : UInt8) (d : Display) : Prop :=
  d.useGui = true ∧ (d.consoles n).echo = true ∧ ¬ Steers ch (d.consoles n)

/-- The cursor, which goes to the next line at the end of a line, is inside the limits; behind
the last line the first column is the column 0. -/
def CellFits (c : Console) : Prop :=
  if c.cursorBottom ≤ c.wrapped.cursorY then c.cursorLeft = 0
  else c.cursorLeft ≤ c.wrapped.cursorX ∧ c.cursorTop ≤ c.wrapped.cursorY

/-- At the end of a line the cursor does not go on behind the character. On a console of two
columns that does not scroll, it comes back to the last line. -/
def Overprints (c : Console) : Prop :=
  c.atLineEnd = true ∨
    c.fullscreen = false ∧ c.cursorRight = 2 ∧ c.cursorBottom ≤ c.cursorY + 1

def DrawnSafely (n : Nat) (e : Event) (rest : List Event) (d : Display) : Prop :=
  match e.char? with
  | none => True
  | some ch =>
      DrawsGlyph n ch d →
        CellFits (d.consoles n) ∧
          ∀ e' ∈ rest.head?, Printable e → Inked e' → ¬ Overprints (d.consoles n)

section Decidable

instance (n : Nat) (drawn : List Drawing) : Decidable (Scrolls n drawn) :=
  inferInstanceAs (Decidable (_ = _))

instance (c : Console) (cell : Nat × Nat) : Decidable (InLimits c cell) :=
  inferInstanceAs (Decidable (_ ∧ _))

instance (ch : UInt8) (c : Console) : Decidable (Steers ch c) :=
  inferInstanceAs (Decidable (_ ∨ _))

instance (n : Nat) (ch : UInt8) (d : Display) : Decidable (DrawsGlyph n ch d) :=
  inferInstanceAs (Decidable (_ ∧ _))

instance (c : Console) : Decidable (CellFits c) :=
  inferInstanceAs (Decidable (ite _ _ _))

instance (c : Console) : Decidable (Overprints c) :=
  inferInstanceAs (Decidable (_ ∨ _))

instance : (e : Event) → Decidable (Printable e)
  | .outbyte _ => inferInstanceAs (Decidable (_ ∧ _))
  | .putchar _ => inferInstanceAs (Decidable (_ ∧ _))
  | .ioctl _ _ => inferInstanceAs (Decidable False)
  | .command _ _ => inferInstanceAs (Decidable False)

instance : (e : Event) → Decidable (Inked e)
  | .outbyte _ => inferInstanceAs (Decidable (_ ∧ _))
  | .putchar _ => inferInstanceAs (Decidable (_ ∧ _))
  | .ioctl _ _ => inferInstanceAs (Decidable False)
  | .command _ _ => inferInstanceAs (Decidable False)

instance (n : Nat) (e : Event) (rest : List Event) (d : Display) :
    Decidable (DrawnRight n e rest d) :=
  inferInstanceAs (Decidable (_ ∧ ∀ e' ∈ rest.head?, _ → _ → _))

instance (n : Nat) (rest : List Event) (d : Display) :
    (e : Event) → Decidable (DrawnSafely n e rest d)
  | .outbyte _ => inferInstanceAs (Decidable (_ → _ ∧ ∀ e' ∈ rest.head?, _ → _ → _))
  | .putchar _ => inferInstanceAs (Decidable (_ → _ ∧ ∀ e' ∈ rest.head?, _ → _ → _))
  | .ioctl _ _ => inferInstanceAs (Decidable True)
  | .command _ _ => inferInstanceAs (Decidable True)

end Decidable

variable {p : Painted} {ch : UInt8} {m : Nat} {c : Console}

section Quiet

variable {n : Nat} {d : Display}

def Quiet (n : Nat) (p : Painted) : Prop := Meets p fun drawn _ => cells n drawn = []

theorem cells_append (n : Nat) (drawn drawn' : List Drawing) :
    cells n (drawn ++ drawn') = cells n drawn ++ cells n drawn' :=
  List.filterMap_append

theorem quiet_silent (d : Display) : Quiet n (silent d) := meets_silent rfl

theorem quiet_error (e : String) : Quiet n (.error e) := meets_error e

theorem Quiet.andThen {next : Display → Painted} (h : Quiet n p) (hnext : ∀ d, Quiet n (next d)) :
    Quiet n (p.andThen next) := by
  refine Meets.andThen h ?_
  intro drawn d hdrawn
  refine (hnext d).mono ?_
  intro drawn' _ hdrawn'
  rw [cells_append, hdrawn, hdrawn']
  rfl

theorem quiet_each {ι : Type} {visit : ι → Display → Painted}
    (hvisit : ∀ i d, Quiet n (visit i d)) (is : List ι) (d : Display) :
    Quiet n (each visit is d) := by
  induction is generalizing d with
  | nil => exact quiet_silent d
  | cons i is ih => exact (hvisit i d).andThen ih

theorem quiet_ite {c : Prop} [Decidable c] {q : Painted} (hp : c → Quiet n p)
    (hq : ¬ c → Quiet n q) :
    Quiet n (if c then p else q) := by
  split
  · rename_i h
    exact hp h
  · rename_i h
    exact hq h

theorem consoleScrollRect_quiet (m : Nat) (d : Display) : Quiet n (consoleScrollRect m d) :=
  quiet_ite (fun _ => quiet_error _) fun _ =>
    quiet_ite (fun _ => quiet_silent d) fun _ => meets_ok rfl

theorem scrollFullscreen_quiet (m : Nat) (d : Display) : Quiet n (scrollFullscreen m d) :=
  quiet_ite (fun _ => consoleScrollRect_quiet m d) fun _ => quiet_silent d

theorem lineFeed_quiet (returns : Bool) (m : Nat) (d : Display) : Quiet n (lineFeed returns m d) :=
  quiet_ite (fun _ => (scrollFullscreen_quiet m d).andThen fun _ => quiet_silent _)
    fun _ => quiet_silent _

theorem consoleOutbyte_quiet (h : Steers ch (d.consoles m)) : Quiet n (consoleOutbyte ch m d) := by
  refine quiet_ite (fun _ => quiet_silent d) fun _ => ?_
  refine quiet_ite (fun _ => quiet_silent d) fun _ => ?_
  refine quiet_ite (fun _ => quiet_silent _) fun hff => ?_
  refine quiet_ite (fun _ => quiet_ite (fun _ => lineFeed_quiet _ m d) fun _ =>
    lineFeed_quiet _ m d) fun hlf => ?_
  refine quiet_ite (fun _ => quiet_silent _) fun htab => ?_
  refine quiet_ite (fun _ => quiet_silent _) fun hcr => ?_
  refine quiet_ite (fun _ => quiet_silent _) fun hspace => ?_
  refine quiet_ite (fun _ => quiet_silent _) fun hleft => ?_
  refine quiet_ite (fun _ => quiet_silent _) fun hup => ?_
  rcases h with h | h | h | h | h | ⟨h, hx | hy⟩
  · exact absurd h hff
  · exact absurd h hlf
  · exact absurd h htab
  · exact absurd h hcr
  · exact absurd h hspace
  · exact absurd ⟨h, hx⟩ hleft
  · exact absurd ⟨h, hy⟩ hup

theorem consolePutchar_quiet (h : Steers ch (d.consoles m)) : Quiet n (consolePutchar ch m d) :=
  quiet_ite (fun _ => quiet_silent d) fun _ =>
    (consoleOutbyte_quiet (d := d.setTerminalMode true) h).andThen fun _ => quiet_silent _

theorem steers_space (c : Console) : Steers 0x20 c := .inr (.inr (.inr (.inr (.inl rfl))))

theorem spaces_quiet (m : Nat) (times : List Nat) (d : Display) :
    Quiet n (each (fun _ => consolePutchar 0x20 m) times d) :=
  quiet_each (fun _ d => consolePutchar_quiet (steers_space (d.consoles m))) times d

theorem localInsertLine_quiet (m : Nat) (d : Display) : Quiet n (localInsertLine m d) :=
  quiet_ite (fun _ => quiet_silent d) fun _ =>
    (scrollFullscreen_quiet m _).andThen fun _ => quiet_silent _

theorem csiK_quiet (mode : Nat) (d : Display) : Quiet n (csiK mode d) := by
  rw [csiK]
  generalize eraseRange mode (d.consoles d.fgConsole) = range
  cases range with
  | none => exact quiet_silent d
  | some range =>
      exact (quiet_each (fun column d => consoleOutbyte_quiet (steers_space _)) _ d).andThen
        fun _ => quiet_silent _

theorem perform_quiet (command : Command) (p : Parser) (m : Nat) (d : Display) :
    Quiet n (perform command p m d) := by
  cases command with
  | eraseLine => exact csiK_quiet _ d
  | insertLine =>
      exact quiet_ite (fun _ => quiet_silent d) fun _ =>
        quiet_each (fun _ => localInsertLine_quiet m) _ d
  | deleteChars | insertChars =>
      exact quiet_ite (fun _ => quiet_silent d) fun _ => spaces_quiet m _ d
  | _ => exact quiet_silent _

theorem consoleIoctl_quiet (request arg : Nat) (d : Display) :
    Quiet n (consoleIoctl request arg d) := by
  unfold consoleIoctl
  dsimp only
  split
  · exact consoleScrollRect_quiet _ d
  · exact consoleScrollRect_quiet _ d
  · exact quiet_silent _
  · exact quiet_silent _
  · exact quiet_silent _
  · exact quiet_silent _
  · exact quiet_silent _
  · refine quiet_ite (fun _ => ?_) fun _ => quiet_silent d
    exact quiet_ite (fun _ => quiet_silent d) fun _ => spaces_quiet _ _ d
  · exact quiet_silent d

end Quiet

section Drawn

variable {n : Nat} {d : Display} {ch : UInt8}

def cellOf (c : Console) : Nat × Nat :=
  if c.cursorBottom ≤ c.wrapped.cursorY then (0, c.lastLine)
  else (c.wrapped.cursorX, c.wrapped.cursorY)

def cursorBehind (c : Console) : Nat × Nat :=
  if c.atLineEnd = true then cellOf c else (((cellOf c).1 + 1) % 2 ^ 64, (cellOf c).2)

structure Drew (n : Nat) (c : Console) (drawn : List Drawing) (c' : Console) : Prop where
  cells : cells n drawn = [cellOf c]
  scrolls : Scrolls n drawn ↔ c.cursorBottom ≤ c.wrapped.cursorY ∧ c.fullscreen = true
  cursor : (c'.cursorX, c'.cursorY) = cursorBehind c

theorem lastLine_of_small (hc : Fit c) : c.lastLine = c.cursorBottom - 1 := by
  have hbottom := hc.small.bottom
  have hheight := hc.height
  rw [Console.lastLine, toULong]
  omega

theorem scrollAtBottom_spec (hn : n < CONSOLETTYS_COUNT_MAX) (hgui : d.useGui = true)
    (hfit : Fit (d.consoles n)) :
    ∃ drawn c', scrollAtBottom n (d.setConsole n (d.consoles n).wrapped) =
        .ok (drawn, d.setConsole n c') ∧
      cells n drawn = [] ∧ (c'.cursorX, c'.cursorY) = cellOf (d.consoles n) ∧
      (Scrolls n drawn ↔ (d.consoles n).cursorBottom ≤ (d.consoles n).wrapped.cursorY ∧
        (d.consoles n).fullscreen = true) := by
  have hlast := lastLine_of_small hfit
  have hkeeps := Console.keeps_wrapped (d.consoles n)
  have hbottom := (hkeeps.limits hfit.small).bottom
  rw [scrollAtBottom, Display.consoles_setConsole, hbottom, cellOf]
  by_cases hline : (d.consoles n).cursorBottom ≤ (d.consoles n).wrapped.cursorY
  · rw [if_pos hline, if_pos hline, scrollFullscreen, Display.consoles_setConsole,
      hkeeps.fullscreen]
    by_cases hfull : (d.consoles n).fullscreen = true
    · have hscrolled := (Console.keeps_scrolled (d.consoles n).wrapped).limits
        ((hkeeps.limits hfit.small).small hfit.small)
      rw [if_pos hfull, consoleScrollRect, if_neg (by
          change ¬ d.useGui = false
          rw [hgui]
          decide), if_neg (Nat.not_le.mpr hn), ok_andThen, Display.consoles_setConsole]
      refine ⟨[.scroll n (d.consoles n).wrapped.bgColor],
        (d.consoles n).wrapped.scrolled.moveTo 0 (d.consoles n).wrapped.scrolled.lastLine,
        ?_, rfl, ?_, ?_⟩
      · simp only [silent, Display.consoles_setConsole, Display.setConsole_setConsole,
          List.append_nil]
      · change (0, (d.consoles n).wrapped.scrolled.lastLine) = _
        rw [Console.lastLine, hscrolled.bottom, hbottom]
        rfl
      · exact iff_of_true (by simp [Scrolls, isScroll]) ⟨hline, hfull⟩
    · rw [if_neg hfull, silent_andThen, Display.consoles_setConsole]
      refine ⟨[], (d.consoles n).wrapped.moveTo 0 (d.consoles n).wrapped.lastLine,
        by simp only [silent, Display.setConsole_setConsole], rfl, ?_, ?_⟩
      · change (0, (d.consoles n).wrapped.lastLine) = _
        rw [Console.lastLine, hbottom]
        rfl
      · exact iff_of_false Bool.false_ne_true fun h => hfull h.2
  · rw [if_neg hline, if_neg hline]
    exact ⟨[], (d.consoles n).wrapped, rfl, rfl, rfl,
      iff_of_false Bool.false_ne_true fun h => hline h.1⟩

theorem drawCharacter_spec (ch : UInt8) (hn : n < CONSOLETTYS_COUNT_MAX) (hgui : d.useGui = true)
    (hecho : (d.consoles n).echo = true) (hfit : Fit (d.consoles n)) :
    ∃ drawn d', drawCharacter ch n d = .ok (drawn, d') ∧
      Drew n (d.consoles n) drawn (d'.consoles n) := by
  have hwidth := hfit.width
  have hheight := hfit.height
  obtain ⟨drawn, c', hscroll, hcells, hcursor, hscrolls⟩ := scrollAtBottom_spec hn hgui hfit
  have hcells' : ∀ fg bg, cells n (drawn ++ [.glyph n c'.cursorX c'.cursorY ch fg bg]) =
      [cellOf (d.consoles n)] := by
    intro fg bg
    rw [cells_append, hcells, ← hcursor]
    simp [cells, cell?]
  have hscrolls' : ∀ x y fg bg, Scrolls n (drawn ++ [.glyph n x y ch fg bg]) ↔ Scrolls n drawn := by
    intro x y fg bg
    simp [Scrolls, isScroll]
  have himp : consoleOutbyteImp ch n (d.setConsole n c') =
      .ok ([.glyph n c'.cursorX c'.cursorY ch c'.fgColor c'.bgColor], d.setConsole n c') := by
    rw [consoleOutbyteImp, if_neg (by
      change ¬ d.useGui = false
      rw [hgui]
      decide), Display.consoles_setConsole]
  rw [drawCharacter, if_neg (by omega), if_neg (by omega), hscroll, ok_andThen, if_pos hecho,
    himp, ok_andThen]
  refine ⟨_, _, rfl, ?_⟩
  simp only [Display.consoles_setConsole, List.append_nil]
  refine ⟨hcells' _ _, (hscrolls' _ _ _ _).trans hscrolls, ?_⟩
  rw [cursorBehind, ← hcursor]
  cases hend : (d.consoles n).atLineEnd with
  | true => rfl
  | false => rfl

theorem consoleOutbyte_eq_draw (hn : n < CONSOLETTYS_COUNT_MAX)
    (hinit : (d.consoles n).initialized = true) (h : ¬ Steers ch (d.consoles n)) :
    consoleOutbyte ch n d = drawCharacter ch n d := by
  simp only [Steers, not_or, not_and, Nat.not_lt, Nat.le_zero] at h
  obtain ⟨hff, hlf, htab, hcr, hspace, hback⟩ := h
  rw [consoleOutbyte, if_neg (Nat.not_le.mpr hn)]
  simp only [hinit, hff, hlf, htab, hcr, hspace, if_false, Bool.true_eq_false]
  rw [if_neg, if_neg]
  · rintro ⟨hch, hy⟩
    have := (hback hch).2
    omega
  · rintro ⟨hch, hx⟩
    have := (hback hch).1
    omega

theorem drawCharacter_quiet (h : d.useGui = false ∨ (d.consoles n).echo = false) (m : Nat) :
    Quiet m (drawCharacter ch n d) := by
  refine quiet_ite (fun _ => quiet_error _) fun _ => quiet_ite (fun _ => quiet_error _) fun _ => ?_
  have hscroll : Quiet m (scrollAtBottom n (d.setConsole n (d.consoles n).wrapped)) :=
    quiet_ite (fun _ => (scrollFullscreen_quiet n _).andThen fun _ => quiet_silent _)
      fun _ => quiet_silent _
  have hgui : Kept d (scrollAtBottom n (d.setConsole n (d.consoles n).wrapped)) :=
    (scrollAtBottom_kept n _).mono fun _ _ hkeep =>
      (Display.keeps_setConsole (Console.keeps_wrapped _)).trans hkeep
  refine Meets.andThen (R := fun drawn d' => cells m drawn = [] ∧ d.Keeps d')
    (fun drawn d' heq => ⟨hscroll drawn d' heq, hgui drawn d' heq⟩) ?_
  rintro drawn d' ⟨hdrawn, hkeep⟩
  have himp : Quiet m (if (d.consoles n).echo = true then consoleOutbyteImp ch n d'
      else silent d') := by
    rcases h with h | h
    · refine quiet_ite (fun _ => ?_) fun _ => quiet_silent d'
      rw [consoleOutbyteImp, if_pos (hkeep.useGui.trans h)]
      exact quiet_error _
    · rw [h]
      exact quiet_silent d'
  refine (himp.andThen fun _ => quiet_silent _).mono ?_
  intro drawn' _ hdrawn'
  rw [cells_append, hdrawn, hdrawn']
  rfl

end Drawn

section Step

variable {n : Nat} {d : Display} {e : Event}

theorem step_drew (hn : n < CONSOLETTYS_COUNT_MAX) (he : e.char? = some ch)
    (hfit : Fit (d.consoles n)) (hdraws : DrawsGlyph n ch d) :
    ∃ drawn d', step n e d = .ok (drawn, d') ∧ Drew n (d.consoles n) drawn (d'.consoles n) := by
  obtain ⟨hgui, hecho, hsteers⟩ := hdraws
  cases e with
  | outbyte ch' =>
      cases he
      rw [step, consoleOutbyte_eq_draw hn hfit.initialized hsteers]
      exact drawCharacter_spec ch hn hgui hecho hfit
  | putchar ch' =>
      cases he
      obtain ⟨drawn, d', hdraw, hdrew⟩ :=
        drawCharacter_spec (d := d.setTerminalMode true) ch hn hgui hecho hfit
      refine ⟨drawn ++ [], d'.setTerminalMode false, ?_, ?_⟩
      · rw [step, consolePutchar, if_neg (Nat.not_le.mpr hn),
          consoleOutbyte_eq_draw (d := d.setTerminalMode true) hn hfit.initialized hsteers, hdraw]
        rfl
      · rw [List.append_nil]
        exact hdrew
  | ioctl request arg => cases he
  | command command parser => cases he

theorem step_quiet (hn : n < CONSOLETTYS_COUNT_MAX) (hfit : Fit (d.consoles n))
    (h : ∀ ch, e.char? = some ch → ¬ DrawsGlyph n ch d) : Quiet n (step n e d) := by
  have hchar : ∀ ch (d' : Display), d'.consoles n = d.consoles n → d'.useGui = d.useGui →
      ¬ DrawsGlyph n ch d → Quiet n (consoleOutbyte ch n d') := by
    intro ch d' hconsole hgui hdraws
    by_cases hsteers : Steers ch (d'.consoles n)
    · exact consoleOutbyte_quiet hsteers
    · rw [consoleOutbyte_eq_draw hn (by rw [hconsole]; exact hfit.initialized) hsteers]
      apply drawCharacter_quiet
      rw [hconsole] at hsteers ⊢
      rw [hgui]
      by_contra hnot
      rw [not_or, Bool.not_eq_false, Bool.not_eq_false] at hnot
      exact hdraws ⟨hnot.1, hnot.2, hsteers⟩
  cases e with
  | outbyte ch => exact hchar ch d rfl rfl (h ch rfl)
  | putchar ch =>
      exact quiet_ite (fun _ => quiet_silent d) fun _ =>
        (hchar ch (d.setTerminalMode true) rfl rfl (h ch rfl)).andThen fun _ => quiet_silent _
  | ioctl request arg => exact consoleIoctl_quiet request arg d
  | command command parser => exact perform_quiet command parser n d

theorem consoleIoctl_keeps (request arg : Nat) (d : Display) :
    Meets (consoleIoctl request arg d) fun _ d' =>
      d'.useGui = d.useGui ∧ ∀ m, (d.consoles m).Keeps (d'.consoles m) := by
  have hkept : ∀ {p : Painted}, Kept d p → Meets p fun _ d' =>
      d'.useGui = d.useGui ∧ ∀ m, (d.consoles m).Keeps (d'.consoles m) :=
    fun h => h.mono fun _ _ hkeep => ⟨hkeep.useGui, hkeep.consoles⟩
  unfold consoleIoctl
  dsimp only
  split
  · exact hkept (consoleScrollRect_kept _ d)
  · exact hkept (consoleScrollRect_kept _ d)
  · exact hkept (kept_silent (localGotoxy_keeps _ _ _ d))
  · exact hkept (kept_silent (localGotoxy_keeps _ _ _ d))
  · apply meets_silent
    split
    · exact ⟨rfl, fun m => .refl (d.consoles m)⟩
    · exact ⟨rfl, fun m => .refl (d.consoles m)⟩
  · exact hkept (kept_silent (localGotoxy_keeps _ _ _ d))
  · exact hkept (kept_silent (localGotoxy_keeps _ _ _ d))
  · apply hkept
    refine kept_ite (kept_ite (kept_self d) ?_) (kept_self d)
    exact kept_each (fun _ => consolePutchar_kept 0x20 _) _ d
  · exact hkept (kept_self d)

theorem step_keeps (n : Nat) (e : Event) (d : Display) : Meets (step n e d) fun _ d' =>
      d'.useGui = d.useGui ∧ (d.consoles n).Keeps (d'.consoles n) := by
  have hkept : ∀ {p : Painted}, Kept d p → Meets p fun _ d' =>
      d'.useGui = d.useGui ∧ (d.consoles n).Keeps (d'.consoles n) :=
    fun h => h.mono fun _ _ hkeep => ⟨hkeep.useGui, hkeep.consoles n⟩
  cases e with
  | outbyte ch => exact hkept (consoleOutbyte_kept ch n d)
  | putchar ch => exact hkept (consolePutchar_kept ch n d)
  | ioctl request arg =>
      exact (consoleIoctl_keeps request arg d).mono fun _ _ h => ⟨h.1, h.2 n⟩
  | command command parser => exact hkept (perform_kept command parser n d)

theorem Fit.keeps {c' : Console} (hc : Fit c) (h : c.Keeps c') : Fit c' := by
  have hlimits := h.limits hc.small
  refine ⟨h.initialized.trans hc.initialized, hlimits.small hc.small, ?_, ?_⟩
  · rw [hlimits.left, hlimits.right]
    exact hc.width
  · rw [hlimits.top, hlimits.bottom]
    exact hc.height

end Step

section Arithmetic

variable {c c' : Console}

theorem atLineEnd_iff (c : Console) : c.atLineEnd = true ↔ c.cursorRight ≤ c.cursorX + 1 := by
  rw [Console.atLineEnd, decide_eq_true_iff]
  omega

theorem wrapped_of_atLineEnd (h : c.atLineEnd = true) :
    c.wrapped = c.moveTo c.cursorLeft ((c.cursorY + 1) % 2 ^ 64) :=
  if_pos h

theorem wrapped_of_not_atLineEnd (h : ¬ c.atLineEnd = true) : c.wrapped = c := if_neg h

theorem cellOf_cases (hc : Fit c) :
    (c.wrapped.cursorY < c.cursorBottom ∧ cellOf c = (c.wrapped.cursorX, c.wrapped.cursorY)) ∨
      (c.cursorBottom ≤ c.wrapped.cursorY ∧ cellOf c = (0, c.cursorBottom - 1)) := by
  rw [cellOf, lastLine_of_small hc]
  by_cases hline : c.cursorBottom ≤ c.wrapped.cursorY
  · exact .inr ⟨hline, if_pos hline⟩
  · exact .inl ⟨Nat.lt_of_not_le hline, if_neg hline⟩

theorem inLimits_cellOf_iff (hc : Fit c) : InLimits c (cellOf c) ↔ CellFits c := by
  have hlast := lastLine_of_small hc
  have hwidth := hc.width
  have hheight := hc.height
  rw [InLimits, cellOf, CellFits]
  by_cases hline : c.cursorBottom ≤ c.wrapped.cursorY
  · rw [if_pos hline, if_pos hline, hlast]
    dsimp only
    omega
  · rw [if_neg hline, if_neg hline]
    have hright : c.wrapped.cursorX < c.cursorRight := by
      rw [Console.wrapped]
      split
      · change c.cursorLeft < _
        omega
      · rename_i hend
        rw [Console.atLineEnd, decide_eq_true_iff] at hend
        omega
    omega

theorem cellOf_of_atLineEnd (hc : Fit c) (hkeeps : c.Keeps c') (hend : c.atLineEnd = true)
    (hcursor : (c'.cursorX, c'.cursorY) = cellOf c) :
    cellOf c' = cellOf c ∧ c'.wrapped.cursorY < c'.cursorBottom := by
  have hlimits := hkeeps.limits hc.small
  have hwidth := hc.width
  have hheight := hc.height
  have hwrapped := wrapped_of_atLineEnd hend
  have hcell : (cellOf c).1 ≤ c.cursorLeft ∧ (cellOf c).2 < c.cursorBottom := by
    rcases cellOf_cases hc with ⟨hline, hcell⟩ | ⟨hline, hcell⟩
    · rw [hcell]
      refine ⟨?_, hline⟩
      rw [hwrapped]
      exact Nat.le_refl _
    · rw [hcell]
      dsimp only
      omega
  rw [← hcursor] at hcell
  obtain ⟨hx, hy⟩ := hcell
  have hright := hlimits.right
  have hbottom := hlimits.bottom
  have hnot : ¬ c'.atLineEnd = true := by
    rw [atLineEnd_iff]
    omega
  have hsame := wrapped_of_not_atLineEnd hnot
  have hline : c'.wrapped.cursorY < c'.cursorBottom := by
    rw [hsame, hbottom]
    exact hy
  refine ⟨?_, hline⟩
  rw [cellOf, if_neg (Nat.not_le.mpr hline), hsame, hcursor]

theorem cellOf_eq_iff (hc : Fit c) (hkeeps : c.Keeps c')
    (hcursor : (c'.cursorX, c'.cursorY) = cursorBehind c) :
    (cellOf c' = cellOf c ∧ ¬ (c'.cursorBottom ≤ c'.wrapped.cursorY ∧ c'.fullscreen = true)) ↔
      Overprints c := by
  by_cases hend : c.atLineEnd = true
  · rw [cursorBehind, if_pos hend] at hcursor
    obtain ⟨hcell, hline⟩ := cellOf_of_atLineEnd hc hkeeps hend hcursor
    refine iff_of_true ⟨hcell, ?_⟩ (.inl hend)
    omega
  · rw [cursorBehind, if_neg hend] at hcursor
    have hlimits := hkeeps.limits hc.small
    have hleft := hlimits.left
    have hright := hlimits.right
    have hbottom := hlimits.bottom
    have hwidth := hc.width
    have hheight := hc.height
    have hsmall := hc.small.right
    have hsmall' := hc.small.bottom
    have hcell := cellOf_cases hc
    rw [wrapped_of_not_atLineEnd hend] at hcell
    rw [Overprints, or_iff_right hend]
    rw [atLineEnd_iff] at hend
    have hx := congrArg Prod.fst hcursor
    have hy := congrArg Prod.snd hcursor
    have hcell' := cellOf_cases (hc.keeps hkeeps)
    rw [hkeeps.fullscreen, ← Bool.not_eq_true]
    generalize cellOf c = cell at hcell hx hy ⊢
    generalize cellOf c' = cell' at hcell' ⊢
    obtain ⟨x, y⟩ := cell
    obtain ⟨x', y'⟩ := cell'
    by_cases hend' : c'.atLineEnd = true
    · rw [wrapped_of_atLineEnd hend'] at hcell' ⊢
      rw [atLineEnd_iff] at hend'
      dsimp only [Console.moveTo] at hcell' hx hy ⊢
      simp only [Prod.mk.injEq] at hcell hcell' ⊢
      by_cases hfull : c.fullscreen = true
      · simp only [hfull, and_true, not_true, false_and, iff_false]
        omega
      · simp only [hfull, Bool.false_eq_true, and_false, not_false_eq_true, true_and, and_true]
        omega
    · rw [wrapped_of_not_atLineEnd hend'] at hcell' ⊢
      rw [atLineEnd_iff] at hend'
      dsimp only at hcell' hx hy ⊢
      simp only [Prod.mk.injEq] at hcell hcell' ⊢
      by_cases hfull : c.fullscreen = true
      · simp only [hfull, and_true, not_true, false_and, iff_false]
        omega
      · simp only [hfull, Bool.false_eq_true, and_false, not_false_eq_true, true_and, and_true]
        omega

end Arithmetic

section Neighbours

variable {n : Nat} {d d' : Display} {e e' : Event}

theorem inked_draws (hgui : d.useGui = true) (hecho : (d.consoles n).echo = true)
    (h : Inked e) : ∃ ch, e.char? = some ch ∧ DrawsGlyph n ch d := by
  rw [Inked] at h
  cases he : e.char? with
  | none =>
      rw [he] at h
      exact absurd h id
  | some ch =>
      rw [he] at h
      refine ⟨ch, rfl, hgui, hecho, ?_⟩
      rintro (h' | h' | h' | h' | h' | ⟨h', _⟩)
      all_goals
        rw [h'] at h
        exact absurd h.1 (by decide)

theorem inked_of_draws (he : e.char? = some ch) (hdraws : DrawsGlyph n ch d) (h : Printable e) :
    Inked e := by
  rw [Printable, he] at h
  rw [Inked, he]
  refine ⟨UInt8.lt_of_le_of_ne h.1 ?_, h.2⟩
  rintro rfl
  exact hdraws.2.2 (steers_space _)

theorem neighbours_iff (hn : n < CONSOLETTYS_COUNT_MAX) (hfit : Fit (d.consoles n))
    (hgui : d.useGui = true) (hecho : (d.consoles n).echo = true) {drawn : List Drawing}
    (hdrew : Drew n (d.consoles n) drawn (d'.consoles n)) (hgui' : d'.useGui = d.useGui)
    (hkeeps : (d.consoles n).Keeps (d'.consoles n)) :
    (Printable e' → Meets (step n e' d') fun drawn' _ =>
        ∀ cell, cell ∈ cells n drawn → cell ∈ cells n drawn' → Scrolls n drawn') ↔
      (Inked e' → ¬ Overprints (d.consoles n)) := by
  have hfit' := hfit.keeps hkeeps
  have hdraws' := inked_draws (e := e') (hgui'.trans hgui) (hkeeps.echo.trans hecho)
  by_cases hdraws : ∃ ch, e'.char? = some ch ∧ DrawsGlyph n ch d'
  · obtain ⟨ch, he, hdraws⟩ := hdraws
    obtain ⟨drawn', d'', hstep, hdrew'⟩ := step_drew hn he hfit' hdraws
    have hinked : Printable e' ↔ Inked e' := by
      refine ⟨inked_of_draws he hdraws, ?_⟩
      rw [Inked, Printable, he]
      exact fun h => ⟨UInt8.le_of_lt h.1, h.2⟩
    have hcomm : cellOf (d.consoles n) = cellOf (d'.consoles n) ↔
        cellOf (d'.consoles n) = cellOf (d.consoles n) := eq_comm
    rw [hinked, hstep, meets_ok_iff, hdrew.cells, hdrew'.cells, hdrew'.scrolls,
      ← cellOf_eq_iff hfit hkeeps hdrew.cursor, not_and, not_not]
    simp only [List.mem_singleton, forall_eq, hcomm]
  · have hquiet := step_quiet hn hfit' fun ch he h => hdraws ⟨ch, he, h⟩
    refine iff_of_true ?_ fun h => absurd (hdraws' h) hdraws
    intro _
    refine hquiet.mono ?_
    intro drawn' _ hnone cell _ hcell
    rw [hnone] at hcell
    exact absurd hcell List.not_mem_nil

theorem drawnRight_iff (hn : n < CONSOLETTYS_COUNT_MAX) (hfit : Fit (d.consoles n))
    (rest : List Event) : DrawnRight n e rest d ↔ DrawnSafely n e rest d := by
  by_cases hdraws : ∃ ch, e.char? = some ch ∧ DrawsGlyph n ch d
  · obtain ⟨ch, he, hdraws⟩ := hdraws
    obtain ⟨drawn, d', hstep, hdrew⟩ := step_drew hn he hfit hdraws
    obtain ⟨hgui, hkeeps⟩ := step_keeps n e d drawn d' hstep
    rw [DrawnRight, DrawnSafely, he, hstep]
    simp only [hdraws, true_imp_iff]
    apply and_congr
    · rw [meets_ok_iff, hdrew.cells, ← inLimits_cellOf_iff hfit]
      simp only [List.mem_singleton, forall_eq]
    · refine forall_congr' fun e' => imp_congr Iff.rfl (imp_congr Iff.rfl ?_)
      simp only [meets_ok_iff]
      exact neighbours_iff hn hfit hdraws.1 hdraws.2.1 hdrew hgui hkeeps
  · have hquiet := step_quiet hn hfit fun ch he h => hdraws ⟨ch, he, h⟩
    refine iff_of_true ⟨?_, ?_⟩ ?_
    · refine hquiet.mono ?_
      intro drawn _ hnone cell hcell
      rw [hnone] at hcell
      exact absurd hcell List.not_mem_nil
    · intro e' _ _ _
      refine hquiet.mono ?_
      intro drawn _ hnone drawn' _ _ cell hcell
      rw [hnone] at hcell
      exact absurd hcell List.not_mem_nil
    · rw [DrawnSafely]
      cases he : e.char? with
      | none => trivial
      | some ch => exact fun h => absurd ⟨ch, he, h⟩ hdraws

end Neighbours

/-- Whatever is given to an initialised console: its characters are drawn inside the limits, and
neighbours on different cells, exactly if every character that is drawn finds the cursor inside
the limits and, in front of another one, before the end of the line. -/
theorem cells_iff (n : Nat) (hn : n < CONSOLETTYS_COUNT_MAX) (d : Display)
    (hfit : Fit (d.consoles n)) (events : List Event) :
    Along (step n) (DrawnRight n) events d ↔ Along (step n) (DrawnSafely n) events d := by
  apply along_congr fun d => Fit (d.consoles n)
  · exact fun e d hfit => (step_keeps n e d).mono fun _ _ h => hfit.keeps h.2
  · exact fun e rest d hfit => drawnRight_iff hn hfit rest
  · exact hfit

/-- A text on a console of 100 columns, a new line, and a request for the last line. -/
theorem cells_iff_short_text :
    Along (step 0) (DrawnRight 0)
      [.putchar 0x68, .putchar 0x69, .putchar 0x0A, .outbyte 0x21, .ioctl 1009 3, .outbyte 0x3E]
      (initialDisplay 100 75 COLOR_WHITE COLOR_BLUE) :=
  (cells_iff 0 (by decide) _ ⟨rfl, ⟨by decide, by decide, by decide, by decide⟩, by decide,
    by decide⟩ _).mpr (by decide)

/-- From the last column two characters are drawn on the first cell of the next line. -/
theorem line_end_overprinted :
    ¬ Along (step 0) (DrawnRight 0) [.ioctl 1001 99, .putchar 0x61, .putchar 0x62]
      (initialDisplay 100 75 COLOR_WHITE COLOR_BLUE) := by
  decide

end Gramado.Tty.Cells
