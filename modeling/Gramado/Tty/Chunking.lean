import Gramado.Tty.Escape
import Mathlib.Data.List.Infix

/-! Texts that are written to a console in pieces. -/

namespace Gramado.Tty.Chunking

open Library.Log Tty.Screen Tty.Escape

def Returned.written (r : Returned) : Written :=
  match r with
  | .error e => .error e
  | .ok (_, drawn, s) => .ok (drawn, s)

def writePieces (n : Nat) (pieces : List (List UInt8)) (s : ConsoleSystem) : Written :=
  each (fun piece s => Returned.written (consoleWrite n piece s)) pieces s

/-- The string ends before its first zero byte, and every byte is a piece of its own. -/
def consoleWriteString (n : Nat) (string : List UInt8) (s : ConsoleSystem) : Returned :=
  let text := string.takeWhile (· ≠ 0)
  if CONSOLETTYS_COUNT_MAX ≤ n then .ok (0, [], s)
  else if text = [] then .ok (0, [], s)
  else Written.returning (writePieces n (text.map fun ch => [ch]) s) text.length

def shown (w : Written) : Painted :=
  match w with
  | .error e => .error e
  | .ok (drawn, s) => .ok (drawn, s.display)

/-- The parser is outside the escape sequences when the text has been written in one call. -/
def EndsOutside (n : Nat) (text : List UInt8) (s : ConsoleSystem) : Prop :=
  Meets (writeBytes n text (s.setStage .stage0)) fun _ t => t.parser.stage = .stage0

instance (n : Nat) (text : List UInt8) (s : ConsoleSystem) : Decidable (EndsOutside n text s) :=
  inferInstanceAs (Decidable (Meets _ _))

variable {t : ConsoleSystem}

section Pieces

variable {n : Nat} {s : ConsoleSystem}

theorem setStage_of_stage0 (h : s.parser.stage = .stage0) : s.setStage .stage0 = s := by
  obtain ⟨d, stage, par, npar, ques⟩ := s
  subst h
  rfl

theorem written_returning (w : Written) (value : Int) :
    Returned.written (Written.returning w value) = w := by
  cases w with
  | error e => rfl
  | ok w => rfl

theorem written_consoleWrite (hn : n < CONSOLETTYS_COUNT_MAX) {data : List UInt8}
    (hdata : data ≠ []) (s : ConsoleSystem) :
    Returned.written (consoleWrite n data s) = writeBytes n data (s.setStage .stage0) := by
  rw [consoleWrite, if_neg (Nat.not_le.mpr hn), if_neg hdata, written_returning]

theorem writeBytes_append (n : Nat) (before after : List UInt8) (s : ConsoleSystem) :
    writeBytes n (before ++ after) s = (writeBytes n before s).andThen (writeBytes n after) := by
  rw [writeBytes, each_append]
  apply andThen_congr
  refine (writeBytes_kept n before s).mono ?_
  intro _ t ht
  rw [writeBytes, (ht.consoles n).echo]

theorem writePieces_eq (hn : n < CONSOLETTYS_COUNT_MAX) {pieces : List (List UInt8)}
    (hpieces : ∀ piece ∈ pieces, piece ≠ []) (hnil : pieces ≠ [])
    (hcuts : ∀ pre, pre <+: pieces → pre ≠ [] → pre ≠ pieces → EndsOutside n pre.flatten s) :
    writePieces n pieces s = writeBytes n pieces.flatten (s.setStage .stage0) := by
  induction pieces generalizing s with
  | nil => exact absurd rfl hnil
  | cons piece rest ih =>
      have hpiece := written_consoleWrite hn (hpieces piece List.mem_cons_self) s
      cases rest with
      | nil =>
          rw [writePieces, each_singleton, hpiece, List.flatten_singleton]
      | cons next rest =>
          rw [writePieces, each_cons, hpiece, List.flatten_cons, writeBytes_append]
          apply andThen_congr
          have hends : ∀ pre, pre <+: next :: rest → pre ≠ next :: rest →
              Meets (writeBytes n piece (s.setStage .stage0)) fun _ t =>
                Meets (writeBytes n pre.flatten t) fun _ u => u.parser.stage = .stage0 := by
            intro pre hpre hne
            have hcut := hcuts (piece :: pre) (List.cons_prefix_cons.mpr ⟨rfl, hpre⟩)
              (List.cons_ne_nil _ _) (by simpa using hne)
            rw [EndsOutside, List.flatten_cons, writeBytes_append] at hcut
            exact meets_andThen_iff.mp hcut
          intro log t ht
          have hstage : t.parser.stage = .stage0 :=
            hends [] (List.nil_prefix) (by simp) log t ht [] t rfl
          have hrest := ih (s := t) (fun p hp => hpieces p (List.mem_cons_of_mem _ hp))
            (List.cons_ne_nil _ _) (by
              intro pre hpre _ hne
              rw [EndsOutside, setStage_of_stage0 hstage]
              exact hends pre hpre hne log t ht)
          rwa [setStage_of_stage0 hstage] at hrest

theorem shown_onDisplay (p : Painted) (q : Parser) : shown (onDisplay p q) = p := by
  cases p with
  | error e => rfl
  | ok p =>
      obtain ⟨drawn, d⟩ := p
      change Except.ok (drawn ++ [], d) = _
      rw [List.append_nil]

end Pieces

section NewLine

variable {n : Nat} {d : Display}

theorem lineFeed_meets (hn : n < CONSOLETTYS_COUNT_MAX) (hsmall : (d.consoles n).Small)
    (hbottom : 0 < (d.consoles n).cursorBottom) (returns : Bool) :
    Meets (lineFeed returns n d) fun log d' =>
      log ≠ [] ∨ (d'.consoles n).cursorY ≠ (d.consoles n).cursorY := by
  rw [lineFeed]
  by_cases hline : (d.consoles n).cursorBottom ≤ (d.consoles n).cursorY
  · simp only [if_pos hline]
    rw [lineFeedAtBottom, scrollFullscreen]
    by_cases hfull : (d.consoles n).fullscreen = true
    · rw [if_pos hfull, consoleScrollRect]
      by_cases hgui : d.useGui = false
      · rw [if_pos hgui]
        exact meets_error _
      · rw [if_neg hgui, if_neg (Nat.not_le.mpr hn)]
        exact meets_ok (.inl (List.cons_ne_nil _ _))
    · rw [if_neg hfull, silent_andThen]
      apply meets_silent
      right
      rw [Display.consoles_setConsole]
      change toULong ((d.consoles n).cursorBottom - 1) ≠ _
      have hlt := hsmall.bottom
      rw [toULong]
      omega
  · simp only [if_neg hline]
    apply meets_silent
    right
    rw [Display.consoles_setConsole]
    exact Nat.succ_ne_self _

theorem consoleOutbyte_newline (hn : n < CONSOLETTYS_COUNT_MAX)
    (hinit : (d.consoles n).initialized = true) :
    consoleOutbyte 0x0A n d = if (d.consoles n).prevChar = 0x0D then lineFeed true n d
      else lineFeed (d.terminalMode || d.verboseMode) n d := by
  rw [consoleOutbyte, if_neg (Nat.not_le.mpr hn)]
  simp [hinit]

theorem consolePutchar_newline_ne (hn : n < CONSOLETTYS_COUNT_MAX)
    (hinit : (d.consoles n).initialized = true) (hsmall : (d.consoles n).Small)
    (hbottom : 0 < (d.consoles n).cursorBottom) : consolePutchar 0x0A n d ≠ silent d := by
  have hmeets : Meets (consolePutchar 0x0A n d) fun log d' =>
      log ≠ [] ∨ (d'.consoles n).cursorY ≠ (d.consoles n).cursorY := by
    rw [consolePutchar, if_neg (Nat.not_le.mpr hn),
      consoleOutbyte_newline (d := d.setTerminalMode true) hn hinit]
    have hfeed := fun returns => lineFeed_meets (d := d.setTerminalMode true) hn hsmall hbottom
      returns
    refine Meets.andThen (R := fun log d' =>
      log ≠ [] ∨ (d'.consoles n).cursorY ≠ (d.consoles n).cursorY) ?_ ?_
    · split
      · exact hfeed _
      · exact hfeed _
    · intro log d' h
      apply meets_silent
      rwa [List.append_nil]
  intro heq
  rcases hmeets [] d heq with h | h
  · exact h rfl
  · exact h rfl

theorem writeByte_newline (ht : t.parser.stage ≠ .stage0) (doEcho : Bool) :
    shown (writeByte doEcho n 0x0A t) = silent t.display := by
  rw [writeByte]
  cases hstage : t.parser.stage with
  | stage0 => exact absurd hstage ht
  | stage1 => rfl
  | stage2 => rfl
  | stage3 => rfl
  | stage4 => rfl

theorem shown_andThen_inj {log : List Drawing}
    {next next' : ConsoleSystem → Written}
    (h : shown (Logged.andThen (.ok (log, t)) next) =
      shown (Logged.andThen (.ok (log, t)) next')) : shown (next t) = shown (next' t) := by
  rw [ok_andThen, ok_andThen] at h
  generalize next t = w at h ⊢
  generalize next' t = w' at h ⊢
  cases w with
  | error e =>
      cases w' with
      | error e' => exact h
      | ok w' => cases h
  | ok w =>
      cases w' with
      | error e' => cases h
      | ok w' =>
          obtain ⟨hlog, hdisplay⟩ := Prod.mk.inj (Except.ok.inj h)
          exact congrArg Except.ok (Prod.ext (List.append_cancel_left hlog) hdisplay)

end NewLine

/-- Successive calls and one call show the same, whatever the last of them writes, exactly if
every call but the last leaves the parser outside the escape sequences. -/
theorem chunking_iff (n : Nat) (hn : n < CONSOLETTYS_COUNT_MAX) (s : ConsoleSystem)
    (hinit : (s.display.consoles n).initialized = true) (hsmall : (s.display.consoles n).Small)
    (hbottom : 0 < (s.display.consoles n).cursorBottom) (cuts : List (List UInt8))
    (hcuts : ∀ piece ∈ cuts, piece ≠ []) :
    (∀ pre, pre <+: cuts → ∀ rest, rest ≠ [] →
        shown (writePieces n (pre ++ [rest]) s) =
          shown (Returned.written (consoleWrite n (pre.flatten ++ rest) s))) ↔
      ∀ pre, pre <+: cuts → pre ≠ [] → EndsOutside n pre.flatten s := by
  constructor
  · intro h pre
    induction hlength : pre.length using Nat.strong_induction_on generalizing pre with
    | _ length ih =>
      intro hpre hnil
      have hpieces : ∀ piece ∈ pre, piece ≠ [] := fun piece hpiece =>
        hcuts piece (hpre.subset hpiece)
      have hbefore : writePieces n pre s = writeBytes n pre.flatten (s.setStage .stage0) := by
        apply writePieces_eq hn hpieces hnil
        intro pre' hpre' hnil' hne
        have hlt : pre'.length < length := by
          rw [← hlength]
          exact lt_of_le_of_ne hpre'.length_le fun heq => hne (hpre'.eq_of_length heq)
        exact ih pre'.length hlt pre' rfl (hpre'.trans hpre) hnil'
      have hseen := h pre hpre [0x0A] (List.cons_ne_nil _ _)
      rw [written_consoleWrite hn (by simp), writeBytes_append, writePieces, each_append,
        ← writePieces, hbefore] at hseen
      intro drawn t ht
      by_contra hstage
      rw [ht] at hseen
      have hkeeps := writeBytes_kept n pre.flatten (s.setStage .stage0) drawn t ht
      have hlast := shown_andThen_inj hseen
      rw [each_singleton, written_consoleWrite hn (List.cons_ne_nil _ _), writeBytes,
        each_singleton, writeBytes, each_singleton, writeByte_newline hstage] at hlast
      have hconsole := hkeeps.consoles n
      have hlimits := hconsole.limits hsmall
      refine consolePutchar_newline_ne hn (hconsole.initialized.trans hinit)
        (hlimits.small hsmall) (by rw [hlimits.bottom]; exact hbottom) ?_
      rw [← hlast]
      exact (shown_onDisplay _ _).symm
  · intro h pre hpre rest hrest
    have hpieces : ∀ piece ∈ pre ++ [rest], piece ≠ [] := by
      intro piece hpiece
      rcases List.mem_append.mp hpiece with hpiece | hpiece
      · exact hcuts piece (hpre.subset hpiece)
      · rwa [List.mem_singleton.mp hpiece]
    have hflatten : (pre ++ [rest]).flatten = pre.flatten ++ rest := by
      rw [List.flatten_append, List.flatten_singleton]
    rw [writePieces_eq hn hpieces (by simp), hflatten, written_consoleWrite hn (by simp [hrest])]
    intro pre' hpre' hnil hne
    rcases List.prefix_concat_iff.mp hpre' with heq | hpre'
    · exact absurd heq hne
    · exact h pre' (hpre'.trans hpre) hnil

/-- A text and a sequence that are not cut inside. -/
theorem chunking_iff_whole_sequences :
    shown (writePieces 0 [[0x68], [0x1B, 0x5B, 0x6D], [0x69]]
        (initialSystem 100 75 COLOR_WHITE COLOR_BLUE)) =
      shown (Returned.written (consoleWrite 0 [0x68, 0x1B, 0x5B, 0x6D, 0x69]
        (initialSystem 100 75 COLOR_WHITE COLOR_BLUE))) := by
  refine (chunking_iff 0 (by decide) _ rfl ⟨?_, ?_, ?_, ?_⟩ ?_
    [[0x68], [0x1B, 0x5B, 0x6D]] (by simp)).mpr ?_ _ (List.prefix_refl _) [0x69] (by simp)
  · decide
  · decide
  · decide
  · decide
  · decide
  · have hinits : ∀ pre ∈ [[0x68], [0x1B, 0x5B, 0x6D]].inits, pre ≠ [] →
        EndsOutside 0 pre.flatten (initialSystem 100 75 COLOR_WHITE COLOR_BLUE) := by
      decide
    exact fun pre hpre => hinits pre ((List.mem_inits _ _).mpr hpre)

/-- `ESC [ m` byte by byte: the two last bytes are put on the screen. -/
theorem sequence_by_bytes_shown :
    shown (Returned.written (consoleWriteString 0 [0x1B, 0x5B, 0x6D]
        (initialSystem 100 75 COLOR_WHITE COLOR_BLUE))) ≠
      shown (Returned.written (consoleWrite 0 [0x1B, 0x5B, 0x6D]
        (initialSystem 100 75 COLOR_WHITE COLOR_BLUE))) := by
  intro h
  have hdrawn := congrArg (fun p : Painted => p.toOption.map (·.1)) h
  exact absurd hdrawn (by decide)

end Gramado.Tty.Chunking
