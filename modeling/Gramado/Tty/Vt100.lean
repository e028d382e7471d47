import Gramado.Library.Run
import Gramado.Tty.Escape
import Mathlib

/-! Texts with escape sequences as a VT100 reads them. -/

namespace Gramado.Tty.Vt100

open Library.Log Library.Run Tty.Screen Tty.Escape

inductive Final where
  | A
  | B
  | C
  | D
  | H
  | m
  | s
  | u
  deriving DecidableEq, Repr

abbrev Digits := List (Fin 10)

inductive Token where
  | char (ch : UInt8) (printable : 32 ≤ ch ∧ ch ≤ 126)
  | newline
  | sequence (params : List Digits) (final : Final) (length_le : params.length ≤ NPAR)

section Bytes

def Final.byte : Final → UInt8
  | .A => 0x41
  | .B => 0x42
  | .C => 0x43
  | .D => 0x44
  | .H => 0x48
  | .m => 0x6D
  | .s => 0x73
  | .u => 0x75

def digitByte (digit : Fin 10) : UInt8 := UInt8.ofNat (0x30 + digit.val)

def parameterBytes : List Digits → List UInt8
  | [] => []
  | [digits] => digits.map digitByte
  | digits :: next :: rest => digits.map digitByte ++ 0x3B :: parameterBytes (next :: rest)

def Token.bytes : Token → List UInt8
  | .char ch _ => [ch]
  | .newline => [0x0A]
  | .sequence params final _ => [0x1B, 0x5B] ++ parameterBytes params ++ [final.byte]

def textBytes (tokens : List Token) : List UInt8 := tokens.flatMap Token.bytes

theorem Token.bytes_ne_nil (t : Token) : t.bytes ≠ [] := by
  cases t with
  | char ch printable => exact List.cons_ne_nil _ _
  | newline => exact List.cons_ne_nil _ _
  | sequence params final length_le => exact List.cons_ne_nil _ _

end Bytes

section Reading

def number (digits : Digits) : Nat := digits.foldl (fun value digit => 10 * value + digit.val) 0

/-- A number of steps, or a line or column counted from one: a missing one and zero are one. -/
def countAt (params : List Digits) (i : Nat) : Nat := max 1 ((params.map number).getD i 0)

/-- The attributes are applied in the order of the parameters. No parameter is a reset. -/
def selectGraphics (params : List Digits) (c : Console) : Console :=
  match params with
  | [] => defaultColors c
  | _ => (params.map number).foldl (fun c p => setAttribute p c) c

def Console.clippedTo (c : Console) (x y : Nat) : Console :=
  Console.moveTo c (max c.cursorLeft (min (c.cursorRight - 1) x))
    (max c.cursorTop (min (c.cursorBottom - 1) y))

def moveCursor (params : List Digits) (final : Final) (d : Display) (c : Console) : Console :=
  match final with
  | .A => Console.clippedTo c c.cursorX (c.cursorY - countAt params 0)
  | .B => Console.clippedTo c c.cursorX (c.cursorY + countAt params 0)
  | .C => Console.clippedTo c (c.cursorX + countAt params 0) c.cursorY
  | .D => Console.clippedTo c (c.cursorX - countAt params 0) c.cursorY
  | .H => Console.clippedTo c (c.cursorLeft + countAt params 1 - 1)
      (c.cursorTop + countAt params 0 - 1)
  | .m => selectGraphics params c
  | .s => c
  | .u => Console.moveTo c d.savedX.toNat d.savedY.toNat

def saveCursor (final : Final) (c : Console) (d : Display) : Display :=
  match final with
  | .s => { d with savedX := c.cursorX, savedY := c.cursorY }
  | _ => d

def vtStep (n : Nat) (t : Token) (d : Display) : Painted :=
  match t with
  | .char ch _ => consoleEcho ch n d
  | .newline => consolePutchar 0x0A n d
  | .sequence params final _ =>
      silent ((saveCursor final (d.consoles n) d).setConsole n
        (moveCursor params final d (d.consoles n)))

def vtRead (n : Nat) (tokens : List Token) (d : Display) : Painted := each (vtStep n) tokens d

end Reading

/-- A call draws what a VT100 draws, leaves the display as a VT100 does, and leaves the
parser in stage 0. -/
def Agrees (r : Returned) (p : Painted) : Prop :=
  match r, p with
  | .error e, .error e' => e = e'
  | .ok (_, drawn, t), .ok (drawn', d) =>
      drawn = drawn' ∧ t.display = d ∧ t.parser.stage = .stage0
  | _, _ => False

def ReadsText (n : Nat) (tokens : List Token) (s : ConsoleSystem) : Prop :=
  ∀ pre, pre <+: tokens → pre ≠ [] →
    Agrees (consoleWrite n (textBytes pre) s) (vtRead n pre s.display)

/-- What `csi_m` takes for a reset: at most one parameter, or an empty one before the last. -/
def ResetsColors (params : List Digits) : Prop :=
  params.length ≤ 1 ∨ [] ∈ params.dropLast

instance (params : List Digits) : Decidable (ResetsColors params) :=
  inferInstanceAs (Decidable (_ ∨ _))

def Understood (n : Nat) (d : Display) (t : Token) : Prop :=
  match t with
  | .char _ _ => True
  | .newline => True
  | .sequence params final _ =>
      final = .m ∧ selectGraphics params (d.consoles n) =
        if ResetsColors params then defaultColors (d.consoles n) else d.consoles n

variable {p : Parser} {params : List Digits} {w : Written} {drawn : List Drawing}

section Parameters

variable {doEcho : Bool} {n : Nat} {d : Display}

def storeDigits (digits : Digits) (p : Parser) : Parser :=
  digits.foldl (fun p digit => p.setParameter (digitByte digit)) p

def storeParameters : List Digits → Parser → Parser
  | [], p => p
  | [digits], p => storeDigits digits p
  | digits :: next :: rest, p => storeParameters (next :: rest) (storeDigits digits p).nextParameter

def lastCode (digits : Digits) : Nat := digits.foldl (fun _ digit => 0x30 + digit.val) 0

theorem toNat_digitByte (digit : Fin 10) : (digitByte digit).toNat = 0x30 + digit.val := by
  rw [digitByte, UInt8.toNat_ofNat']
  omega

theorem digitByte_bounds (digit : Fin 10) : 0x30 ≤ digitByte digit ∧ digitByte digit ≤ 0x39 := by
  rw [UInt8.le_iff_toNat_le, UInt8.le_iff_toNat_le, toNat_digitByte]
  change 0x30 ≤ 0x30 + digit.val ∧ 0x30 + digit.val ≤ 0x39
  omega

theorem writeParameter_digit (digit : Fin 10) (p : Parser) :
    writeParameter n (digitByte digit) ⟨d, p⟩ = silent ⟨d, p.setParameter (digitByte digit)⟩ := by
  have hbounds := digitByte_bounds digit
  have hne : digitByte digit ≠ 0x3B := by
    intro heq
    rw [heq] at hbounds
    exact absurd hbounds.2 (by decide)
  rw [writeParameter, if_neg (fun h => hne h.1), if_pos hbounds]

theorem writeParameter_separator (hnpar : p.npar < NPAR - 1) :
    writeParameter n 0x3B ⟨d, p⟩ = silent ⟨d, p.nextParameter⟩ := by
  rw [writeParameter, if_pos ⟨rfl, hnpar⟩]

theorem stage_storeDigits (digits : Digits) (p : Parser) :
    (storeDigits digits p).stage = p.stage := by
  induction digits generalizing p with
  | nil => rfl
  | cons digit digits ih => exact ih (p.setParameter (digitByte digit))

theorem npar_storeDigits (digits : Digits) (p : Parser) : (storeDigits digits p).npar = p.npar := by
  induction digits generalizing p with
  | nil => rfl
  | cons digit digits ih => exact ih (p.setParameter (digitByte digit))

theorem par_storeDigits_of_ne (digits : Digits) (p : Parser) {i : Nat} (hi : i ≠ p.npar) :
    (storeDigits digits p).par i = p.par i := by
  induction digits generalizing p with
  | nil => rfl
  | cons digit digits ih =>
      rw [storeDigits, List.foldl_cons]
      refine (ih (p.setParameter (digitByte digit)) hi).trans ?_
      exact if_neg hi

theorem par_storeDigits (digits : Digits) (p : Parser) : (storeDigits digits p).par p.npar =
      digits.foldl (fun _ digit => 0x30 + digit.val) (p.par p.npar) := by
  induction digits generalizing p with
  | nil => rfl
  | cons digit digits ih =>
      refine (ih (p.setParameter (digitByte digit))).trans ?_
      rw [List.foldl_cons]
      congr 1
      exact (if_pos rfl).trans (toNat_digitByte digit)

theorem writeByte_digits (digits : Digits) (hstage : p.stage = .stage3) :
    each (writeByte doEcho n) (digits.map digitByte) ⟨d, p⟩ = silent ⟨d, storeDigits digits p⟩ := by
  induction digits generalizing p with
  | nil => rfl
  | cons digit digits ih =>
      rw [List.map_cons, each_cons, writeByte, hstage]
      dsimp only
      rw [writeParameter_digit, silent_andThen]
      exact ih hstage

theorem writeByte_parameters (params : List Digits) (hstage : p.stage = .stage3)
    (hnpar : p.npar + params.length ≤ NPAR) :
    each (writeByte doEcho n) (parameterBytes params) ⟨d, p⟩ =
      silent ⟨d, storeParameters params p⟩ := by
  induction params generalizing p with
  | nil => rfl
  | cons digits rest ih =>
      cases rest with
      | nil => exact writeByte_digits digits hstage
      | cons next rest =>
          have hstage' := (stage_storeDigits digits p).trans hstage
          rw [List.length_cons, List.length_cons] at hnpar
          rw [parameterBytes, each_append, writeByte_digits digits hstage, silent_andThen,
            each_cons, writeByte, hstage']
          dsimp only
          rw [writeParameter_separator (by rw [npar_storeDigits]; omega), silent_andThen,
            storeParameters]
          apply ih (p := (storeDigits digits p).nextParameter) hstage'
          change (storeDigits digits p).npar + 1 + _ ≤ _
          rw [npar_storeDigits, List.length_cons]
          omega

theorem map_par_storeParameters (params : List Digits) (hpar : ∀ i, p.npar ≤ i → p.par i = 0) :
    (List.range (storeParameters params p).npar).map (storeParameters params p).par =
      (List.range p.npar).map p.par ++ params.dropLast.map lastCode := by
  induction params generalizing p with
  | nil =>
      rw [storeParameters]
      exact (List.append_nil _).symm
  | cons digits rest ih =>
      have hold : (List.range p.npar).map (storeDigits digits p).par =
          (List.range p.npar).map p.par := by
        apply List.map_congr_left
        intro i hi
        have hi := List.mem_range.mp hi
        exact par_storeDigits_of_ne digits p (by omega)
      cases rest with
      | nil =>
          rw [storeParameters, npar_storeDigits, hold]
          exact (List.append_nil _).symm
      | cons next rest =>
          have hlast : (storeDigits digits p).par p.npar = lastCode digits := by
            rw [par_storeDigits, hpar p.npar (Nat.le_refl _), lastCode]
          rw [storeParameters, ih]
          · change (List.range ((storeDigits digits p).npar + 1)).map (storeDigits digits p).par ++
              _ = _
            rw [npar_storeDigits, List.range_succ, List.map_append, hold, List.append_assoc]
            congr 1
            rw [List.map_singleton, hlast]
            rfl
          · intro i hi
            change (storeDigits digits p).npar + 1 ≤ i at hi
            rw [npar_storeDigits] at hi
            change (storeDigits digits p).par i = 0
            rw [par_storeDigits_of_ne digits p (by omega)]
            exact hpar i (by omega)

theorem stage_storeParameters (params : List Digits) (p : Parser) :
    (storeParameters params p).stage = p.stage := by
  induction params generalizing p with
  | nil => rfl
  | cons digits rest ih =>
      cases rest with
      | nil => exact stage_storeDigits digits p
      | cons next rest =>
          rw [storeParameters, ih]
          exact stage_storeDigits digits p

theorem npar_storeParameters (params : List Digits) (p : Parser) :
    (storeParameters params p).npar = p.npar + (params.length - 1) := by
  induction params generalizing p with
  | nil => rfl
  | cons digits rest ih =>
      cases rest with
      | nil => exact npar_storeDigits digits p
      | cons next rest =>
          rw [storeParameters, ih]
          change (storeDigits digits p).npar + 1 + _ = _
          rw [npar_storeDigits]
          simp only [List.length_cons]
          omega

end Parameters

section Attributes

theorem setAttribute_digit (digit : Fin 10) (c : Console) :
    setAttribute (0x30 + digit.val) c = c := by
  unfold setAttribute
  split
  all_goals first
    | rfl
    | omega

theorem setAttribute_lastCode (digits : Digits) (c : Console) :
    setAttribute (lastCode digits) c = if digits = [] then defaultColors c else c := by
  obtain rfl | ⟨before, digit, rfl⟩ := List.eq_nil_or_concat digits
  · rfl
  · rw [lastCode, List.concat_eq_append, List.foldl_append, if_neg (by simp)]
    exact setAttribute_digit digit c

theorem foldl_lastCode (params : List Digits) (c : Console) :
    (params.map lastCode).foldl (fun c p => setAttribute p c) c =
      if [] ∈ params then defaultColors c else c := by
  induction params generalizing c with
  | nil => rfl
  | cons digits params ih =>
      rw [List.map_cons, List.foldl_cons, ih, setAttribute_lastCode]
      by_cases hdigits : digits = []
      · subst hdigits
        rw [if_pos rfl, if_pos List.mem_cons_self]
        split
        · rfl
        · rfl
      · rw [if_neg hdigits]
        simp only [List.mem_cons, Ne.symm hdigits, false_or]

theorem csiAttributes_storeParameters (params : List Digits) (ques : Bool) (c : Console) :
    csiAttributes (storeParameters params (emptyParser ques)) c =
      if ResetsColors params then defaultColors c else c := by
  have hnpar := npar_storeParameters params (emptyParser ques)
  have hmap := map_par_storeParameters params (p := emptyParser ques) fun _ _ => rfl
  change _ = [] ++ params.dropLast.map lastCode at hmap
  change _ = 0 + (params.length - 1) at hnpar
  rw [List.nil_append] at hmap
  rw [csiAttributes]
  by_cases hlength : params.length ≤ 1
  · rw [if_pos (by omega), if_pos (.inl hlength)]
  · have hfold : (List.range (storeParameters params (emptyParser ques)).npar).foldl
        (fun c i => setAttribute ((storeParameters params (emptyParser ques)).par i) c) c =
          (params.dropLast.map lastCode).foldl (fun c p => setAttribute p c) c := by
      rw [← hmap, List.foldl_map]
    rw [if_neg (by omega), hfold, foldl_lastCode]
    simp only [ResetsColors, hlength, false_or]

end Attributes

section Sequences

variable {doEcho : Bool} {n : Nat} {d : Display}

theorem each_stage2 {ch : UInt8} (hch : ch ≠ 0x3F) (rest : List UInt8)
    (hstage : p.stage = .stage2) :
    each (writeByte doEcho n) (ch :: rest) ⟨d, p⟩ =
      each (writeByte doEcho n) (ch :: rest) ⟨d, emptyParser false⟩ := by
  rw [each_cons, each_cons, writeByte, hstage]
  dsimp only
  rw [writeFirstParameter, if_neg hch]
  rfl

theorem parameterBytes_ne (params : List Digits) : ∀ ch ∈ parameterBytes params, ch ≠ 0x3F := by
  have hdigits : ∀ digits : Digits, ∀ ch ∈ digits.map digitByte, ch ≠ 0x3F := by
    intro digits ch hch heq
    obtain ⟨digit, _, hdigit⟩ := List.mem_map.mp hch
    have hbounds := digitByte_bounds digit
    rw [hdigit, heq] at hbounds
    exact absurd hbounds.2 (by decide)
  induction params with
  | nil => exact fun ch hch => absurd hch List.not_mem_nil
  | cons digits rest ih =>
      cases rest with
      | nil => exact hdigits digits
      | cons next rest =>
          intro ch hch
          rw [parameterBytes] at hch
          rcases List.mem_append.mp hch with hch | hch
          · exact hdigits digits ch hch
          · rcases List.mem_cons.mp hch with rfl | hch
            · decide
            · exact ih ch hch

theorem commandOf_byte (final : Final) : commandOf final.byte = some (match final with
      | .A => .up
      | .B => .down
      | .C => .forward
      | .D => .backward
      | .H => .position
      | .m => .graphics
      | .s => .saveCursor
      | .u => .restoreCursor) := by
  cases final
  all_goals decide

theorem writeParameter_final (final : Final) (s : ConsoleSystem) :
    writeParameter n final.byte s = writeCommand n final.byte s := by
  rw [writeParameter, if_neg, if_neg]
  · cases final
    all_goals decide
  · rintro ⟨hch, _⟩
    revert hch
    cases final
    all_goals decide

theorem write_sequence (final : Final) (hlength : params.length ≤ NPAR)
    (hstage : p.stage = .stage0) :
    each (writeByte doEcho n) ([0x1B, 0x5B] ++ parameterBytes params ++ [final.byte]) ⟨d, p⟩ =
      writeCommand n final.byte ⟨d, storeParameters params (emptyParser false)⟩ := by
  have hintroducer : each (writeByte doEcho n) [0x1B, 0x5B] ⟨d, p⟩ =
      silent ⟨d, (p.setStage .stage1).setStage .stage2⟩ := by
    rw [each_cons, writeByte, hstage]
    rfl
  have hstart : ∀ q : Parser, q.stage = .stage2 →
      each (writeByte doEcho n) (parameterBytes params ++ [final.byte]) ⟨d, q⟩ =
        each (writeByte doEcho n) (parameterBytes params ++ [final.byte])
          ⟨d, emptyParser false⟩ := by
    intro q hq
    have hne := parameterBytes_ne params
    generalize parameterBytes params = bytes at hne
    cases bytes with
    | nil => exact each_stage2 (by cases final <;> decide) [] hq
    | cons ch bytes => exact each_stage2 (hne ch List.mem_cons_self) _ hq
  have hfinal : writeByte doEcho n final.byte ⟨d, storeParameters params (emptyParser false)⟩ =
      writeCommand n final.byte ⟨d, storeParameters params (emptyParser false)⟩ := by
    rw [writeByte, stage_storeParameters]
    exact writeParameter_final final _
  calc
    each (writeByte doEcho n) ([0x1B, 0x5B] ++ parameterBytes params ++ [final.byte]) ⟨d, p⟩
        = each (writeByte doEcho n) (parameterBytes params ++ [final.byte])
            ⟨d, (p.setStage .stage1).setStage .stage2⟩ := by
          rw [List.append_assoc, each_append, hintroducer, silent_andThen]
    _ = each (writeByte doEcho n) (parameterBytes params ++ [final.byte])
          ⟨d, emptyParser false⟩ := hstart _ rfl
    _ = writeCommand n final.byte ⟨d, storeParameters params (emptyParser false)⟩ := by
          rw [each_append, writeByte_parameters params rfl (by
            change 0 + _ ≤ _
            omega), silent_andThen, each_singleton, hfinal]

end Sequences

section Tokens

variable {n : Nat} {s : ConsoleSystem}

def Reads (w : Written) (p : Painted) : Prop := Agrees (Written.returning w 0) p

theorem agrees_returning (w : Written) (value : Int) (p : Painted) :
    Agrees (Written.returning w value) p ↔ Reads w p := by
  cases w with
  | error e => exact Iff.rfl
  | ok w =>
      cases p with
      | error e => exact Iff.rfl
      | ok p => exact Iff.rfl

theorem reads_andThen {p : Painted} (h : Reads w p) {next : ConsoleSystem → Written}
    {next' : Display → Painted} :
    Reads (w.andThen next) (p.andThen next') ↔
      Meets w fun _ t => Reads (next t) (next' t.display) := by
  cases w with
  | error e =>
      cases p with
      | error e' => exact iff_of_true h (meets_error e)
      | ok p => exact absurd h id
  | ok w =>
      obtain ⟨drawn, t⟩ := w
      cases p with
      | error e' => exact absurd h id
      | ok p =>
          obtain ⟨drawn', d⟩ := p
          obtain ⟨rfl, rfl, hstage⟩ := h
          have hcancel : Reads (Logged.andThen (.ok (drawn, t)) next)
              (Logged.andThen (.ok (drawn, t.display)) next') ↔
                Reads (next t) (next' t.display) := by
            rw [ok_andThen, ok_andThen]
            generalize next t = w'
            generalize next' t.display = p'
            cases w' with
            | error e =>
                cases p' with
                | error e' => exact Iff.rfl
                | ok p' => exact Iff.rfl
            | ok w' =>
                cases p' with
                | error e' => exact Iff.rfl
                | ok p' =>
                    exact ⟨fun h => ⟨List.append_cancel_left h.1, h.2⟩,
                      fun h => ⟨congrArg (drawn ++ ·) h.1, h.2⟩⟩
          rw [hcancel]
          exact ⟨fun hnext => meets_ok hnext, fun hnext => hnext drawn t rfl⟩

theorem reads_onDisplay (p : Painted) {q : Parser} (hq : q.stage = .stage0) :
    Reads (onDisplay p q) p := by
  cases p with
  | error e => rfl
  | ok p =>
      obtain ⟨drawn, d⟩ := p
      exact ⟨List.append_nil drawn, rfl, hq⟩

theorem setConsole_inj {d : Display} {c c' : Console} :
    d.setConsole n c = d.setConsole n c' ↔ c = c' := by
  constructor
  · intro h
    have hc := congrArg (fun d : Display => d.consoles n) h
    simpa only [Display.consoles_setConsole] using hc
  · rintro rfl
    rfl

theorem reads_sequence (final : Final) (hlength : params.length ≤ NPAR)
    (hfg : s.display.fgConsole = n) {ques : Bool} :
    Reads (writeCommand n final.byte ⟨s.display, storeParameters params (emptyParser ques)⟩)
        (vtStep n (.sequence params final hlength) s.display) ↔
      Understood n s.display (.sequence params final hlength) := by
  rw [writeCommand, commandOf_byte, Understood]
  cases final with
  | A | B | C | D | H | s | u =>
      refine ⟨fun h => ?_, fun h => ?_⟩
      · exact absurd h.2.2 Stage.noConfusion
      · exact absurd h.1 Final.noConfusion
  | m =>
      have hstage : ∀ p : Parser, (p.performed .graphics).stage = .stage0 := fun _ => rfl
      have hcode := csiAttributes_storeParameters params ques (s.display.consoles n)
      change [] ++ [] = [] ∧ s.display.setConsole s.display.fgConsole _ =
        s.display.setConsole n _ ∧ _ ↔ _
      rw [hfg, hcode, setConsole_inj]
      exact ⟨fun h => ⟨rfl, h.2.1.symm⟩, fun h => ⟨rfl, h.2.symm, hstage _⟩⟩

theorem reads_token (t : Token) (hstage : s.parser.stage = .stage0)
    (hfg : s.display.fgConsole = n) :
    Reads (each (writeByte true n) t.bytes s) (vtStep n t s.display) ↔
      Understood n s.display t := by
  obtain ⟨d, p⟩ := s
  cases t with
  | char ch printable =>
      refine iff_of_true ?_ trivial
      rw [Token.bytes, each_singleton, writeByte, hstage]
      dsimp only
      have hch : 32 ≤ ch ∧ ch ≠ 127 := ⟨printable.1, by
        rintro rfl
        exact absurd printable.2 (by decide)⟩
      have hle : ch ≤ 127 := UInt8.le_trans printable.2 (by decide)
      have hesc : ch ≠ 0x1B := by
        rintro rfl
        exact absurd printable.1 (by decide)
      rw [putOutside, if_pos hch, if_pos ⟨rfl, hle⟩, stageOutside, if_neg hesc]
      exact reads_onDisplay _ rfl
  | newline =>
      refine iff_of_true ?_ trivial
      rw [Token.bytes, each_singleton, writeByte, hstage]
      exact reads_onDisplay (consolePutchar 0x0A n d) rfl
  | sequence params final hlength =>
      rw [Token.bytes, write_sequence final hlength hstage]
      exact reads_sequence (s := ⟨d, p⟩) final hlength hfg

theorem reads_token_keeps {t : Token} {u : ConsoleSystem}
    (h : each (writeByte true n) t.bytes s = .ok (drawn, u)) :
    u.display.fgConsole = s.display.fgConsole :=
  each_invariant (fun u : ConsoleSystem => u.display.fgConsole = s.display.fgConsole)
    (fun ch u hu => (writeByte_kept true n ch u).mono fun _ _ hkeep => hkeep.fgConsole.trans hu)
    t.bytes rfl drawn u h

theorem meets_iff_of_reads {p : Painted} (h : Reads w p) (P : Display → Prop) :
    (Meets p fun _ d => P d) ↔ Meets w fun _ t => P t.display := by
  cases w with
  | error e =>
      cases p with
      | error e' => exact iff_of_true (meets_error e') (meets_error e)
      | ok p => exact absurd h id
  | ok w =>
      obtain ⟨drawn, t⟩ := w
      cases p with
      | error e' => exact absurd h id
      | ok p =>
          obtain ⟨drawn', d⟩ := p
          obtain ⟨_, rfl, _⟩ := h
          constructor
          · exact fun hP => meets_ok (hP drawn' t.display rfl)
          · exact fun hP => meets_ok (hP drawn t rfl)

theorem stage_of_reads {p : Painted} (h : Reads w p) {t : ConsoleSystem} (hw : w = .ok (drawn, t)) :
    t.parser.stage = .stage0 := by
  subst hw
  cases p with
  | error e => exact absurd h id
  | ok p => exact h.2.2

theorem textBytes_cons (t : Token) (tokens : List Token) :
    textBytes (t :: tokens) = t.bytes ++ textBytes tokens := rfl

theorem guarded_cons_iff {guard : Display → Token → Prop} (t : Token) (tokens : List Token)
    (d : Display) :
    Guarded (fun d t => vtStep n t d) guard d (t :: tokens) ↔ guard d t ∧
        Meets (vtStep n t d) fun _ d => Guarded (fun d t => vtStep n t d) guard d tokens := by
  rw [Guarded]
  apply and_congr_right
  intro _
  generalize vtStep n t d = p
  cases p with
  | error e => exact iff_of_true trivial (meets_error e)
  | ok p => exact ⟨fun h => meets_ok h, fun h => h p.1 p.2 rfl⟩

theorem reads_prefixes (tokens : List Token) (hstage : s.parser.stage = .stage0)
    (hfg : s.display.fgConsole = n) :
    (∀ pre, pre <+: tokens →
        Reads (each (writeByte true n) (textBytes pre) s) (vtRead n pre s.display)) ↔
      Guarded (fun d t => vtStep n t d) (Understood n) s.display tokens := by
  induction tokens generalizing s with
  | nil =>
      refine iff_of_true ?_ trivial
      intro pre hpre
      rw [List.prefix_nil.mp hpre]
      exact ⟨rfl, rfl, hstage⟩
  | cons t tokens ih =>
      have htoken := reads_token t hstage hfg
      have hcons : ∀ pre, Reads (each (writeByte true n) (textBytes (t :: pre)) s)
          (vtRead n (t :: pre) s.display) ↔ Reads ((each (writeByte true n) t.bytes s).andThen
              (each (writeByte true n) (textBytes pre)))
              ((vtStep n t s.display).andThen (vtRead n pre)) := by
        intro pre
        rw [textBytes_cons, each_append, vtRead, each_cons]
        exact Iff.rfl
      have hrest : Reads (each (writeByte true n) t.bytes s) (vtStep n t s.display) →
          ((∀ pre, pre <+: tokens → Reads (each (writeByte true n) (textBytes (t :: pre)) s)
            (vtRead n (t :: pre) s.display)) ↔ Meets (vtStep n t s.display) fun _ d =>
                Guarded (fun d t => vtStep n t d) (Understood n) d tokens) := by
        intro hfirst
        rw [meets_iff_of_reads hfirst
          (Guarded (fun d t => vtStep n t d) (Understood n) · tokens)]
        simp only [hcons, reads_andThen hfirst]
        constructor
        · intro h drawn u hu
          have hfg' := (reads_token_keeps hu).trans hfg
          exact (ih (stage_of_reads hfirst hu) hfg').mp fun pre hpre => h pre hpre drawn u hu
        · intro h pre hpre drawn u hu
          have hfg' := (reads_token_keeps hu).trans hfg
          exact (ih (stage_of_reads hfirst hu) hfg').mpr (h drawn u hu) pre hpre
      rw [guarded_cons_iff]
      constructor
      · intro h
        have hfirst : Reads (each (writeByte true n) t.bytes s) (vtStep n t s.display) := by
          have hsingle := (hcons []).mp (h [t] ⟨tokens, rfl⟩)
          rwa [show each (writeByte true n) (textBytes []) = silent from rfl,
            show vtRead n [] = silent from rfl, andThen_silent, andThen_silent] at hsingle
        refine ⟨htoken.mp hfirst, (hrest hfirst).mp ?_⟩
        exact fun pre hpre => h (t :: pre) (List.cons_prefix_cons.mpr ⟨rfl, hpre⟩)
      · rintro ⟨hunderstood, htail⟩ pre hpre
        have hfirst := htoken.mpr hunderstood
        rcases List.prefix_cons_iff.mp hpre with rfl | ⟨pre', rfl, hpre'⟩
        · exact ⟨rfl, rfl, hstage⟩
        · exact (hrest hfirst).mpr htail pre' hpre'

theorem readsText_iff_reads (hn : n < CONSOLETTYS_COUNT_MAX)
    (hecho : (s.display.consoles n).echo = true) (tokens : List Token) :
    ReadsText n tokens s ↔ ∀ pre, pre <+: tokens →
      Reads (each (writeByte true n) (textBytes pre) (s.setStage .stage0))
        (vtRead n pre s.display) := by
  have hcall : ∀ pre, pre ≠ [] →
      (Agrees (consoleWrite n (textBytes pre) s) (vtRead n pre s.display) ↔
        Reads (each (writeByte true n) (textBytes pre) (s.setStage .stage0))
          (vtRead n pre s.display)) := by
    intro pre hpre
    have hne : textBytes pre ≠ [] := by
      obtain ⟨t, pre, rfl⟩ := List.exists_cons_of_ne_nil hpre
      rw [textBytes_cons]
      exact fun h => t.bytes_ne_nil (List.append_eq_nil_iff.mp h).1
    rw [consoleWrite, if_neg (Nat.not_le.mpr hn), if_neg hne, writeBytes, agrees_returning]
    rw [show ((s.setStage .stage0).display.consoles n).echo = true from hecho]
  constructor
  · intro h pre hpre
    by_cases hnil : pre = []
    · rw [hnil]
      exact ⟨rfl, rfl, rfl⟩
    · exact (hcall pre hnil).mp (h pre hpre hnil)
  · intro h pre hpre hnil
    exact (hcall pre hnil).mpr (h pre hpre)

theorem not_readsText (hn : n < CONSOLETTYS_COUNT_MAX) (hfg : s.display.fgConsole = n)
    (hecho : (s.display.consoles n).echo = true) {tokens : List Token}
    (h : ¬ Guarded (fun d t => vtStep n t d) (Understood n) s.display tokens) :
    ¬ ReadsText n tokens s := by
  rw [readsText_iff_reads hn hecho]
  exact fun hreads => h ((reads_prefixes (s := s.setStage .stage0) tokens rfl hfg).mp hreads)

end Tokens

instance (n : Nat) (d : Display) : (t : Token) → Decidable (Understood n d t)
  | .char _ _ => inferInstanceAs (Decidable True)
  | .newline => inferInstanceAs (Decidable True)
  | .sequence _ _ _ => inferInstanceAs (Decidable (_ ∧ _))

/-- A call with a text, and with everything that the text begins with, does what a VT100 does
exactly if no sequence moves the cursor, and the attributes of every sequence are those of a
reset or change nothing, as it has no or has one parameter or an empty one before the last. -/
theorem vt100_iff (n : Nat) (hn : n < CONSOLETTYS_COUNT_MAX) (s : ConsoleSystem)
    (hfg : s.display.fgConsole = n) (hecho : (s.display.consoles n).echo = true)
    (tokens : List Token) :
    ReadsText n tokens s ↔
      Guarded (fun d t => vtStep n t d) (Understood n) s.display tokens := by
  rw [readsText_iff_reads hn hecho]
  exact reads_prefixes (s := s.setStage .stage0) tokens rfl hfg

/-- A character, a new line and a reset. -/
theorem vt100_iff_reset :
    ReadsText 0 [.char 0x68 (by decide), .newline, .sequence [] .m (by decide)]
      (initialSystem 100 75 COLOR_WHITE COLOR_BLUE) :=
  (vt100_iff 0 (by decide) _ rfl rfl _).mpr (by decide)

/-- `ESC [ 3 1 m` is a reset, and the parser still waits for a command behind `ESC [ 5 A`. -/
theorem color_becomes_reset :
    ¬ ReadsText 0 [.sequence [[3, 1]] .m (by decide)]
        (initialSystem 100 75 COLOR_WHITE COLOR_BLUE) ∧
      ¬ ReadsText 0 [.sequence [[5]] .A (by decide)]
        (initialSystem 100 75 COLOR_WHITE COLOR_BLUE) := by
  constructor
  · refine not_readsText (s := initialSystem 100 75 COLOR_WHITE COLOR_BLUE) (by decide) rfl rfl ?_
    decide
  · refine not_readsText (s := initialSystem 100 75 COLOR_WHITE COLOR_BLUE) (by decide) rfl rfl ?_
    decide

end Gramado.Tty.Vt100
