import Gramado.Gramcnf.Printing

namespace Gramado.Gramcnf.Scanning

open Rtl.Strings
open Rtl.Stream (EOF)
open Rtl.Decimal Gramcnf.Lexer Gramcnf.Printing

def read (t : Lexeme) (l : Scanner) (rest : Text) : Int × Scanner :=
  match t with
  | .word text =>
      identifier { l with finput := characters rest, real_token_buffer := text }
  | .constant n =>
      (TK_CONSTANT, { l with finput := characters rest, real_token_buffer := decimal n })
  | .string text =>
      (TK_STRING, { l with finput := characters rest, real_token_buffer := text })
  | .separator c =>
      (TK_SEPARATOR, { l with finput := characters rest, real_token_buffer := [c] })

variable {c : UInt8} {text : Text}

section Characters

theorem ofInt_toNat (d : UInt8) : UInt8.ofInt (d.toNat : Int) = d := by
  have hlt := d.toNat_lt
  have hmod : ((d.toNat : Int) % 2 ^ 8).toNat = d.toNat := by
    omega
  rw [UInt8.ofInt, hmod, UInt8.ofNat_toNat]

theorem ungetc_toNat (h : c.toNat < 128) (finput : List Int) :
    ungetc c.toNat finput = (c.toNat : Int) :: finput := by
  have hne : ¬ (c.toNat : Int) = EOF := by
    rw [EOF]
    omega
  rw [ungetc, if_neg hne, Int.bmod_eq_of_le (by omega) (by omega)]

theorem collect_text {accept : Int → Bool} {c : Int} (finput : List Int)
    (hall : ∀ d ∈ text, accept d.toNat = true) (hc : accept c = false) :
    ∀ {room : Nat}, text.length ≤ room →
      collect accept room (characters text ++ c :: finput) = .ok (text, c, finput) := by
  induction text with
  | nil =>
      intro room _
      cases room with
      | zero =>
          change (if accept c = true then _ else _) = _
          rw [if_neg (by rw [hc]; decide)]
          rfl
      | succ room =>
          change (if accept c = true then _ else _) = _
          rw [if_neg (by rw [hc]; decide)]
          rfl
  | cons d text ih =>
      intro room hroom
      cases room with
      | zero => cases hroom
      | succ room =>
          have hrest := ih (fun e he => hall e (List.mem_cons_of_mem _ he))
            (Nat.le_of_succ_le_succ hroom)
          change (if accept d.toNat = true then
            (collect accept room (characters text ++ c :: finput) >>= fun r =>
              Except.ok (UInt8.ofInt d.toNat :: r.1, r.2.1, r.2.2)) else _) = _
          rw [if_pos (hall d List.mem_cons_self), hrest, ofInt_toNat]
          rfl

theorem skip_char (h : ¬ LayoutHead c) (rest : Text) :
    skipWhiteSpace .code (characters (c :: rest)) = .ok ((c.toNat : Int), characters rest) := by
  simp only [LayoutHead, not_or] at h
  obtain ⟨hblank, hnewline, hslash⟩ := h
  have hskip : ¬ (blank (c.toNat : Int) || decide ((c.toNat : Int) = 10)) = true := by
    rw [Bool.or_eq_true, decide_eq_true_eq, not_or]
    exact ⟨hblank, by omega⟩
  rw [characters_cons, skipWhiteSpace, if_neg hskip, if_neg (by omega)]

theorem token_head {t : Lexeme} (ht : t.Fits) :
    ∃ c body, t.text = c :: body ∧ ¬ LayoutHead c ∧ c.toNat < 128 := by
  cases t with
  | word text =>
      obtain ⟨⟨c, rest, htext, hstarts, -⟩, -⟩ := ht
      refine ⟨c, rest, htext, ?_⟩
      simp only [starts, Bool.or_eq_true, Bool.and_eq_true, decide_eq_true_eq] at hstarts
      simp only [LayoutHead, blank, Bool.or_eq_true, decide_eq_true_eq]
      omega
  | constant n =>
      rcases Nat.eq_zero_or_pos n with rfl | hpos
      · exact ⟨48, [], decimal_of_lt (by decide), by simp [LayoutHead, blank], by decide⟩
      · obtain ⟨c, rest, hdecimal, hlow, hhigh, -⟩ := decimal_shape n hpos
        refine ⟨c, rest, hdecimal, ?_⟩
        simp only [LayoutHead, blank, Bool.or_eq_true, decide_eq_true_eq]
        omega
  | string text => exact ⟨34, text ++ [34], rfl, by simp [LayoutHead, blank], by decide⟩
  | separator c =>
      refine ⟨c, [], rfl, ?_⟩
      have hc : (c.toNat : Int) ∈ separators := ht
      simp only [separators, List.mem_cons, List.not_mem_nil, or_false] at hc
      simp only [LayoutHead, blank, Bool.or_eq_true, decide_eq_true_eq]
      omega

theorem printed_head {u : Lexeme} {ts : List Lexeme} (h : Printed (u :: ts) text) (hu : u.Fits) :
    ∃ c rest, text = c :: rest ∧ c.toNat < 128 ∧ (LayoutHead c ∨ ∃ body, u.text = c :: body) := by
  cases h with
  | @token _ _ w text hw _ _ =>
      cases w with
      | nil =>
          obtain ⟨c, body, hbody, -, hc⟩ := token_head hu
          refine ⟨c, body ++ text, ?_, hc, .inr ⟨body, hbody⟩⟩
          rw [List.nil_append, hbody, List.cons_append]
      | cons c w =>
          have hhead := layout_head hw c rfl
          exact ⟨c, w ++ u.text ++ text, rfl, layoutHead_lt hhead, .inl hhead⟩

end Characters

section Tokens

variable {l : Scanner} {c e : UInt8} {text rest : Text}

theorem scan_word (hstarts : starts c.toNat = true)
    (htext : ∀ d ∈ text, continues d.toNat = true) (hlength : text.length ≤ MAXTOKEN - 2)
    (hend : continues e.toNat = false) (he : e.toNat < 128) :
    scanToken c.toNat { l with finput := characters (text ++ e :: rest) } =
      .ok (read (.word (c :: text)) l (e :: rest)) := by
  have hne : ¬ ((c.toNat : Int) = EOF ∨ (c.toNat : Int) = 0) := by
    simp only [starts, Bool.or_eq_true, Bool.and_eq_true, decide_eq_true_eq] at hstarts
    rw [EOF]
    omega
  rw [scanToken, if_neg hne, if_pos hstarts, scanWord, characters_append, characters_cons,
    collect_text _ htext hend hlength]
  change Except.ok (identifier { l with
    finput := ungetc e.toNat (characters rest)
    real_token_buffer := UInt8.ofInt c.toNat :: text }) = _
  rw [ungetc_toNat he, ofInt_toNat]
  rfl

theorem scan_constant (hc : 49 ≤ c.toNat ∧ c.toNat ≤ 57)
    (htext : ∀ d ∈ text, 48 ≤ d.toNat ∧ d.toNat ≤ 57) (hlength : text.length ≤ MAXTOKEN - 2)
    (hend : isdigit e.toNat = false) (he : e.toNat < 128) :
    scanToken c.toNat { l with finput := characters (text ++ e :: rest) } = .ok (TK_CONSTANT,
        { l with finput := characters (e :: rest), real_token_buffer := c :: text }) := by
  have hne : ¬ ((c.toNat : Int) = EOF ∨ (c.toNat : Int) = 0) := by
    rw [EOF]
    omega
  have hstarts : ¬ starts c.toNat = true := by
    simp only [starts, Bool.or_eq_true, Bool.and_eq_true, decide_eq_true_eq]
    omega
  have hdigits : ∀ d : UInt8, 48 ≤ d.toNat ∧ d.toNat ≤ 57 → isdigit d.toNat = true := by
    intro d hd
    simp only [isdigit, Bool.and_eq_true, decide_eq_true_eq]
    omega
  rw [scanToken, if_neg hne, if_neg hstarts, if_pos (hdigits c ⟨by omega, hc.2⟩), scanConstant,
    if_neg (by omega), characters_append, characters_cons,
    collect_text _ (fun d hd => hdigits d (htext d hd)) hend hlength]
  change Except.ok (TK_CONSTANT, { l with
    finput := ungetc e.toNat (characters rest)
    real_token_buffer := UInt8.ofInt c.toNat :: text }) = _
  rw [ungetc_toNat he, ofInt_toNat]

theorem scan_zero (he : e.toNat ≠ 120 ∧ e.toNat ≠ 88) :
    scanToken 48 { l with finput := characters (e :: rest) } =
      .error (.exit 1 "yylex: FAIL expected x in constant in line %") := by
  have hx : ¬ ((e.toNat : Int) = 120 ∨ (e.toNat : Int) = 88) := by
    omega
  rw [scanToken, if_neg (by decide), if_neg (by decide), if_pos (by decide), scanConstant,
    if_pos rfl]
  exact if_neg hx

theorem scan_string (htext : 34 ∉ text) (hlength : text.length ≤ MAXTOKEN - 1) :
    scanToken 34 { l with finput := characters (text ++ 34 :: rest) } =
      .ok (read (.string text) l rest) := by
  have hall : ∀ d ∈ text, decide ((d.toNat : Int) ≠ 34) = true := by
    intro d hd
    refine decide_eq_true fun h => htext ?_
    obtain rfl : d = 34 := by
      refine UInt8.toNat_inj.mp ?_
      change d.toNat = 34
      omega
    exact hd
  rw [scanToken, if_neg (by decide), if_neg (by decide), if_neg (by decide), if_pos rfl,
    scanString, characters_append, characters_cons]
  have hcollect : collect (fun c => decide (c ≠ 34)) (MAXTOKEN - 1)
      (characters text ++ 34 :: characters rest) = .ok (text, 34, characters rest) :=
    collect_text (characters rest) hall (by decide) hlength
  change (collect (fun c => decide (c ≠ 34)) (MAXTOKEN - 1)
    (characters text ++ 34 :: characters rest) >>= _) = _
  rw [hcollect]
  rfl

theorem scan_separator (hc : (c.toNat : Int) ∈ separators) :
    scanToken c.toNat { l with finput := characters rest } = .ok (read (.separator c) l rest) := by
  have hrange := hc
  simp only [separators, List.mem_cons, List.not_mem_nil, or_false] at hrange
  have hne : ¬ ((c.toNat : Int) = EOF ∨ (c.toNat : Int) = 0) := by
    rw [EOF]
    omega
  have hstarts : ¬ starts c.toNat = true := by
    simp only [starts, Bool.or_eq_true, Bool.and_eq_true, decide_eq_true_eq]
    omega
  have hdigit : ¬ isdigit c.toNat = true := by
    simp only [isdigit, Bool.and_eq_true, decide_eq_true_eq]
    omega
  rw [scanToken, if_neg hne, if_neg hstarts, if_neg hdigit, if_neg (by omega), if_pos hc,
    ofInt_toNat]
  rfl

end Tokens

section Reading

variable {l : Scanner} {t u : Lexeme} {ts : List Lexeme} {text : Text}

theorem yylex_layout {w : Text} {body : Text} (hw : Layout w) (hc : ¬ LayoutHead c)
    (hl : l.finput = characters (w ++ c :: body)) :
    yylex l = scanToken c.toNat { l with finput := characters body } := by
  rw [yylex, hl, skip_layout hw, skip_char hc]
  rfl

theorem yylex_printed (h : Printed (t :: u :: ts) text) (hl : l.finput = characters text)
    (ht : t.Fits) (hu : u.Fits) (hzero : t ≠ .constant 0) :
    ∃ rest, Printed (u :: ts) rest ∧ yylex l = .ok (read t l rest) := by
  cases h with
  | @token _ _ w rest hw hrest hends =>
      obtain ⟨e, after, rfl, he, -⟩ := printed_head hrest hu
      have hend := hends e rfl
      refine ⟨e :: after, hrest, ?_⟩
      obtain ⟨c, body, htext, hc, -⟩ := token_head ht
      rw [List.append_assoc, htext, List.cons_append] at hl
      rw [yylex_layout hw hc hl]
      cases t with
      | word word =>
          obtain ⟨⟨d, tail, rfl, hstarts, htail⟩, hlength⟩ := ht
          obtain ⟨rfl, rfl⟩ := List.cons.inj htext
          exact scan_word hstarts htail
            (by rw [MAXTOKEN] at *; rw [List.length_cons] at hlength; omega) hend he
      | constant n =>
          have hpos : 0 < n := by
            rcases Nat.eq_zero_or_pos n with rfl | hpos
            · exact absurd rfl hzero
            · exact hpos
          obtain ⟨d, tail, hdecimal, hlow, hhigh, htail⟩ := decimal_shape n hpos
          have hlength := decimal_length ht
          obtain ⟨rfl, rfl⟩ := List.cons.inj (hdecimal.symm.trans htext)
          rw [hdecimal, List.length_cons] at hlength
          rw [read, hdecimal]
          exact scan_constant ⟨hlow, hhigh⟩ htail (by rw [MAXTOKEN]; omega) hend he
      | string string =>
          obtain ⟨hfree, hlength⟩ := ht
          obtain ⟨rfl, rfl⟩ := List.cons.inj htext
          have happend : List.append string [34] ++ e :: after = string ++ 34 :: e :: after :=
            List.append_assoc string [34] (e :: after)
          rw [happend]
          exact scan_string hfree (by rw [MAXTOKEN] at *; omega)
      | separator d =>
          obtain ⟨rfl, rfl⟩ := List.cons.inj htext
          exact scan_separator ht

theorem yylex_separator (h : Printed (.separator c :: ts) text) (hl : l.finput = characters text)
    (hc : (Lexeme.separator c).Fits) :
    ∃ rest, Printed ts rest ∧ yylex l = .ok (read (.separator c) l rest) := by
  cases h with
  | @token _ _ w rest hw hrest _ =>
      obtain ⟨d, body, htext, hd, -⟩ := token_head hc
      obtain ⟨rfl, rfl⟩ := List.cons.inj htext
      rw [List.append_assoc] at hl
      exact ⟨rest, hrest, (yylex_layout hw hd hl).trans (scan_separator hc)⟩

theorem yylex_zero (h : Printed (.constant 0 :: .separator c :: ts) text)
    (hl : l.finput = characters text) (hc : (Lexeme.separator c).Fits) :
    yylex l = .error (.exit 1 "yylex: FAIL expected x in constant in line %") := by
  cases h with
  | @token _ _ w rest hw hrest _ =>
      obtain ⟨e, after, rfl, -, hhead⟩ := printed_head hrest hc
      have he : e.toNat ≠ 120 ∧ e.toNat ≠ 88 := by
        rcases hhead with hhead | ⟨body, hbody⟩
        · simp only [LayoutHead, blank, Bool.or_eq_true, decide_eq_true_eq] at hhead
          omega
        · obtain ⟨rfl, -⟩ := List.cons.inj hbody
          have hin : (c.toNat : Int) ∈ separators := hc
          simp only [separators, List.mem_cons, List.not_mem_nil, or_false] at hin
          omega
      have hzero : (48 : UInt8).toNat = 48 := rfl
      rw [List.append_assoc] at hl
      refine (yylex_layout (c := 48) hw (by simp [LayoutHead, blank]) hl).trans ?_
      exact scan_zero he

def Ahead (l : Scanner) (ts : List Lexeme) : Prop :=
  ∃ text, Printed ts text ∧ l.finput = characters text

theorem ahead_word {word : Text} (h : Ahead l (.word word :: u :: ts))
    (hword : (Lexeme.word word).Fits) (hu : u.Fits) :
    ∃ l', yylex l = .ok (identifier l') ∧ l'.real_token_buffer = word ∧
      l'.type_found = l.type_found ∧ Ahead l' (u :: ts) := by
  obtain ⟨text, hprinted, hl⟩ := h
  obtain ⟨rest, hrest, hlex⟩ := yylex_printed hprinted hl hword hu nofun
  exact ⟨_, hlex, rfl, rfl, rest, hrest, rfl⟩

theorem ahead_string {string : Text} (h : Ahead l (.string string :: u :: ts))
    (hstring : (Lexeme.string string).Fits) (hu : u.Fits) :
    ∃ l', yylex l = .ok (TK_STRING, l') ∧ l'.real_token_buffer = string ∧
      l'.type_found = l.type_found ∧ Ahead l' (u :: ts) := by
  obtain ⟨text, hprinted, hl⟩ := h
  obtain ⟨rest, hrest, hlex⟩ := yylex_printed hprinted hl hstring hu nofun
  exact ⟨_, hlex, rfl, rfl, rest, hrest, rfl⟩

theorem ahead_constant {n : Nat} (h : Ahead l (.constant n :: u :: ts)) (hn : n < 2 ^ 31)
    (hu : u.Fits) (hzero : n ≠ 0) :
    ∃ l', yylex l = .ok (TK_CONSTANT, l') ∧ l'.real_token_buffer = decimal n ∧
      Ahead l' (u :: ts) := by
  obtain ⟨text, hprinted, hl⟩ := h
  obtain ⟨rest, hrest, hlex⟩ := yylex_printed hprinted hl hn hu
    fun he => hzero (Lexeme.constant.inj he)
  exact ⟨_, hlex, rfl, rest, hrest, rfl⟩

theorem ahead_separator (h : Ahead l (.separator c :: ts)) (hc : (Lexeme.separator c).Fits) :
    ∃ l', yylex l = .ok (TK_SEPARATOR, l') ∧ l'.real_token_buffer = [c] ∧
      l'.type_found = l.type_found ∧ Ahead l' ts := by
  obtain ⟨text, hprinted, hl⟩ := h
  obtain ⟨rest, hrest, hlex⟩ := yylex_separator hprinted hl hc
  exact ⟨_, hlex, rfl, rfl, rest, hrest, rfl⟩

theorem ahead_tail (h : Ahead l (t :: ts)) : ∃ rest, Ahead { l with finput := rest } ts := by
  obtain ⟨text, hprinted, hl⟩ := h
  cases hprinted with
  | @token _ _ w rest hw hrest _ => exact ⟨characters rest, rest, hrest, rfl⟩

end Reading

end Gramado.Gramcnf.Scanning
