import Gramado.Gramcnf.Scanning
import Gramado.Library.CheckedRead

/-! What the lexer makes of tokens that blanks separate. -/

namespace Gramado.Gramcnf.Tokens

open Rtl.Strings
open Rtl.Stream (EOF)
open Library.CheckedRead (ok_bind)
open Library.Run Gramcnf.Lexer
open Gramcnf.Printing (characters characters_append characters_cons)
open Gramcnf.Scanning (ofInt_toNat ungetc_toNat collect_text)

def operatorClasses : List (Text × Int) := [
  (bytes "+", 43), (bytes "-", 45), (bytes "*", 42), (bytes "/", 47), (bytes "&", 38),
  (bytes "|", 124), (bytes "%", 37), (bytes "^", 94), (bytes "!", 33), (bytes "=", 61),
  (bytes "<", TK_ARITHCOMPARE), (bytes ">", TK_ARITHCOMPARE), (bytes "<=", TK_ARITHCOMPARE),
  (bytes ">=", TK_ARITHCOMPARE), (bytes "==", TK_EQCOMPARE), (bytes "!=", TK_EQCOMPARE),
  (bytes "+=", TK_ASSIGN), (bytes "-=", TK_ASSIGN), (bytes "*=", TK_ASSIGN),
  (bytes "/=", TK_ASSIGN), (bytes "&=", TK_ASSIGN), (bytes "|=", TK_ASSIGN),
  (bytes "%=", TK_ASSIGN), (bytes "^=", TK_ASSIGN), (bytes "++", TK_PLUSPLUS),
  (bytes "--", TK_MINUSMINUS), (bytes "&&", TK_ANDAND), (bytes "||", TK_OROR),
  (bytes "<<", TK_LSHIFT), (bytes ">>", TK_RSHIFT), (bytes "->", TK_POINTSAT)]

inductive Token where
  | word (text : Text)
  | decimal (text : Text)
  | hexadecimal (x : UInt8) (text : Text)
  | string (text : Text)
  | separator (c : UInt8)
  | operator (text : Text)
  deriving DecidableEq

namespace Token

def text : Token → Text
  | word text => text
  | decimal text => text
  | hexadecimal x text => 48 :: x :: text
  | string text => 34 :: text ++ [34]
  | separator c => [c]
  | operator text => text

def WellFormed (t : Token) : Prop :=
  t.text.length ≤ 255 ∧
    match t with
    | word text => ∃ c rest, text = c :: rest ∧ starts c.toNat = true ∧
        ∀ d ∈ rest, continues d.toNat = true
    | decimal text => text ≠ [] ∧ ∀ d ∈ text, isdigit d.toNat = true
    | hexadecimal x text => (x = 120 ∨ x = 88) ∧ ∀ d ∈ text, isxdigit d.toNat = true
    | string text => 34 ∉ text
    | separator c => (c.toNat : Int) ∈ separators
    | operator text => ∃ k, (text, k) ∈ operatorClasses

def reservedClass : Reserved → Int
  | .modifier _ => TK_MODIFIER
  | .type _ _ => TK_TYPE
  | .keyword _ => TK_KEYWORD

def wordClass (text : Text) : Int :=
  match reservedWords.lookup text with
  | none => TK_IDENTIFIER
  | some kind => reservedClass kind

def tokenClass : Token → Int
  | word text => wordClass text
  | decimal _ => TK_CONSTANT
  | hexadecimal _ _ => TK_CONSTANT
  | string _ => TK_STRING
  | separator _ => TK_SEPARATOR
  | operator text => (operatorClasses.lookup text).getD 0

def spelling : Token → Text
  | string text => text
  | t => t.text

def buffer (old : Text) : Token → Text
  | operator _ => old
  | t => t.spelling

end Token

def Token.Readable (t : Token) : Prop :=
  t.WellFormed ∧ ∀ text, t = .decimal text → text.head? ≠ some 48

def Blank (c : UInt8) : Prop := blank c.toNat = true ∨ c.toNat = 10

instance (c : UInt8) : Decidable (Blank c) := inferInstanceAs (Decidable (_ ∨ _))

def Apart (_ : Token) (rest : Text) : Prop := ∀ c ∈ rest.head?, Blank c

def ApartInFile (t : Token) (rest : Text) : Prop :=
  Apart t rest ∧ ∀ text, t = .word text → rest ≠ []

inductive Spaced (apart : Token → Text → Prop) : List Token → Text → Prop where
  | done {w : Text} : (∀ c ∈ w, Blank c) → Spaced apart [] w
  | token {t : Token} {ts : List Token} {w rest : Text} : (∀ c ∈ w, Blank c) →
      Spaced apart ts rest → apart t rest → Spaced apart (t :: ts) (w ++ (t.text ++ rest))

def lex (l : Scanner) (_ : Unit) : Except Stop ((Int × Text) × Scanner) := do
  let (c, l) ← yylex l
  .ok ((c, l.real_token_buffer), l)

def readings : Text → List Token → List (Int × Text)
  | _, [] => []
  | old, t :: ts => (t.tokenClass, t.buffer old) :: readings (t.buffer old) ts

def lastBuffer (old : Text) (ts : List Token) : Text := ts.foldl Token.buffer old

variable {c : UInt8} {w word rest : Text} {again : Nat} {finput : List Int} {k : Int} {t : Token}

section Characters

theorem blank_range (h : Blank c) : c.toNat < 33 ∧ 8 ≤ c.toNat ∧ c.toNat ≠ 19 ∧ c.toNat ≠ 20 := by
  simp only [Blank, blank, Bool.or_eq_true, decide_eq_true_eq] at h
  omega

theorem skip_blanks (hw : ∀ c ∈ w, Blank c) (rest : Text) :
    skipWhiteSpace .code (characters (w ++ rest)) = skipWhiteSpace .code (characters rest) := by
  induction w with
  | nil => rfl
  | cons c w ih =>
      obtain ⟨hc, hw⟩ := List.forall_mem_cons.mp hw
      have hskip : (blank (c.toNat : Int) || decide ((c.toNat : Int) = 10)) = true := by
        rw [Bool.or_eq_true, decide_eq_true_eq]
        exact hc.imp_right fun h => by omega
      rw [List.cons_append, characters_cons, skipWhiteSpace, if_pos hskip]
      exact ih hw

variable {rest : Text}

theorem behind (h : ∀ c ∈ rest.head?, Blank c) :
    (rest = [] ∨ ∃ c tail, rest = c :: tail ∧ Blank c) := by
  cases rest with
  | nil => exact .inl rfl
  | cons c tail => exact .inr ⟨c, tail, rfl, h c rfl⟩

theorem peek_range (h : ∀ c ∈ rest.head?, Blank c) :
    (getc (characters rest)).1 < 33 ∧ -1 ≤ (getc (characters rest)).1 ∧
      (getc (characters rest)).1 ≠ 19 ∧ (getc (characters rest)).1 ≠ 20 := by
  rcases behind h with rfl | ⟨c, tail, rfl, hc⟩
  · decide
  · have hrange := blank_range hc
    rw [characters_cons, getc]
    dsimp only
    omega

theorem unread (h : ∀ c ∈ rest.head?, c.toNat < 128) :
    ungetc (getc (characters rest)).1 (getc (characters rest)).2 = characters rest := by
  cases rest with
  | nil => rfl
  | cons c tail => exact ungetc_toNat (h c rfl) (characters tail)

theorem unread_blank (h : ∀ c ∈ rest.head?, Blank c) :
    ungetc (getc (characters rest)).1 (getc (characters rest)).2 = characters rest :=
  unread fun c hc => Nat.lt_trans (blank_range (h c hc)).1 (by decide)

theorem collect_token {accept : Int → Bool} {text : Text} {room : Nat}
    (hall : ∀ d ∈ text, accept d.toNat = true)
    (hend : accept (getc (characters rest)).1 = false) (hlength : text.length ≤ room) :
    collect accept room (characters (text ++ rest)) =
      .ok (text, (getc (characters rest)).1, (getc (characters rest)).2) := by
  rw [characters_append]
  cases rest with
  | cons c rest => exact collect_text (characters rest) hall hend hlength
  | nil =>
      change collect accept room (characters text ++ []) = _
      rw [List.append_nil]
      induction text generalizing room with
      | nil =>
          cases room with
          | zero => exact if_neg (by rw [Bool.not_eq_true]; exact hend)
          | succ room => exact if_neg (by rw [Bool.not_eq_true]; exact hend)
      | cons d text ih =>
          cases room with
          | zero => cases hlength
          | succ room =>
              obtain ⟨hd, hall⟩ := List.forall_mem_cons.mp hall
              rw [characters_cons, collect, getc]
              dsimp only
              rw [if_pos hd, ih hall (Nat.le_of_succ_le_succ hlength), ok_bind, ofInt_toNat]

end Characters

section Operators

variable {c : Int} {l : Scanner}

theorem combine_single {again : Nat} (hassign : (getc l.finput).1 ≠ 61)
    (hdouble : (getc l.finput).1 ≠ c) (hpoint : (getc l.finput).1 ≠ 62)
    (hunread : ungetc (getc l.finput).1 (getc l.finput).2 = l.finput) :
    combine (again + 1) c l = (if c = 60 ∨ c = 62 then TK_ARITHCOMPARE else c,
        { l with lexer_expression := (expressions.lookup c).getD l.lexer_expression }) := by
  rw [combine]
  dsimp only
  rw [if_neg hassign, if_neg (fun h => hdouble h.1.symm), if_neg (fun h => hdouble h.1.symm),
    if_neg (fun h => hdouble h.1.symm), if_neg (fun h => hpoint h.2), hunread]
  split_ifs
  · rfl
  · rfl

theorem combine_assigned {again : Nat} {finput : List Int} (hl : l.finput = 61 :: finput) :
    ∃ e, combine (again + 1) c l =
      ((assigned c l).1, { l with finput := finput, lexer_expression := e }) := by
  rw [combine, hl, getc]
  dsimp only
  rw [if_pos rfl, assigned, assigned]
  split_ifs
  · exact ⟨_, rfl⟩
  · exact ⟨_, rfl⟩
  · exact ⟨_, rfl⟩
  · exact ⟨_, rfl⟩
  · exact ⟨_, rfl⟩

theorem combine_doubled (hl : l.finput = c :: finput) (hne : c ≠ 61)
    (hk : doubled.lookup c = some k) :
    ∃ e, combine (again + 1) c l = (k, { l with finput := finput, lexer_expression := e }) := by
  refine ⟨(expressions.lookup c).getD l.lexer_expression, ?_⟩
  rw [combine, hl, getc]
  dsimp only
  rw [if_neg hne, if_pos ⟨rfl, by rw [hk]; rfl⟩, hk]
  rfl

theorem operator_shape {text : Text} (h : (text, k) ∈ operatorClasses) :
    ∃ c rest, text = c :: rest ∧ (c.toNat : Int) ∈ operators ∧
      ((rest = [] ∧ k = if (c.toNat : Int) = 60 ∨ (c.toNat : Int) = 62 then TK_ARITHCOMPARE
          else c.toNat) ∨
        (rest = [61] ∧ ∀ l, k = (assigned c.toNat l).1) ∨
        (rest = [c] ∧ (c.toNat : Int) ≠ 61 ∧ doubled.lookup (c.toNat : Int) = some k) ∨
        (rest = [60] ∧ c = 60 ∧ k = TK_LSHIFT) ∨ (rest = [62] ∧ c = 62 ∧ k = TK_RSHIFT) ∨
        (rest = [62] ∧ c = 45 ∧ k = TK_POINTSAT)) := by
  simp only [operatorClasses, List.mem_cons, List.not_mem_nil, or_false, Prod.mk.injEq] at h
  rcases h with ⟨rfl, rfl⟩ | ⟨rfl, rfl⟩ | ⟨rfl, rfl⟩ | ⟨rfl, rfl⟩ | ⟨rfl, rfl⟩ | ⟨rfl, rfl⟩ |
    ⟨rfl, rfl⟩ | ⟨rfl, rfl⟩ | ⟨rfl, rfl⟩ | ⟨rfl, rfl⟩ | ⟨rfl, rfl⟩ | ⟨rfl, rfl⟩ | h
  iterate 12 exact ⟨_, _, rfl, by decide, .inl ⟨rfl, rfl⟩⟩
  rcases h with ⟨rfl, rfl⟩ | ⟨rfl, rfl⟩ | ⟨rfl, rfl⟩ | ⟨rfl, rfl⟩ | ⟨rfl, rfl⟩ | ⟨rfl, rfl⟩ |
    ⟨rfl, rfl⟩ | ⟨rfl, rfl⟩ | ⟨rfl, rfl⟩ | ⟨rfl, rfl⟩ | ⟨rfl, rfl⟩ | ⟨rfl, rfl⟩ | h
  iterate 12 exact ⟨_, _, rfl, by decide, .inr (.inl ⟨rfl, fun _ => rfl⟩)⟩
  rcases h with ⟨rfl, rfl⟩ | ⟨rfl, rfl⟩ | ⟨rfl, rfl⟩ | ⟨rfl, rfl⟩ | h
  iterate 4 exact ⟨_, _, rfl, by decide, .inr (.inr (.inl ⟨rfl, by decide, by decide⟩))⟩
  rcases h with ⟨rfl, rfl⟩ | ⟨rfl, rfl⟩ | ⟨rfl, rfl⟩
  · exact ⟨_, _, rfl, by decide, .inr (.inr (.inr (.inl ⟨rfl, rfl, rfl⟩)))⟩
  · exact ⟨_, _, rfl, by decide, .inr (.inr (.inr (.inr (.inl ⟨rfl, rfl, rfl⟩))))⟩
  · exact ⟨_, _, rfl, by decide, .inr (.inr (.inr (.inr (.inr ⟨rfl, rfl, rfl⟩))))⟩

theorem operator_lookup {text : Text} (h : (text, k) ∈ operatorClasses) :
    operatorClasses.lookup text = some k := by
  have hall : ∀ entry ∈ operatorClasses, operatorClasses.lookup entry.1 = some entry.2 := by decide
  exact hall (text, k) h

theorem combine_operator {text rest : Text} {k : Int} (h : (text, k) ∈ operatorClasses)
    (hrest : ∀ c ∈ rest.head?, Blank c) :
    ∃ c body, text = c :: body ∧ (c.toNat : Int) ∈ operators ∧
      (c.toNat = 47 → body = [] ∨ body = [61]) ∧
      ∃ e, combine 2 c.toNat { l with finput := characters (body ++ rest) } =
        (k, { l with finput := characters rest, lexer_expression := e }) := by
  obtain ⟨hhigh, hlow, hleft, hright⟩ := peek_range hrest
  have hunread := unread_blank hrest
  obtain ⟨c, body, rfl, hin, hshape⟩ := operator_shape h
  have hrange : 33 ≤ c.toNat := by
    simp only [operators, List.mem_cons, List.not_mem_nil, or_false] at hin
    omega
  refine ⟨c, body, rfl, hin, ?_, ?_⟩
  · rintro hslash
    rcases hshape with ⟨rfl, -⟩ | ⟨rfl, -⟩ | ⟨rfl, -, hk⟩ | ⟨-, rfl, -⟩ | ⟨-, rfl, -⟩ | ⟨-, rfl, -⟩
    · exact .inl rfl
    · exact .inr rfl
    · rw [hslash] at hk
      cases hk
    · cases hslash
    · cases hslash
    · cases hslash
  · rcases hshape with ⟨rfl, rfl⟩ | ⟨rfl, hk⟩ | ⟨rfl, hne, hk⟩ | ⟨rfl, rfl, rfl⟩ |
      ⟨rfl, rfl, rfl⟩ | ⟨rfl, rfl, rfl⟩
    · refine ⟨_, combine_single ?_ ?_ ?_ hunread⟩
      · change (getc (characters rest)).1 ≠ 61
        omega
      · change (getc (characters rest)).1 ≠ c.toNat
        omega
      · change (getc (characters rest)).1 ≠ 62
        omega
    · obtain ⟨e, he⟩ := @combine_assigned c.toNat { l with finput := characters (61 :: rest) } 1
        (characters rest) rfl
      exact ⟨e, he.trans (by rw [← hk])⟩
    · exact combine_doubled rfl hne hk
    · have hagain : combine 2 60 { l with finput := characters (60 :: rest) } = combine 1 TK_LSHIFT
            { l with finput := characters rest, lexer_expression := .LT_EXPR } := rfl
      have he := @combine_single TK_LSHIFT
        { l with finput := characters rest, lexer_expression := .LT_EXPR } 0
        (by change (getc (characters rest)).1 ≠ 61; omega)
        (by change (getc (characters rest)).1 ≠ 19; omega)
        (by change (getc (characters rest)).1 ≠ 62; omega) hunread
      exact ⟨_, hagain.trans he⟩
    · have hagain : combine 2 62 { l with finput := characters (62 :: rest) } = combine 1 TK_RSHIFT
            { l with finput := characters rest, lexer_expression := .GT_EXPR } := rfl
      have he := @combine_single TK_RSHIFT
        { l with finput := characters rest, lexer_expression := .GT_EXPR } 0
        (by change (getc (characters rest)).1 ≠ 61; omega)
        (by change (getc (characters rest)).1 ≠ 20; omega)
        (by change (getc (characters rest)).1 ≠ 62; omega) hunread
      exact ⟨_, hagain.trans he⟩
    · exact ⟨.MINUS_EXPR, rfl⟩

end Operators

section Tokens

variable {l : Scanner} {rest : Text}

theorem find_lookup {text : Text} (htext : ∀ c ∈ text, c ≠ 0) (words : List (Text × Reserved))
    (hwords : ∀ entry ∈ words, ∀ c ∈ entry.1, c ≠ 0) :
    (words.find? fun entry => strncmp text entry.1 entry.1.length = 0).map (·.2) =
      words.lookup text := by
  induction words with
  | nil => rfl
  | cons entry words ih =>
      obtain ⟨hentry, hrest⟩ := List.forall_mem_cons.mp hwords
      obtain ⟨key, kind⟩ := entry
      rw [List.find?_cons, List.lookup_cons]
      by_cases heq : text = key
      · subst heq
        have hzero : strncmp text text text.length = 0 := (strncmp_eq_zero_iff htext htext).mpr rfl
        simp [hzero]
      · have hne : ¬ strncmp text key key.length = 0 := by
          rw [strncmp_eq_zero_iff htext hentry]
          exact heq
        simp only [hne, decide_false, beq_eq_false_iff_ne.mpr heq]
        exact ih hrest

theorem lookup_reserved {text : Text} (htext : ∀ c ∈ text, c ≠ 0) :
    reservedWord text = reservedWords.lookup text := by
  have hall : (reservedWords.all fun entry => entry.1.all fun c => c != 0) = true := by decide
  simp only [List.all_eq_true, bne_iff_ne] at hall
  exact find_lookup htext reservedWords hall

theorem identifier_class {text : Text} (htext : ∀ c ∈ text, c ≠ 0)
    (hl : l.real_token_buffer = text) :
    ∃ l', identifier l = (Token.wordClass text, l') ∧ l'.finput = l.finput ∧
      l'.real_token_buffer = text := by
  rw [identifier, hl, lookup_reserved htext, Token.wordClass]
  cases reservedWords.lookup text with
  | none => exact ⟨l, rfl, rfl, hl⟩
  | some kind =>
      cases kind with
      | modifier keyword => exact ⟨_, rfl, rfl, rfl⟩
      | type keyword type => exact ⟨_, rfl, rfl, rfl⟩
      | keyword keyword => exact ⟨_, rfl, rfl, rfl⟩

theorem continues_ne_zero (h : continues c.toNat = true) : c ≠ 0 := by
  rintro rfl
  exact absurd h (by decide)

theorem wordClass_reserved {kind : Reserved} (h : (word, kind) ∈ reservedWords) :
    Token.wordClass word = Token.reservedClass kind := by
  have hall : ∀ entry ∈ reservedWords, reservedWords.lookup entry.1 = some entry.2 := by decide
  rw [Token.wordClass, hall (word, kind) h]

theorem wordClass_identifier (h : ∀ kind, (word, kind) ∉ reservedWords) :
    Token.wordClass word = TK_IDENTIFIER := by
  have hnone : reservedWords.lookup word = none := by
    rw [List.lookup_eq_none_iff]
    rintro ⟨key, kind⟩ hin
    have hne : word ≠ key := by
      rintro rfl
      exact h kind hin
    simpa using hne
  rw [Token.wordClass, hnone]

theorem starts_ne_zero (h : starts c.toNat = true) : c ≠ 0 := by
  rintro rfl
  exact absurd h (by decide)

theorem yylex_head {body : Text} (hw : ∀ c ∈ w, Blank c)
    (hl : l.finput = characters (w ++ c :: body))
    (hc : 33 ≤ c.toNat) (hslash : c.toNat = 47 → ∀ d ∈ body.head?, d.toNat ≠ 47 ∧ d.toNat ≠ 42 ∧
      d.toNat < 128) :
    yylex l = scanToken c.toNat { l with finput := characters body } := by
  have hskip : skipWhiteSpace .code (characters (c :: body)) =
      .ok ((c.toNat : Int), characters body) := by
    have hblank : ¬ (blank (c.toNat : Int) || decide ((c.toNat : Int) = 10)) = true := by
      simp only [blank, Bool.or_eq_true, decide_eq_true_eq]
      omega
    rw [characters_cons, skipWhiteSpace, if_neg hblank]
    split_ifs with heq
    · have hc : c.toNat = 47 := by omega
      cases body with
      | nil => rw [characters, List.map_nil, skipWhiteSpace, heq]
      | cons d body =>
          obtain ⟨hline, hcomment, hlt⟩ := hslash hc d rfl
          rw [characters_cons, skipWhiteSpace, if_neg (by omega), if_neg (by omega),
            ungetc_toNat hlt, heq]
    · rfl
  rw [yylex, hl, skip_blanks hw, hskip]
  rfl

/-- What a call makes of a token: its class, its text in the buffer, and the rest of the file. -/
def Reads (t : Token) (rest : Text) (l : Scanner) (r : Except Stop (Int × Scanner)) : Prop :=
  ∃ l', r = .ok (t.tokenClass, l') ∧ l'.finput = characters rest ∧
    l'.real_token_buffer = t.buffer l.real_token_buffer

theorem scan_head (h : starts c.toNat = true ∨ isdigit c.toNat = true ∨
    (c.toNat : Int) ∈ separators ∨ (c.toNat : Int) ∈ operators) :
    33 ≤ c.toNat ∧ c.toNat < 128 ∧ ¬ ((c.toNat : Int) = EOF ∨ (c.toNat : Int) = 0) := by
  simp only [starts, isdigit, separators, operators, Bool.or_eq_true, Bool.and_eq_true,
    decide_eq_true_eq, List.mem_cons, List.not_mem_nil, or_false] at h
  rw [EOF]
  omega

theorem reads_word {text : Text} (hstarts : starts c.toNat = true)
    (htext : ∀ d ∈ text, continues d.toNat = true) (hlength : text.length ≤ MAXTOKEN - 2)
    (hrest : ∀ c ∈ rest.head?, Blank c) (hne : rest ≠ []) :
    Reads (.word (c :: text)) rest l
      (scanToken c.toNat { l with finput := characters (text ++ rest) }) := by
  have hend : continues (getc (characters rest)).1 = false := by
    rcases behind hrest with hnil | ⟨e, tail, rfl, he⟩
    · exact absurd hnil hne
    · have hrange := blank_range he
      rw [characters_cons, getc]
      simp only [continues, isalnum, alnumByte, Bool.or_eq_false_iff, Bool.and_eq_false_iff,
        decide_eq_false_iff_not]
      omega
  have hzero : ∀ d ∈ c :: text, d ≠ 0 := List.forall_mem_cons.mpr
      ⟨starts_ne_zero hstarts, fun d hd => continues_ne_zero (htext d hd)⟩
  rw [scanToken, if_neg (scan_head (.inl hstarts)).2.2, if_pos hstarts, scanWord]
  dsimp only
  rw [collect_token htext hend hlength, ok_bind]
  dsimp only
  obtain ⟨l', hclass, hfinput, hbuffer⟩ := @identifier_class
    { l with
      finput := ungetc (getc (characters rest)).1 (getc (characters rest)).2
      real_token_buffer := .ofInt c.toNat :: text } (c :: text) hzero (by rw [ofInt_toNat])
  rw [hclass]
  exact ⟨l', rfl, hfinput.trans (unread_blank hrest), hbuffer⟩

theorem reads_decimal {text : Text} (hc : isdigit c.toNat = true) (hzero : c ≠ 48)
    (htext : ∀ d ∈ text, isdigit d.toNat = true) (hlength : text.length ≤ MAXTOKEN - 2)
    (hrest : ∀ c ∈ rest.head?, c.toNat < 128) (hend : isdigit (getc (characters rest)).1 = false) :
    Reads (.decimal (c :: text)) rest l
      (scanToken c.toNat { l with finput := characters (text ++ rest) }) := by
  have hstarts : ¬ starts c.toNat = true := by
    simp only [starts, isdigit, Bool.or_eq_true, Bool.and_eq_true, decide_eq_true_eq] at hc ⊢
    omega
  have hne : ¬ (c.toNat : Int) = 48 := by
    intro heq
    apply hzero
    apply UInt8.toNat_inj.mp
    change c.toNat = 48
    omega
  rw [scanToken, if_neg (scan_head (.inr (.inl hc))).2.2, if_neg hstarts, if_pos hc, scanConstant,
    if_neg hne]
  dsimp only
  rw [collect_token htext hend hlength, ok_bind]
  exact ⟨_, rfl, unread hrest, by rw [ofInt_toNat]; rfl⟩

theorem reads_hexadecimal {x : UInt8} {text : Text} (hx : x = 120 ∨ x = 88)
    (htext : ∀ d ∈ text, isxdigit d.toNat = true) (hlength : text.length ≤ MAXTOKEN - 3)
    (hrest : ∀ c ∈ rest.head?, Blank c) :
    Reads (.hexadecimal x text) rest l
      (scanToken 48 { l with finput := characters (x :: text ++ rest) }) := by
  obtain ⟨hhigh, hlow, -⟩ := peek_range hrest
  have hend : isxdigit (getc (characters rest)).1 = false := by
    simp only [isxdigit, xdigitByte, Bool.or_eq_false_iff, Bool.and_eq_false_iff,
      decide_eq_false_iff_not]
    omega
  have hletter : (x.toNat : Int) = 120 ∨ (x.toNat : Int) = 88 := by
    rcases hx with rfl | rfl
    · exact .inl rfl
    · exact .inr rfl
  rw [scanToken, if_neg (by decide), if_neg (by decide), if_pos (by decide), scanConstant,
    if_pos rfl, List.cons_append, characters_cons, getc]
  dsimp only
  rw [if_pos hletter, collect_token htext hend hlength, ok_bind]
  exact ⟨_, rfl, unread_blank hrest, by rw [ofInt_toNat]; rfl⟩

theorem reads_operator {text : Text} {k : Int} (h : (text, k) ∈ operatorClasses)
    (hrest : ∀ c ∈ rest.head?, Blank c) :
    ∃ c body, text = c :: body ∧ (c.toNat : Int) ∈ operators ∧
      (c.toNat = 47 → body = [] ∨ body = [61]) ∧
      Reads (.operator text) rest l
        (scanToken c.toNat { l with finput := characters (body ++ rest) }) := by
  obtain ⟨c, body, rfl, hin, hslash, e, hcombine⟩ := @combine_operator l _ _ _ h hrest
  refine ⟨c, body, rfl, hin, hslash, ?_⟩
  have hother : ¬ starts c.toNat = true ∧ ¬ isdigit c.toNat = true ∧ ¬ (c.toNat : Int) = 34 ∧
      ¬ (c.toNat : Int) ∈ separators := by
    simp only [operators, List.mem_cons, List.not_mem_nil, or_false] at hin
    simp only [starts, isdigit, separators, Bool.or_eq_true, Bool.and_eq_true, decide_eq_true_eq,
      List.mem_cons, List.not_mem_nil, or_false]
    omega
  rw [scanToken, if_neg (scan_head (.inr (.inr (.inr hin)))).2.2, if_neg hother.1,
    if_neg hother.2.1, if_neg hother.2.2.1, if_neg hother.2.2.2, if_pos hin, hcombine]
  refine ⟨{ l with finput := characters rest, lexer_expression := e }, ?_, rfl, rfl⟩
  rw [Token.tokenClass, operator_lookup h]
  rfl

theorem yylex_token (ht : t.Readable) (hw : ∀ c ∈ w, Blank c) (hrest : ApartInFile t rest)
    (hl : l.finput = characters (w ++ (t.text ++ rest))) :
    Reads t rest l (yylex l) := by
  obtain ⟨⟨hlength, hshape⟩, hdecimal⟩ := ht
  obtain ⟨hblank, hword⟩ := hrest
  cases t with
  | word text =>
      obtain ⟨c, tail, rfl, hstarts, htail⟩ := hshape
      have hhead := scan_head (.inl hstarts)
      have hnoslash : c.toNat ≠ 47 := by
        rintro hc
        rw [hc] at hstarts
        exact absurd hstarts (by decide)
      rw [yylex_head hw hl hhead.1 fun h => absurd h hnoslash]
      exact reads_word hstarts htail (Nat.le_of_succ_le_succ hlength) hblank (hword _ rfl)
  | decimal text =>
      obtain ⟨hne, hall⟩ := hshape
      obtain ⟨c, tail, rfl⟩ := List.exists_cons_of_ne_nil hne
      obtain ⟨hc, htail⟩ := List.forall_mem_cons.mp hall
      have hhead := scan_head (.inr (.inl hc))
      have hnoslash : c.toNat ≠ 47 := by
        rintro h
        rw [h] at hc
        exact absurd hc (by decide)
      have hzero : c ≠ 48 := fun h => hdecimal _ rfl (by rw [h]; rfl)
      obtain ⟨hhigh, -⟩ := peek_range hblank
      have hend : isdigit (getc (characters rest)).1 = false := by
        simp only [isdigit, Bool.and_eq_false_iff, decide_eq_false_iff_not]
        omega
      rw [yylex_head hw hl hhead.1 fun h => absurd h hnoslash]
      apply reads_decimal hc hzero htail (Nat.le_of_succ_le_succ hlength) _ hend
      exact fun c hc => Nat.lt_trans (blank_range (hblank c hc)).1 (by decide)
  | hexadecimal x text =>
      obtain ⟨hx, htext⟩ := hshape
      rw [yylex_head (c := 48) hw hl (by decide) fun h => absurd h (by decide)]
      exact reads_hexadecimal hx htext
        (Nat.le_of_succ_le_succ (Nat.le_of_succ_le_succ hlength)) hblank
  | string text =>
      have hquoted : l.finput = characters (w ++ 34 :: (text ++ 34 :: rest)) := by
        rw [hl, Token.text, List.cons_append, List.cons_append, List.append_assoc]
        rfl
      rw [yylex_head (c := 34) hw hquoted (by decide) fun h => absurd h (by decide)]
      have hroom : text.length ≤ MAXTOKEN - 1 := by
        rw [Token.text, List.cons_append, List.length_cons, List.length_append] at hlength
        rw [MAXTOKEN]
        omega
      exact ⟨_, Scanning.scan_string hshape hroom, rfl, rfl⟩
  | separator c =>
      change (c.toNat : Int) ∈ separators at hshape
      have hhead := scan_head (.inr (.inr (.inl hshape)))
      have hnoslash : c.toNat ≠ 47 := by
        rintro h
        rw [h] at hshape
        exact absurd hshape (by decide)
      rw [yylex_head hw hl hhead.1 fun h => absurd h hnoslash]
      exact ⟨_, Scanning.scan_separator hshape, rfl, rfl⟩
  | operator text =>
      obtain ⟨k, hk⟩ := hshape
      obtain ⟨c, body, rfl, hin, hslash, hreads⟩ := @reads_operator l _ _ _ hk hblank
      rw [yylex_head hw hl (scan_head (.inr (.inr (.inr hin)))).1]
      · exact hreads
      · intro h d hd
        rcases hslash h with rfl | rfl
        · have hrange := blank_range (hblank d hd)
          omega
        · cases Option.some.inj hd
          decide

end Tokens

section Files

variable {l : Scanner} {ts : List Token} {text : Text}

theorem run_step {l l' : Scanner} {o : Int × Text} {n : Nat} (h : lex l () = .ok (o, l')) :
    run lex l (List.replicate (n + 1) ()) =
      run lex l' (List.replicate n ()) >>= fun r => .ok (o :: r.1, r.2) := by
  rw [List.replicate_succ, run, h]
  dsimp only
  cases run lex l' (List.replicate n ()) with
  | error e => rfl
  | ok r => rfl

theorem lex_reads (h : Reads t rest l (yylex l)) :
    ∃ l', lex l () = .ok ((t.tokenClass, t.buffer l.real_token_buffer), l') ∧
      l'.finput = characters rest ∧ l'.real_token_buffer = t.buffer l.real_token_buffer := by
  obtain ⟨l', hl', hfinput, hbuffer⟩ := h
  refine ⟨l', ?_, hfinput, hbuffer⟩
  rw [lex, hl', ok_bind, ← hbuffer]

theorem lex_end (hw : ∀ c ∈ w, Blank c) (hl : l.finput = characters w) :
    lex l () = .ok ((TK_EOF, l.real_token_buffer), { l with finput := [] }) := by
  have hskip : skipWhiteSpace .code (characters w) = .ok (EOF, []) := by
    rw [← List.append_nil w, skip_blanks hw]
    rfl
  rw [lex, yylex, hl, hskip]
  rfl

theorem run_end {w : Text} (hw : ∀ c ∈ w, Blank c) (hl : l.finput = characters w) (k : Nat) :
    ∃ l', run lex l (List.replicate k ()) =
      .ok (List.replicate k (TK_EOF, l.real_token_buffer), l') := by
  induction k generalizing l w with
  | zero => exact ⟨l, rfl⟩
  | succ k ih =>
      obtain ⟨l', hrun⟩ := @ih { l with finput := [] } [] (by simp) rfl
      refine ⟨l', ?_⟩
      rw [run_step (lex_end hw hl), hrun]
      rfl

theorem run_spaced (h : Spaced ApartInFile ts text) (hts : ∀ t ∈ ts, t.Readable)
    (hl : l.finput = characters text) (k : Nat) :
    ∃ l', run lex l (List.replicate (ts.length + k) ()) = .ok (readings l.real_token_buffer ts ++
        List.replicate k (TK_EOF, lastBuffer l.real_token_buffer ts), l') := by
  induction h generalizing l with
  | done hw =>
      rw [List.length_nil, Nat.zero_add]
      exact run_end hw hl k
  | @token t ts w rest hw _ hrest ih =>
      obtain ⟨ht, hts⟩ := List.forall_mem_cons.mp hts
      obtain ⟨l₁, hlex, hfinput, hbuffer⟩ := lex_reads (yylex_token ht hw hrest hl)
      obtain ⟨l', hrun⟩ := ih hts hfinput
      refine ⟨l', ?_⟩
      rw [List.length_cons, Nat.add_right_comm, run_step hlex, hrun, hbuffer]
      rfl

/-- The calls for a file of tokens answer their classes and put their texts into the token buffer,
which an operator leaves as it was, and then answer the end of the file. A word has the class of a
reserved word if and only if it is equal to it. -/
theorem tokens_read (ts : List Token) (text : Text) (k : Nat) (h : Spaced ApartInFile ts text)
    (hts : ∀ t ∈ ts, t.Readable) :
    (∃ l, run lex (lexerInitialize (characters text)) (List.replicate (ts.length + k) ()) =
      .ok (readings [] ts ++ List.replicate k (TK_EOF, lastBuffer [] ts), l)) ∧
      (∀ word kind, (word, kind) ∈ reservedWords →
        Token.wordClass word = Token.reservedClass kind) ∧
      ∀ word, (∀ kind, (word, kind) ∉ reservedWords) → Token.wordClass word = TK_IDENTIFIER :=
  ⟨run_spaced h hts rfl k, fun _ _ => wordClass_reserved, fun _ => wordClass_identifier⟩

def assignment : List Token := [.word [105, 110, 116], .operator [61], .decimal [53]]

theorem assignment_spaced : Spaced ApartInFile assignment [105, 110, 116, 32, 61, 32, 53] := by
  have hfive : Spaced ApartInFile [.decimal [53]] [32, 53] :=
    @Spaced.token ApartInFile _ _ [32] [] (by simp [Blank, blank]) (.done (by simp))
      ⟨by simp [Apart], by simp⟩
  have hequal : Spaced ApartInFile [.operator [61], .decimal [53]] [32, 61, 32, 53] :=
    .token (w := [32]) (by simp [Blank, blank]) hfive ⟨by simp [Apart, Blank, blank], by simp⟩
  exact .token (w := []) (by simp) hequal ⟨by simp [Apart, Blank, blank], fun _ _ => by decide⟩

theorem assignment_readable : ∀ t ∈ assignment, t.Readable := by
  have hword : ∀ d ∈ ([110, 116] : Text), continues d.toNat = true := by
    simp [continues, isalnum, alnumByte]
  simp only [assignment, List.forall_mem_cons]
  refine ⟨⟨⟨by decide, 105, [110, 116], rfl, by decide, hword⟩, nofun⟩,
    ⟨⟨by decide, 61, by decide⟩, nofun⟩, ⟨⟨by decide, by simp, by simp [isdigit]⟩, ?_⟩, by simp⟩
  rintro _ ⟨⟩
  decide

theorem tokens_read_assignment :
    ∃ l, run lex (lexerInitialize (characters [105, 110, 116, 32, 61, 32, 53]))
      (List.replicate 4 ()) = .ok ([(TK_TYPE, [105, 110, 116]), (61, [105, 110, 116]),
        (TK_CONSTANT, [53]), (TK_EOF, [53])], l) :=
  (tokens_read assignment _ 1 assignment_spaced assignment_readable).1

/-- The text of an operator does not come to the token buffer. -/
theorem operator_text_missing : ¬ ∀ (ts : List Token) (text : Text), Spaced Apart ts text →
    (∀ t ∈ ts, t.WellFormed) → ∃ last l,
      run lex (lexerInitialize (characters text)) (List.replicate (ts.length + 1) ()) =
        .ok (ts.map (fun t => (t.tokenClass, t.spelling)) ++ [last], l) ∧ last.1 = TK_EOF := by
  intro h
  have hplus : Spaced Apart [.operator [43]] [43] :=
    @Spaced.token Apart _ _ [] [] (by simp) (.done (by simp)) (by simp [Apart])
  obtain ⟨last, l, hrun, -⟩ := h [.operator [43]] [43] hplus (by
    intro t ht
    cases List.mem_singleton.mp ht
    exact ⟨by decide, 43, by decide⟩)
  have hread : run lex (lexerInitialize (characters [43])) (List.replicate 2 ()) =
      .ok ([(43, []), (TK_EOF, [])], ⟨[], [], .KWNULL, .TNULL, .PLUS_EXPR⟩) := rfl
  obtain ⟨houts, -⟩ := Prod.mk.inj (Except.ok.inj (hread.symm.trans hrun))
  cases houts

end Files

end Gramado.Gramcnf.Tokens
