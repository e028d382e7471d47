import Gramado.Gramcnf.Constants
import Gramado.Gramcnf.Parser

namespace Gramado.Gramcnf.Statements

open Library.CheckedRead Library.BoundedText Rtl.Strings Gramcnf.Lexer Gramcnf.Tree Gramcnf.Parser
open Gramcnf.Printing Gramcnf.Scanning Gramcnf.Constants

variable {word : Text} {keyword : Keyword} {type : DataType} {P : Interpreter → Prop} {l : Scanner}
  {v : Int} {A : Prop}

section Tokens

variable {s : Interpreter} {l : Scanner} {c : Int}

theorem returns_require {p : Prop} [Decidable p] {message : String} {P : Unit → Prop} :
    Returns (require p message) P ↔ p ∧ P () := by
  rw [require]
  split
  · simp [*]
  · simp [*]

theorem lex_ok (h : yylex s.lexer = .ok (c, l)) : lex s = .ok (c, { s with lexer := l }) := by
  rw [lex, h]
  rfl

theorem iteration_ok (h : yylex s.lexer = .ok (c, l)) (hc : c ≠ TK_EOF) :
    iteration s = dispatch c { s with lexer := l } := by
  rw [iteration, lex_ok h]
  exact if_neg hc

theorem dispatch_one (hs : s.State = 1) : dispatch c s = typeState c s := by
  rw [dispatch, hs]
  rfl

theorem dispatch_two (hs : s.State = 2) : dispatch c s = identifierState c s := by
  rw [dispatch, hs]
  rfl

theorem dispatch_keyword (hs : s.State = 1) (hbraces : s.braces_inside > 0) :
    dispatch TK_KEYWORD s = keywordState TK_KEYWORD s := by
  rw [dispatch_one hs, typeState, if_neg (by decide), if_neg (by decide), if_neg (by decide),
    if_pos (.inr hbraces), identifierState, if_neg (by decide), if_pos (.inr hbraces)]

theorem iteration_one (hs : s.State = 1) (h : yylex s.lexer = .ok (c, l)) (hc : c ≠ TK_EOF) :
    iteration s = typeState c { s with lexer := l } :=
  (iteration_ok h hc).trans (dispatch_one hs)

theorem iteration_two (hs : s.State = 2) (h : yylex s.lexer = .ok (c, l)) (hc : c ≠ TK_EOF) :
    iteration s = identifierState c { s with lexer := l } :=
  (iteration_ok h hc).trans (dispatch_two hs)

theorem iteration_keyword (hs : s.State = 1) (hbraces : s.braces_inside > 0)
    (h : yylex s.lexer = .ok (TK_KEYWORD, l)) :
    iteration s = keywordState TK_KEYWORD { s with lexer := l } :=
  (iteration_ok h (by decide)).trans (dispatch_keyword hs hbraces)

theorem tokenIs_eq {separator : String} {buffer : Text}
    (h : s.lexer.real_token_buffer = buffer) :
    tokenIs s separator = decide (strncmp buffer (bytes separator) 1 = 0) := by
  rw [tokenIs, h]

theorem identifier_type (h : l.real_token_buffer = word)
    (hword : reservedWord word = some (.type keyword type)) :
    identifier l = (TK_TYPE, { l with keyword_found := keyword, type_found := type }) := by
  rw [identifier, h, hword]

theorem identifier_keyword (h : l.real_token_buffer = word)
    (hword : reservedWord word = some (.keyword keyword)) :
    identifier l = (TK_KEYWORD, { l with keyword_found := keyword }) := by
  rw [identifier, h, hword]

theorem identifier_free (h : l.real_token_buffer = word) (hword : reservedWord word = none) :
    identifier l = (TK_IDENTIFIER, l) := by
  rw [identifier, h, hword]

end Tokens

section Emission

variable {s : Interpreter} {pieces : List Text} {P : Interpreter → Prop}

theorem returns_emitText (h : pieces ≠ []) :
    Returns (emitText s pieces) P ↔ s.TEXT.length + pieces.flatten.length < SECTION_SIZE ∧
      P { s with TEXT := s.TEXT ++ pieces.flatten } := by
  rw [emitText, returns_bind, returns_appendAll _ _ h, returns_ok]

theorem returns_emitOutfile (h : pieces ≠ []) : Returns (emitOutfile s pieces) P ↔
      s.outfile.length + pieces.flatten.length < OUTFILE_MAX_SIZE ∧
        P { s with outfile := s.outfile ++ pieces.flatten } := by
  rw [emitOutfile, returns_bind, returns_appendAll _ _ h, returns_ok]

end Emission

def OPEN : Lexeme := .separator 40
def CLOSE : Lexeme := .separator 41
def SEMICOLON : Lexeme := .separator 59
def OPEN_BRACE : Lexeme := .separator 123
def CLOSE_BRACE : Lexeme := .separator 125
def OPEN_BOX : Lexeme := .separator 91
def CLOSE_BOX : Lexeme := .separator 93

theorem open_fits : OPEN.Fits := show ((40 : UInt8).toNat : Int) ∈ separators by decide
theorem close_fits : CLOSE.Fits := show ((41 : UInt8).toNat : Int) ∈ separators by decide
theorem semicolon_fits : SEMICOLON.Fits := show ((59 : UInt8).toNat : Int) ∈ separators by decide
theorem openBrace_fits : OPEN_BRACE.Fits := show ((123 : UInt8).toNat : Int) ∈ separators by decide
theorem closeBrace_fits : CLOSE_BRACE.Fits :=
  show ((125 : UInt8).toNat : Int) ∈ separators by decide
theorem openBox_fits : OPEN_BOX.Fits := show ((91 : UInt8).toNat : Int) ∈ separators by decide
theorem closeBox_fits : CLOSE_BOX.Fits := show ((93 : UInt8).toNat : Int) ∈ separators by decide

section Separators

variable {s : Interpreter} {ts : List Lexeme}

theorem iteration_separator {c : UInt8} (hs : s.State = 1)
    (h : Ahead s.lexer (.separator c :: ts)) (hc : (Lexeme.separator c).Fits) :
    ∃ l, Ahead l ts ∧ l.real_token_buffer = [c] ∧
      iteration s = typeState TK_SEPARATOR { s with lexer := l } := by
  obtain ⟨l, hlex, hbuffer, -, hts⟩ := ahead_separator h hc
  exact ⟨l, hts, hbuffer, iteration_one hs hlex (by decide)⟩

theorem typeState_separator : typeState TK_SEPARATOR s = if tokenIs s "(" then
      emitOutfile { s with parentheses_inside := s.parentheses_inside + 1, State := 1 }
        [bytes "_", s.save_symbol, bytes ":\n"]
    else if tokenIs s "\x7b" then
      .ok { s with braces_inside := s.braces_inside + 1, State := 1 }
    else if tokenIs s "]" ∧ s.square_brackets_inside > 0 then
      .ok { s with
        square_brackets_inside := s.square_brackets_inside - 1
        State := 1
        running := if s.square_brackets_inside - 1 = 0 then false else s.running }
    else if tokenIs s ")" ∧ s.parentheses_inside > 0 then
      .ok { s with parentheses_inside := s.parentheses_inside - 1, State := 1 }
    else if tokenIs s "\x7d" ∧ s.braces_inside > 0 then
      .ok { s with braces_inside := s.braces_inside - 1, State := 1 }
    else .ok { s with State := 1 } := by
  rw [typeState, if_neg (by decide), if_neg (by decide), if_pos rfl]

theorem typeState_close (h : s.lexer.real_token_buffer = [41])
    (hopen : s.parentheses_inside > 0) : typeState TK_SEPARATOR s =
      .ok { s with parentheses_inside := s.parentheses_inside - 1, State := 1 } := by
  simp only [typeState_separator, tokenIs_eq h]
  rw [if_neg (by decide), if_neg (by decide), if_neg (fun hx => absurd hx.1 (by decide)),
    if_pos ⟨by decide, hopen⟩]

theorem typeState_openBrace (h : s.lexer.real_token_buffer = [123]) : typeState TK_SEPARATOR s =
      .ok { s with braces_inside := s.braces_inside + 1, State := 1 } := by
  simp only [typeState_separator, tokenIs_eq h]
  rw [if_neg (by decide), if_pos (by decide)]

theorem typeState_closeBrace (h : s.lexer.real_token_buffer = [125])
    (hopen : s.braces_inside > 0) : typeState TK_SEPARATOR s =
      .ok { s with braces_inside := s.braces_inside - 1, State := 1 } := by
  simp only [typeState_separator, tokenIs_eq h]
  rw [if_neg (by decide), if_neg (by decide), if_neg (fun hx => absurd hx.1 (by decide)),
    if_neg (fun hx => absurd hx.1 (by decide)), if_pos ⟨by decide, hopen⟩]

theorem typeState_closeBox (h : s.lexer.real_token_buffer = [93])
    (hopen : s.square_brackets_inside = 1) : typeState TK_SEPARATOR s =
      .ok { s with square_brackets_inside := 0, State := 1, running := false } := by
  simp only [typeState_separator, tokenIs_eq h, hopen]
  rw [if_neg (by decide), if_neg (by decide), if_pos ⟨by decide, by decide⟩]
  rfl

theorem iteration_close (hs : s.State = 1) (hopen : s.parentheses_inside > 0)
    (h : Ahead s.lexer (CLOSE :: ts)) :
    ∃ l, Ahead l ts ∧ iteration s = .ok { s with
      lexer := l, parentheses_inside := s.parentheses_inside - 1, State := 1 } := by
  obtain ⟨l, hts, hbuffer, hstep⟩ := iteration_separator hs h close_fits
  exact ⟨l, hts, hstep.trans (typeState_close hbuffer hopen)⟩

theorem iteration_openBrace (hs : s.State = 1) (h : Ahead s.lexer (OPEN_BRACE :: ts)) :
    ∃ l, Ahead l ts ∧ iteration s = .ok { s with
      lexer := l, braces_inside := s.braces_inside + 1, State := 1 } := by
  obtain ⟨l, hts, hbuffer, hstep⟩ := iteration_separator hs h openBrace_fits
  exact ⟨l, hts, hstep.trans (typeState_openBrace hbuffer)⟩

theorem iteration_closeBrace (hs : s.State = 1) (hopen : s.braces_inside > 0)
    (h : Ahead s.lexer (CLOSE_BRACE :: ts)) :
    ∃ l, Ahead l ts ∧ iteration s = .ok { s with
      lexer := l, braces_inside := s.braces_inside - 1, State := 1 } := by
  obtain ⟨l, hts, hbuffer, hstep⟩ := iteration_separator hs h closeBrace_fits
  exact ⟨l, hts, hstep.trans (typeState_closeBrace hbuffer hopen)⟩

theorem iteration_closeBox (hs : s.State = 1) (hopen : s.square_brackets_inside = 1)
    (h : Ahead s.lexer (CLOSE_BOX :: ts)) :
    ∃ l, iteration s = .ok { s with
      lexer := l, square_brackets_inside := 0, State := 1, running := false } := by
  obtain ⟨l, -, hbuffer, hstep⟩ := iteration_separator hs h closeBox_fits
  exact ⟨l, hstep.trans (typeState_closeBox hbuffer hopen)⟩

end Separators

section Symbols

variable {s : Interpreter} {ts : List Lexeme} {u : Lexeme}

theorem iteration_type (hs : s.State = 1) (h : Ahead s.lexer (.word word :: u :: ts))
    (hfits : (Lexeme.word word).Fits) (hu : u.Fits)
    (hword : reservedWord word = some (.type keyword type)) (htype : type = .TBOX ∨ type = .TMETA) :
    ∃ l, Ahead l (u :: ts) ∧ l.type_found = type ∧ iteration s = .ok { s with
      lexer := l, waiting_identifier_after_type := true, State := 2 } := by
  obtain ⟨l, hlex, hbuffer, -, text, hprinted, hfinput⟩ := ahead_word h hfits hu
  rw [identifier_type hbuffer hword] at hlex
  refine ⟨{ l with keyword_found := keyword, type_found := type }, ⟨text, hprinted, hfinput⟩,
    rfl, ?_⟩
  rw [iteration_one hs hlex (by decide), typeState, if_neg (by decide), if_pos rfl]
  rcases htype with rfl | rfl
  · simp
  · simp

theorem returns_saveSymbol (h : s.lexer.real_token_buffer = word) (hfree : 0 ∉ word)
    (hconversion : 37 ∉ word) :
    Returns (saveSymbol s) P ↔ word.length < SYMBOL_SIZE ∧ P { s with save_symbol := word } := by
  have hstring : cString s.lexer.real_token_buffer = word := by
    rw [h]
    exact cString_of_free fun c hc hzero => hfree (hzero ▸ hc)
  simp only [saveSymbol, hstring]
  rw [if_neg hconversion, returns_bind, returns_append, returns_ok, List.length_nil, Nat.zero_add,
    List.nil_append]

theorem afterSymbol_openBox (h : s.lexer.real_token_buffer = [91]) : afterSymbol TK_SEPARATOR s =
      .ok { s with square_brackets_inside := s.square_brackets_inside + 1, State := 1 } := by
  simp only [afterSymbol, tokenIs_eq h]
  rw [if_neg (by decide), if_pos (by decide)]

def functionText (tag : Text) : Text :=
  [bytes ";[FUNCTION] (\n", bytes "segment .text \n", bytes "_", tag, bytes ":\n"].flatten

def parameters (s : Interpreter) : Interpreter :=
  { s with parentheses_inside := s.parentheses_inside + 1 }

theorem returns_afterSymbol_open (h : s.lexer.real_token_buffer = [40]) :
    Returns (afterSymbol TK_SEPARATOR s) P ↔
      s.TEXT.length + (functionText s.save_symbol).length < SECTION_SIZE ∧ P { s with
        parentheses_inside := s.parentheses_inside + 1
        TEXT := s.TEXT ++ functionText s.save_symbol, State := 1 } := by
  simp only [afterSymbol, tokenIs_eq h]
  rw [if_neg (by decide), if_neg (by decide), if_pos (by decide), returns_bind]
  change Returns (emitFunction (parameters s)) _ ↔ _
  rw [emitFunction, returns_emitText (List.cons_ne_nil _ _), returns_ok]
  rfl

def symbolRead (s : Interpreter) (l : Scanner) (word : Text) : Interpreter :=
  { s with lexer := l, save_symbol := word }

theorem returns_symbol (hs : s.State = 2) (h : Ahead s.lexer (.word word :: u :: ts))
    (hfits : (Lexeme.word word).Fits) (hu : u.Fits) (hword : reservedWord word = none)
    (hfree : 0 ∉ word) (hconversion : 37 ∉ word) (hshort : word.length < SYMBOL_SIZE) :
    ∃ l, Ahead l (u :: ts) ∧ l.real_token_buffer = word ∧ l.type_found = s.lexer.type_found ∧
      ∀ P, Returns (iteration s) P ↔ Returns (storeTag (symbolRead s l word)) fun s =>
          Returns (lex s) fun r => Returns (afterSymbol r.1 r.2) P := by
  obtain ⟨l, hlex, hbuffer, htype, hahead⟩ := ahead_word h hfits hu
  rw [identifier_free hbuffer hword] at hlex
  refine ⟨l, hahead, hbuffer, htype, fun P => ?_⟩
  rw [iteration_two hs hlex (by decide), identifierState, if_pos rfl, returns_bind,
    returns_saveSymbol hbuffer hfree hconversion, and_iff_right hshort, returns_bind]
  simp only [returns_bind]
  rfl

theorem storeTag_box (hwaiting : s.waiting_identifier_after_type = true)
    (htype : s.lexer.type_found = .TBOX) :
    storeTag s = .ok { s with waiting_identifier_after_type := false } := by
  rw [storeTag, if_pos hwaiting]
  refine if_neg fun h => ?_
  rw [htype] at h
  cases h

theorem storeTag_meta (hwaiting : s.waiting_identifier_after_type = true)
    (htype : s.lexer.type_found = .TMETA) (hbuffer : s.lexer.real_token_buffer = word)
    (hfree : 0 ∉ word) (hne : word ≠ []) (hshort : word.length < 64) :
    storeTag s = .ok { s with
      waiting_identifier_after_type := false
      metadata := update s fun m => { m with meta_tag := word, tag_size := word.length } } := by
  have hzero : ∀ c ∈ word, c ≠ 0 := fun c hc he => hfree (he ▸ hc)
  have hpos : 0 < word.length := List.length_pos_iff.mpr hne
  rw [storeTag, if_pos hwaiting]
  refine (if_pos htype).trans ?_
  simp only [hbuffer, strlen_of_free hzero, strncpy_of_free hzero]
  rw [if_neg (by omega), if_neg (by omega)]
  rfl

theorem iteration_box (hs : s.State = 2) (hwaiting : s.waiting_identifier_after_type = true)
    (htype : s.lexer.type_found = .TBOX) (h : Ahead s.lexer (.word word :: OPEN_BOX :: ts))
    (hfits : (Lexeme.word word).Fits) (hword : reservedWord word = none) (hfree : 0 ∉ word)
    (hconversion : 37 ∉ word) (hshort : word.length < SYMBOL_SIZE) :
    ∃ l, Ahead l ts ∧ ∀ P, Returns (iteration s) P ↔ P { s with
      lexer := l, save_symbol := word, waiting_identifier_after_type := false
      square_brackets_inside := s.square_brackets_inside + 1, State := 1 } := by
  obtain ⟨l, hahead, hbuffer, htypel, hstep⟩ :=
    returns_symbol hs h hfits openBox_fits hword hfree hconversion hshort
  obtain ⟨l', hlex, hbuffer', -, hts⟩ := ahead_separator hahead openBox_fits
  refine ⟨l', hts, fun P => ?_⟩
  have htag : storeTag (symbolRead s l word) =
      .ok { symbolRead s l word with waiting_identifier_after_type := false } :=
    storeTag_box hwaiting (htypel.trans htype)
  have hnext : lex { symbolRead s l word with waiting_identifier_after_type := false } =
      .ok (TK_SEPARATOR, { symbolRead s l word with
        lexer := l', waiting_identifier_after_type := false }) :=
    lex_ok hlex
  rw [hstep, htag, returns_ok, hnext, returns_ok, afterSymbol_openBox hbuffer', returns_ok]
  rfl

def tagRead (s : Interpreter) (l : Scanner) (word : Text) : Interpreter :=
  { symbolRead s l word with
    waiting_identifier_after_type := false
    metadata := update s fun m => { m with meta_tag := word, tag_size := word.length } }

theorem iteration_tag (hs : s.State = 2) (hwaiting : s.waiting_identifier_after_type = true)
    (htype : s.lexer.type_found = .TMETA) (h : Ahead s.lexer (.word word :: OPEN :: ts))
    (hfits : (Lexeme.word word).Fits) (hword : reservedWord word = none) (hfree : 0 ∉ word)
    (hconversion : 37 ∉ word) (hne : word ≠ []) (hshort : word.length < SYMBOL_SIZE) :
    ∃ l, Ahead l ts ∧ ∀ P, Returns (iteration s) P ↔
      s.TEXT.length + (functionText word).length < SECTION_SIZE ∧ P { s with
        lexer := l, save_symbol := word, waiting_identifier_after_type := false
        metadata := update s fun m => { m with meta_tag := word, tag_size := word.length }
        parentheses_inside := s.parentheses_inside + 1, TEXT := s.TEXT ++ functionText word
        State := 1 } := by
  obtain ⟨l, hahead, hbuffer, htypel, hstep⟩ :=
    returns_symbol hs h hfits open_fits hword hfree hconversion hshort
  obtain ⟨l', hlex, hbuffer', -, hts⟩ := ahead_separator hahead open_fits
  refine ⟨l', hts, fun P => ?_⟩
  have hsmall : word.length < 64 := by
    rw [SYMBOL_SIZE] at hshort
    omega
  have htag : storeTag (symbolRead s l word) = .ok (tagRead s l word) :=
    storeTag_meta hwaiting (htypel.trans htype) hbuffer hfree hne hsmall
  have hnext : lex (tagRead s l word) = .ok (TK_SEPARATOR, tagRead s l' word) := lex_ok hlex
  rw [hstep, htag, returns_ok, hnext, returns_ok]
  exact returns_afterSymbol_open hbuffer'

end Symbols

section Strings

variable {s : Interpreter} {ts : List Lexeme} {st : StringStatement} {string : Text}

def stringText (string : Text) : Text := [string, bytes "\n"].flatten

/-- The state after a string statement that ends with the lexer in a given state. -/
def stringRead (st : StringStatement) (s : Interpreter) (l : Scanner) (string : Text) :
    Interpreter :=
  { s with
    lexer := l
    metadata := update s fun m => st.store m string string.length
    meta_stage := st.next
    outfile := s.outfile ++ stringText string }

theorem storeString_ok (hbuffer : s.lexer.real_token_buffer = string)
    (hstage : s.meta_stage = st.stage) (hfree : 0 ∉ string) (hne : string ≠ [])
    (hshort : string.length < st.limit) :
    storeString st s = .ok { s with
      metadata := update s fun m => st.store m string string.length, meta_stage := st.next } := by
  have hzero : ∀ c ∈ string, c ≠ 0 := fun c hc he => hfree (he ▸ hc)
  have hpos : 0 < string.length := List.length_pos_iff.mpr hne
  rw [storeString, if_pos hstage]
  simp only [hbuffer, strlen_of_free hzero, strncpy_of_free hzero]
  rw [if_neg (by omega), if_neg (by omega)]

theorem returns_parseString (h : Ahead s.lexer (OPEN :: .string string :: CLOSE :: SEMICOLON :: ts))
    (hfits : (Lexeme.string string).Fits) (hstage : s.meta_stage = st.stage) (hfree : 0 ∉ string)
    (hne : string ≠ []) (hshort : string.length < st.limit) :
    ∃ l, Ahead l ts ∧ ∀ P, Returns (parseString st TK_KEYWORD s) P ↔
      s.outfile.length + (stringText string).length < OUTFILE_MAX_SIZE ∧
        P (stringRead st s l string) := by
  obtain ⟨l1, hlex1, -, -, h1⟩ := ahead_separator h open_fits
  obtain ⟨l2, hlex2, hbuffer2, -, h2⟩ := ahead_string h1 hfits close_fits
  obtain ⟨l3, hlex3, hbuffer3, -, h3⟩ := ahead_separator h2 close_fits
  obtain ⟨l4, hlex4, hbuffer4, -, h4⟩ := ahead_separator h3 semicolon_fits
  refine ⟨l4, h4, fun P => ?_⟩
  have hstring : cString string = string := cString_of_free fun c hc he => hfree (he ▸ hc)
  have hstore : storeString st { s with lexer := l2 } = .ok { s with
      lexer := l2, metadata := update s fun m => st.store m string string.length
      meta_stage := st.next } :=
    storeString_ok hbuffer2 hstage hfree hne hshort
  have hemit : ∀ Q, Returns (emitOutfile { s with
      lexer := l2, metadata := update s fun m => st.store m string string.length
      meta_stage := st.next } [string, bytes "\n"]) Q ↔
        s.outfile.length + (stringText string).length < OUTFILE_MAX_SIZE ∧
          Q (stringRead st s l2 string) :=
    fun Q => returns_emitOutfile (List.cons_ne_nil _ _)
  have hclose : tokenIs (stringRead st s l3 string) ")" = true := by
    rw [tokenIs_eq hbuffer3]
    decide
  have hsemicolon : tokenIs (stringRead st s l4 string) ";" = true := by
    rw [tokenIs_eq hbuffer4]
    decide
  simp only [parseString, lex, hlex1, hlex2, returns_bind, returns_require, returns_ok, hstore,
    hbuffer2, hstring, hemit, true_and]
  refine and_congr_right fun _ => ?_
  change Returns (yylex l2) _ ↔ _
  rw [hlex3, returns_ok]
  change tokenIs (stringRead st s l3 string) ")" = true ∧ Returns (yylex l3) _ ↔ _
  rw [hlex4, returns_ok]
  exact (and_iff_right hclose).trans (and_iff_right hsemicolon)

theorem iteration_string (hs : s.State = 1)
    (hbraces : s.braces_inside > 0)
    (h : Ahead s.lexer (.word word :: OPEN :: .string string :: CLOSE :: SEMICOLON :: ts))
    (hword : (Lexeme.word word).Fits)
    (hreserved : reservedWord word = some (.keyword keyword))
    (hstate : ∀ t : Interpreter, t.lexer.keyword_found = keyword → keywordState TK_KEYWORD t =
      (parseString st TK_KEYWORD t >>= fun t => .ok { t with State := 1 }))
    (hfits : (Lexeme.string string).Fits) (hstage : s.meta_stage = st.stage) (hfree : 0 ∉ string)
    (hne : string ≠ []) (hshort : string.length < st.limit) :
    ∃ l, Ahead l ts ∧ ∀ P, Returns (iteration s) P ↔
      s.outfile.length + (stringText string).length < OUTFILE_MAX_SIZE ∧
        P { stringRead st s l string with State := 1 } := by
  obtain ⟨l, hlex, hbuffer, -, text, hprinted, hfinput⟩ := ahead_word h hword open_fits
  rw [identifier_keyword hbuffer hreserved] at hlex
  obtain ⟨l', hts, hparse⟩ := returns_parseString
    (s := { s with lexer := { l with keyword_found := keyword } }) ⟨text, hprinted, hfinput⟩
    hfits hstage hfree hne hshort
  refine ⟨l', hts, fun P => ?_⟩
  rw [iteration_keyword hs hbraces hlex, hstate _ rfl, returns_bind, hparse]
  exact and_congr_right fun _ => returns_ok _

theorem keywordState_name (h : s.lexer.keyword_found = .KWNAME) : keywordState TK_KEYWORD s =
    (parseString nameStatement TK_KEYWORD s >>= fun t => .ok { t with State := 1 }) := by
  rw [keywordState, if_pos rfl, h]
  rfl

theorem keywordState_content (h : s.lexer.keyword_found = .KWCONTENT) : keywordState TK_KEYWORD s =
      (parseString contentStatement TK_KEYWORD s >>= fun t => .ok { t with State := 1 }) := by
  rw [keywordState, if_pos rfl, h]
  rfl

end Strings

section Return

variable {s : Interpreter} {ts : List Lexeme} {n : Nat}

def entryFinished (s : Interpreter) (l : Scanner) (value : Int) : Interpreter :=
  { s with
    lexer := l
    metadata := update s fun m =>
      { m with return_value := (value % 2 ^ 32).toNat, initialized := true, id := s.meta_index }
    meta_index := s.meta_index + 1 }

theorem returns_parseReturn {P : Int × Int × Interpreter → Prop}
    (hkeyword : s.lexer.keyword_found = .KWRETURN) (hbuffer : l.real_token_buffer = [59])
    (heval : ∀ Q, Returns (treeEval s.lexer) Q ↔ A ∧ Q (v, l)) :
    Returns (parseReturn TK_KEYWORD s) P ↔ A ∧ P (TK_SEPARATOR, v, { s with lexer := l }) := by
  have hsemicolon : tokenIs { s with lexer := l } ";" = true := by
    rw [tokenIs_eq hbuffer]
    decide
  rw [parseReturn, returns_bind, returns_require, and_iff_right ⟨rfl, hkeyword⟩, returns_bind,
    heval]
  refine and_congr_right fun _ => ?_
  change Returns (if tokenIs { s with lexer := l } ";" = true then _ else _) P ↔ _
  rw [if_pos hsemicolon, returns_ok]

theorem finishMeta_ok {value : Int} (h : s.meta_index + 1 < 32) :
    finishMeta value s = .ok (entryFinished s s.lexer value) := by
  rw [finishMeta]
  exact if_neg (by omega)

theorem returns_returnState (hkeyword : s.lexer.keyword_found = .KWRETURN)
    (hbuffer : l.real_token_buffer = [59]) (hindex : s.meta_index + 1 < 32)
    (heval : ∀ Q, Returns (treeEval s.lexer) Q ↔ A ∧ Q (v, l)) :
    Returns (keywordState TK_KEYWORD s) P ↔ A ∧ P { entryFinished s l v with State := 1 } := by
  have hfinish : finishMeta v { s with lexer := l } = .ok (entryFinished s l v) :=
    finishMeta_ok hindex
  rw [keywordState, if_pos rfl, hkeyword]
  change Returns (parseReturn TK_KEYWORD s >>= fun r =>
    require (r.1 = TK_SEPARATOR) "State3: TK_KEYWORD TK_SEPARATOR fail\n" >>= fun _ =>
      finishMeta r.2.1 r.2.2 >>= fun t => .ok { t with State := 1 }) P ↔ _
  rw [returns_bind, returns_parseReturn hkeyword hbuffer heval]
  refine and_congr_right fun _ => ?_
  rw [returns_bind, returns_require, and_iff_right rfl, hfinish, returns_bind, returns_ok,
    returns_ok]

theorem iteration_return (hs : s.State = 1) (hbraces : s.braces_inside > 0)
    (h : Ahead s.lexer (.word (bytes "return") :: .constant n :: SEMICOLON :: ts))
    (hword : (Lexeme.word (bytes "return")).Fits) (hn : n < 2 ^ 31)
    (hindex : s.meta_index + 1 < 32) :
    ∃ l, Ahead l ts ∧ ∀ P, Returns (iteration s) P ↔
      Readable n ∧ P { entryFinished s l (evaluated n) with State := 1 } := by
  obtain ⟨l, hlex, hbuffer, -, text, hprinted, hfinput⟩ := ahead_word h hword hn
  have hreserved : reservedWord (bytes "return") = some (.keyword .KWRETURN) := by
    decide
  rw [identifier_keyword hbuffer hreserved] at hlex
  obtain ⟨l', hts, hbuffer', heval⟩ := treeEval_constant
    (l := { l with keyword_found := .KWRETURN }) ⟨text, hprinted, hfinput⟩ hn
  refine ⟨l', hts, fun P => ?_⟩
  rw [iteration_keyword hs hbraces hlex]
  exact returns_returnState rfl hbuffer' hindex heval

end Return

end Gramado.Gramcnf.Statements
