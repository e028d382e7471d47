import Gramado.Rtl.Input
import Gramado.Rtl.Strings

namespace Gramado.Gramcnf.Lexer

open Rtl.Strings
open Rtl.Stream (EOF)

def MAXTOKEN : Nat := 256

/-- Why the interpreter does not go on: `exit` after a message, a byte outside a buffer, or a
loop without an end. -/
inductive Stop where
  | exit (status : Int) (message : String)
  | outside
  | hang
  deriving DecidableEq, Repr

inductive Keyword where
  | KWNULL | KWVOID | KWCHAR | KWSHORT | KWINT | KWLONG | KWBOX | KWMETA | KWDEF | KWVAR | KWLET
  | KWNAME | KWCONTENT | KWINLINE | KWSTATIC | KWVOLATILE | KWSIGNED | KWUNSIGNED | KWSWITCH
  | KWCASE | KWBREAK | KWDEFAULT | KWIF | KWELSE | KWDO | KWWHILE | KWFOR | KWCONTINUE
  | KWSTRUCT | KWENUM | KWUNION | KWSIZEOF | KWGOTO | KWRETURN | KWEXIT
  deriving DecidableEq, Repr

inductive DataType where
  | TNULL | TVOID | TCHAR | TSHORT | TINT | TLONG | TBOX | TMETA | TDEF | TVAR | TLET
  deriving DecidableEq, Repr

inductive LexerExpr where
  | LEXERCODE_NULL | PLUS_EXPR | MINUS_EXPR | BIT_AND_EXPR | BIT_IOR_EXPR | MULT_EXPR
  | TRUNC_DIV_EXPR | TRUNC_MOD_EXPR | BIT_XOR_EXPR | LSHIFT_EXPR | RSHIFT_EXPR | LT_EXPR
  | GT_EXPR | LE_EXPR | GE_EXPR | NE_EXPR | EQ_EXPR
  deriving DecidableEq, Repr

-- A token is one of these classes or the code of a character.
def TK_EOF : Int := 1
def TK_KEYWORD : Int := 2
def TK_IDENTIFIER : Int := 3
def TK_CONSTANT : Int := 4
def TK_STRING : Int := 5
def TK_SEPARATOR : Int := 7
def TK_MODIFIER : Int := 10
def TK_TYPE : Int := 11
def TK_ARITHCOMPARE : Int := 12
def TK_EQCOMPARE : Int := 13
def TK_ASSIGN : Int := 14
def TK_PLUSPLUS : Int := 15
def TK_MINUSMINUS : Int := 16
def TK_ANDAND : Int := 17
def TK_OROR : Int := 18
def TK_LSHIFT : Int := 19
def TK_RSHIFT : Int := 20
def TK_POINTSAT : Int := 21

/-- The globals of the lexer. `finput` are the characters that `getc` has still to deliver. -/
structure Scanner where
  finput : List Int
  real_token_buffer : Text
  keyword_found : Keyword
  type_found : DataType
  lexer_expression : LexerExpr
  deriving DecidableEq, Repr

def getc : List Int → Int × List Int
  | [] => (EOF, [])
  | c :: finput => (c, finput)

def ungetc (c : Int) (finput : List Int) : List Int :=
  if c = EOF then finput else c.bmod 256 :: finput

def blank (c : Int) : Bool := c = 32 || c = 9 || c = 12 || c = 13 || c = 8

/-- Where the scan stands: in the text, behind a slash, in a comment that ends with the line, or
in one that ends with a star and a slash. -/
inductive Place where
  | code
  | slash
  | line
  | comment (star : Bool)
  deriving DecidableEq, Repr

def skipWhiteSpace : Place → List Int → Except Stop (Int × List Int)
  | .code, [] => .ok (EOF, [])
  | .code, c :: finput =>
      if blank c || c = 10 then skipWhiteSpace .code finput
      else if c = 47 then skipWhiteSpace .slash finput
      else .ok (c, finput)
  | .slash, [] => .ok (47, [])
  | .slash, c :: finput =>
      if c = 47 then skipWhiteSpace .line finput
      else if c = 42 then skipWhiteSpace (.comment false) finput
      else .ok (47, ungetc c finput)
  -- At the end of the file the loop of this comment goes on reading `EOF`.
  | .line, [] => .error .hang
  | .line, c :: finput =>
      if c = 10 then skipWhiteSpace .code finput else skipWhiteSpace .line finput
  | .comment _, [] =>
      .error (.exit 1 "__skip_white_space: Unterminated comment in line %d\n")
  | .comment star, c :: finput =>
      if c = 42 then skipWhiteSpace (.comment true) finput
      else if star && c = 47 then skipWhiteSpace .code finput
      else if c = EOF || c = 0 then
        .error (.exit 1 "__skip_white_space: Unterminated comment in line %d\n")
      else skipWhiteSpace (.comment false) finput

/-- The loops that copy accepted characters to the token buffer while it has room, with the
character that ends them. -/
def collect (accept : Int → Bool) : Nat → List Int → Except Stop (Text × Int × List Int)
  | 0, finput =>
      if accept (getc finput).1 then .error .outside
      else .ok ([], (getc finput).1, (getc finput).2)
  | room + 1, finput =>
      if accept (getc finput).1 then do
        let (text, c, rest) ← collect accept room (getc finput).2
        .ok (.ofInt (getc finput).1 :: text, c, rest)
      else .ok ([], (getc finput).1, (getc finput).2)

inductive Reserved where
  | modifier (keyword : Keyword)
  | type (keyword : Keyword) (type : DataType)
  | keyword (keyword : Keyword)
  deriving DecidableEq, Repr

def reservedWords : List (Text × Reserved) := [
  (bytes "signed", .modifier .KWSIGNED),
  (bytes "unsigned", .modifier .KWUNSIGNED),
  (bytes "inline", .modifier .KWINLINE),
  (bytes "static", .modifier .KWSTATIC),
  (bytes "volatile", .modifier .KWVOLATILE),
  (bytes "void", .type .KWVOID .TVOID),
  (bytes "char", .type .KWCHAR .TCHAR),
  (bytes "short", .type .KWSHORT .TSHORT),
  (bytes "int", .type .KWINT .TINT),
  (bytes "long", .type .KWLONG .TLONG),
  (bytes "box", .type .KWBOX .TBOX),
  (bytes "meta", .type .KWMETA .TMETA),
  (bytes "def", .type .KWDEF .TDEF),
  (bytes "var", .type .KWVAR .TVAR),
  (bytes "let", .type .KWLET .TLET),
  (bytes "name", .keyword .KWNAME),
  (bytes "content", .keyword .KWCONTENT),
  (bytes "goto", .keyword .KWGOTO),
  (bytes "return", .keyword .KWRETURN),
  (bytes "exit", .keyword .KWEXIT),
  (bytes "switch", .keyword .KWSWITCH),
  (bytes "case", .keyword .KWCASE),
  (bytes "break", .keyword .KWBREAK),
  (bytes "default", .keyword .KWDEFAULT),
  (bytes "for", .keyword .KWFOR),
  (bytes "continue", .keyword .KWCONTINUE),
  (bytes "do", .keyword .KWDO),
  (bytes "while", .keyword .KWWHILE),
  (bytes "if", .keyword .KWIF),
  (bytes "else", .keyword .KWELSE),
  (bytes "union", .keyword .KWUNION),
  (bytes "struct", .keyword .KWSTRUCT),
  (bytes "enum", .keyword .KWENUM),
  (bytes "sizeof", .keyword .KWSIZEOF)]

def reservedWord (buffer : Text) : Option Reserved :=
  (reservedWords.find? fun entry => strncmp buffer entry.1 entry.1.length = 0).map (·.2)

def identifier (l : Scanner) : Int × Scanner :=
  match reservedWord l.real_token_buffer with
  | none => (TK_IDENTIFIER, l)
  | some (.modifier keyword) => (TK_MODIFIER, { l with keyword_found := keyword })
  | some (.type keyword type) =>
      (TK_TYPE, { l with keyword_found := keyword, type_found := type })
  | some (.keyword keyword) => (TK_KEYWORD, { l with keyword_found := keyword })

def starts (c : Int) : Bool := (65 ≤ c && c ≤ 90) || (97 ≤ c && c ≤ 122) || c = 95

def continues (c : Int) : Bool := isalnum c || c = 95

/-- A word, with `c` in the buffer: 254 characters more and a NUL fit behind it. -/
def scanWord (c : Int) (l : Scanner) : Except Stop (Int × Scanner) := do
  let (text, last, finput) ← collect continues (MAXTOKEN - 2) l.finput
  .ok (identifier
    { l with finput := ungetc last finput, real_token_buffer := .ofInt c :: text })

def scanConstant (c : Int) (l : Scanner) : Except Stop (Int × Scanner) :=
  if c = 48 then
    let x := (getc l.finput).1
    if x = 120 ∨ x = 88 then do
      let (text, last, finput) ← collect isxdigit (MAXTOKEN - 3) (getc l.finput).2
      .ok (TK_CONSTANT, { l with
        finput := ungetc last finput, real_token_buffer := 48 :: .ofInt x :: text })
    else .error (.exit 1 "yylex: FAIL expected x in constant in line %")
  else do
    let (text, last, finput) ← collect isdigit (MAXTOKEN - 2) l.finput
    .ok (TK_CONSTANT,
      { l with finput := ungetc last finput, real_token_buffer := .ofInt c :: text })

def scanString (l : Scanner) : Except Stop (Int × Scanner) := do
  let (text, _, finput) ← collect (fun c => c ≠ 34) (MAXTOKEN - 1) l.finput
  .ok (TK_STRING, { l with finput := finput, real_token_buffer := text })

def separators : List Int := [40, 41, 123, 125, 91, 93, 44, 46, 59, 58, 63]

def operators : List Int := [43, 45, 42, 47, 60, 62, 38, 124, 37, 94, 33, 61]

def expressions : List (Int × LexerExpr) := [
  (43, .PLUS_EXPR), (45, .MINUS_EXPR), (42, .MULT_EXPR), (47, .TRUNC_DIV_EXPR),
  (38, .BIT_AND_EXPR), (124, .BIT_IOR_EXPR), (37, .TRUNC_MOD_EXPR), (94, .BIT_XOR_EXPR),
  (TK_LSHIFT, .LSHIFT_EXPR), (TK_RSHIFT, .RSHIFT_EXPR), (60, .LT_EXPR), (62, .GT_EXPR)]

def assigned (c : Int) (l : Scanner) : Int × Scanner :=
  if c = 60 then (TK_ARITHCOMPARE, { l with lexer_expression := .LE_EXPR })
  else if c = 62 then (TK_ARITHCOMPARE, { l with lexer_expression := .GE_EXPR })
  else if c = 33 then (TK_EQCOMPARE, { l with lexer_expression := .NE_EXPR })
  else if c = 61 then (TK_EQCOMPARE, { l with lexer_expression := .EQ_EXPR })
  else (TK_ASSIGN, l)

def doubled : List (Int × Int) :=
  [(43, TK_PLUSPLUS), (45, TK_MINUSMINUS), (38, TK_ANDAND), (124, TK_OROR)]

/-- A shift goes back to the label `combine` once, with its class in the place of `c`. -/
def combine : Nat → Int → Scanner → Int × Scanner
  | 0, c, l => (c, l)
  | again + 1, c, l =>
      let l := { l with lexer_expression := (expressions.lookup c).getD l.lexer_expression }
      let c1 := (getc l.finput).1
      let l := { l with finput := (getc l.finput).2 }
      if c1 = 61 then assigned c l
      else if c = c1 ∧ (doubled.lookup c).isSome then ((doubled.lookup c).getD c, l)
      else if c = c1 ∧ c = 60 then combine again TK_LSHIFT l
      else if c = c1 ∧ c = 62 then combine again TK_RSHIFT l
      else if c = 45 ∧ c1 = 62 then (TK_POINTSAT, l)
      else
        let l := { l with finput := ungetc c1 l.finput }
        if c = 60 ∨ c = 62 then (TK_ARITHCOMPARE, l) else (c, l)

def scanToken (c : Int) (l : Scanner) : Except Stop (Int × Scanner) :=
  if c = EOF ∨ c = 0 then .ok (TK_EOF, l)
  else if starts c then scanWord c l
  else if isdigit c then scanConstant c l
  else if c = 34 then scanString l
  else if c ∈ separators then .ok (TK_SEPARATOR, { l with real_token_buffer := [.ofInt c] })
  else if c ∈ operators then .ok (combine 2 c l)
  else .ok (c, l)

def yylex (l : Scanner) : Except Stop (Int × Scanner) := do
  let (c, finput) ← skipWhiteSpace .code l.finput
  scanToken c { l with finput := finput }

/-- The state of the lexer after `lexer_initialize`, in front of a file. -/
def lexerInitialize (finput : List Int) : Scanner :=
  ⟨finput, [], .KWNULL, .TNULL, .LEXERCODE_NULL⟩

section Stream

open Rtl.Input

/-- The characters that `getc` has still to deliver of a stream. -/
def delivered (a : Bytes) : List Int :=
  a.pushed.toList ++ a.rest.map fun b => (b.toNat : Int)

end Stream

end Gramado.Gramcnf.Lexer
