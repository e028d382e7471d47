import Gramado.Gramcnf.Tree
import Gramado.Library.BoundedText

namespace Gramado.Gramcnf.Parser

open Library.BoundedText Rtl.Strings Gramcnf.Lexer Gramcnf.Tree

structure Metadata where
  initialized : Bool
  id : Nat
  meta_tag : Text
  tag_size : Nat
  name : Text
  name_size : Nat
  content : Text
  content_size : Nat
  return_value : Nat
  deriving DecidableEq, Repr

/-- The globals of the parser and the locals of `parse`. The index of the current entry of
`metadata` stays below the 32 entries. -/
structure Interpreter where
  lexer : Scanner
  metadata : Nat → Metadata
  meta_index : Nat
  meta_stage : Nat
  save_symbol : Text
  outfile : Text
  TEXT : Text
  DATA : Text
  BSS : Text
  State : Nat
  waiting_identifier_after_type : Bool
  braces_inside : Nat
  parentheses_inside : Nat
  square_brackets_inside : Nat
  running : Bool

def OUTFILE_MAX_SIZE : Nat := 512
def SECTION_SIZE : Nat := 1024
def SYMBOL_SIZE : Nat := 32

def require (c : Prop) [Decidable c] (message : String) : Except Stop Unit :=
  if c then .ok () else .error (.exit 1 message)

def lex (s : Interpreter) : Except Stop (Int × Interpreter) := do
  let (c, l) ← yylex s.lexer
  .ok (c, { s with lexer := l })

def tokenIs (s : Interpreter) (separator : String) : Bool :=
  strncmp s.lexer.real_token_buffer (bytes separator) 1 = 0

def emitText (s : Interpreter) (pieces : List Text) : Except Stop Interpreter := do
  let TEXT ← appendAll .outside SECTION_SIZE s.TEXT pieces
  .ok { s with TEXT := TEXT }

def emitBss (s : Interpreter) (pieces : List Text) : Except Stop Interpreter := do
  let BSS ← appendAll .outside SECTION_SIZE s.BSS pieces
  .ok { s with BSS := BSS }

def emitOutfile (s : Interpreter) (pieces : List Text) : Except Stop Interpreter := do
  let outfile ← appendAll .outside OUTFILE_MAX_SIZE s.outfile pieces
  .ok { s with outfile := outfile }

def emitLabel (s : Interpreter) : Except Stop Interpreter :=
  emitText s
    [bytes ";[LABEL]\n", bytes "segment .text\n", bytes "_", s.save_symbol, bytes ":\n"]

def emitFunction (s : Interpreter) : Except Stop Interpreter :=
  emitText s
    [bytes ";[FUNCTION] (\n", bytes "segment .text \n", bytes "_", s.save_symbol, bytes ":\n"]

/-- What `parse_name` and `parse_content` differ in. -/
structure StringStatement where
  word : String
  stage : Nat
  next : Nat
  limit : Nat
  store : Metadata → Text → Nat → Metadata
  error0 : String

def update (s : Interpreter) (f : Metadata → Metadata) : Nat → Metadata := fun i =>
  if i = s.meta_index then f (s.metadata i) else s.metadata i

/-- The string in the token buffer goes to the current entry, at the stage of the statement. -/
def storeString (st : StringStatement) (s : Interpreter) : Except Stop Interpreter :=
  if s.meta_stage = st.stage then
    let string_size := strlen s.lexer.real_token_buffer
    let string := strncpy s.lexer.real_token_buffer string_size
    if string_size ≤ 0 then .error (.exit 1 ("string size min\n" ++ st.error0))
    else if string_size ≥ st.limit then .error (.exit 1 ("string size max\n" ++ st.error0))
    else .ok { s with
      metadata := update s fun m => st.store m string string_size
      meta_stage := st.next }
  else .ok s

def parseString (st : StringStatement) (token : Int) (s : Interpreter) : Except Stop Interpreter := do
  require (token = TK_KEYWORD) ("parse_" ++ st.word ++ ": token error\n")
  let (c, s) ← lex s
  require (c = TK_SEPARATOR) ("parse_" ++ st.word ++ ": expected (\n")
  let (c, s) ← lex s
  require (c = TK_STRING) ("parse_" ++ st.word ++ ": expected string in " ++ st.word ++ "()\n")
  let s ← storeString st s
  let s ← emitOutfile s [cString s.lexer.real_token_buffer, bytes "\n"]
  let (_, s) ← lex s
  require (tokenIs s ")") ("parse_" ++ st.word ++ ": expected ) in " ++ st.word ++ " string\n")
  let (_, s) ← lex s
  require (tokenIs s ";") ("parse_" ++ st.word ++ ": expected ; in " ++ st.word ++ " string\n")
  .ok s

def nameStatement : StringStatement where
  word := "name"
  stage := 0
  next := 1
  limit := 64
  store := fun m string size => { m with name := string, name_size := size }
  error0 := "parse_name: todo unexpected error in name string\n"

def contentStatement : StringStatement where
  word := "content"
  stage := 1
  next := 0
  limit := 128
  store := fun m string size => { m with content := string, content_size := size }
  error0 := "parse_content: todo unexpected error in comtent string\n"

def parseName (token : Int) (s : Interpreter) : Except Stop Interpreter :=
  parseString nameStatement token s

def parseContent (token : Int) (s : Interpreter) : Except Stop Interpreter :=
  parseString contentStatement token s

/-- Where the expression does not end with a semicolon the routine waits for ever. -/
def parseReturn (token : Int) (s : Interpreter) : Except Stop (Int × Int × Interpreter) := do
  require (token = TK_KEYWORD ∧ s.lexer.keyword_found = .KWRETURN)
    "parse_return: Can't initialize return statement\n"
  let (eval_ret, l) ← treeEval s.lexer
  let s := { s with lexer := l }
  if tokenIs s ";" then .ok (TK_SEPARATOR, eval_ret, s) else .error .hang

def parseMark (keyword : Keyword) (word : String) (marks : List Text) (token : Int)
    (s : Interpreter) : Except Stop (Int × Interpreter) := do
  require (token = TK_KEYWORD ∧ s.lexer.keyword_found = keyword)
    ("parse_" ++ word ++ ": token error\n")
  let s ← emitText s marks
  let (c, s) ← lex s
  require (c = TK_SEPARATOR ∧ tokenIs s ";")
    "parse_exit: Error: ';' expected after exit (line %d)\n"
  .ok (TK_SEPARATOR, s)

def parseExit : Int → Interpreter → Except Stop (Int × Interpreter) :=
  parseMark .KWEXIT "exit" [bytes ";[EXIT]\n", bytes "  ; program requested exit\n"]

def parseBreak : Int → Interpreter → Except Stop (Int × Interpreter) :=
  parseMark .KWBREAK "break" [bytes ";[BREAK]\n", bytes "  ; program requested break\n"]

/-- `parse_if` and `parse_while`, whose value is used by nothing. -/
def parseCondition (word : String) (s : Interpreter) : Except Stop Interpreter := do
  let (c, s) ← lex s
  require (c = TK_SEPARATOR) ("parse_" ++ word ++ " separator missed\n")
  let (_, l) ← treeEval s.lexer
  let (c, s) ← lex { s with lexer := l }
  require (c = TK_SEPARATOR) ("parse_" ++ word ++ " separator \x7b missed\n")
  let (c, s) ← lex s
  require (c = TK_SEPARATOR) ("parse_" ++ word ++ " separator \x7d missed\n")
  let (c, s) ← lex s
  require (c = TK_SEPARATOR) ("parse_" ++ word ++ " separator ; missed\n")
  .ok s

def finishMeta (value : Int) (s : Interpreter) : Except Stop Interpreter :=
  let metadata := update s fun m =>
    { m with return_value := (value % 2 ^ 32).toNat, initialized := true, id := s.meta_index }
  if s.meta_index + 1 ≥ 32 then .error (.exit 0 "meta_index limits\n")
  else .ok { s with metadata := metadata, meta_index := s.meta_index + 1 }

def keywordState (token : Int) (s : Interpreter) : Except Stop Interpreter :=
  if token = TK_KEYWORD then
    match s.lexer.keyword_found with
    | .KWRETURN => do
        let (token, result, s) ← parseReturn TK_KEYWORD s
        require (token = TK_SEPARATOR) "State3: TK_KEYWORD TK_SEPARATOR fail\n"
        let s ← finishMeta result s
        .ok { s with State := 1 }
    | .KWEXIT => do
        let (token, s) ← parseExit TK_KEYWORD s
        require (token = TK_SEPARATOR) "State3: TK_KEYWORD TK_SEPARATOR fail\n"
        let s ← finishMeta 0 s
        .ok { s with State := 0, running := false }
    | .KWBREAK => do
        let (token, s) ← parseBreak TK_KEYWORD s
        require (token = TK_SEPARATOR) "State3: TK_KEYWORD TK_SEPARATOR fail\n"
        let s ← finishMeta 0 s
        .ok { s with State := 1 }
    | .KWIF => do
        let s ← parseCondition "if" s
        .ok { s with State := 1 }
    | .KWWHILE => do
        let s ← parseCondition "while" s
        .ok { s with State := 1 }
    | .KWNAME => do
        let s ← parseName TK_KEYWORD s
        .ok { s with State := 1 }
    | .KWCONTENT => do
        let s ← parseContent TK_KEYWORD s
        .ok { s with State := 1 }
    | _ => .ok { s with State := 3 }
  else if s.parentheses_inside > 0 then
    .error (.exit 1 "State3: Searching for keyword inside parentheses \n")
  else if s.braces_inside > 0 then .ok { s with State := 1 }
  else .error (.exit 1 "State3: default. keyword expected in line %d\n")

/-- The symbol is the format of `sprintf`: a conversion in it would take an argument that is
not there. -/
def saveSymbol (s : Interpreter) : Except Stop Interpreter := do
  let symbol := cString s.lexer.real_token_buffer
  if 37 ∈ symbol then .error .outside
  else do
    let save_symbol ← append .outside SYMBOL_SIZE [] symbol
    .ok { s with save_symbol := save_symbol }

def storeTag (s : Interpreter) : Except Stop Interpreter :=
  if s.waiting_identifier_after_type then
    let s := { s with waiting_identifier_after_type := false }
    if s.lexer.type_found = .TMETA then
      let string_size := strlen s.lexer.real_token_buffer
      let string := strncpy s.lexer.real_token_buffer string_size
      if string_size ≤ 0 then .error (.exit 1 "ERROR: tag size min\n")
      else if string_size ≥ 64 then .error (.exit 1 "ERROR: tag size max\n")
      else .ok { s with
        metadata := update s fun m => { m with meta_tag := string, tag_size := string_size } }
    else .ok s
  else .ok s

def emitVariable (s : Interpreter) : Except Stop Interpreter :=
  emitBss s [bytes "_", s.save_symbol, bytes ": dd 0 \n"]

def afterSymbol (token : Int) (s : Interpreter) : Except Stop Interpreter :=
  if token = TK_SEPARATOR ∧ tokenIs s ":" then do
    let s ← emitLabel s
    .ok { s with State := 1 }
  else if token = TK_SEPARATOR ∧ tokenIs s "[" then
    .ok { s with square_brackets_inside := s.square_brackets_inside + 1, State := 1 }
  else if token = TK_SEPARATOR ∧ tokenIs s "(" then do
    let s ← emitFunction { s with parentheses_inside := s.parentheses_inside + 1 }
    .ok { s with State := 1 }
  else if token = TK_SEPARATOR ∧ tokenIs s ")" then do
    require (¬ s.parentheses_inside < 1)
      "state2: Error trying to close a not opened parentheses in line %d \n"
    let s ← emitVariable { s with parentheses_inside := s.parentheses_inside - 1 }
    let (_, s) ← lex s
    if tokenIs s "\x7b" then .ok { s with braces_inside := s.braces_inside + 1, State := 1 }
    else .ok { s with State := 2 }
  else if token = TK_SEPARATOR ∧ (tokenIs s ";" ∨ tokenIs s ",") then do
    let s ← emitVariable s
    .ok { s with State := 1 }
  else .error (.exit 1 "state2: TK_IDENTIFIER fail\n")

def identifierState (token : Int) (s : Interpreter) : Except Stop Interpreter :=
  if token = TK_IDENTIFIER then do
    let s ← saveSymbol s
    let s ← storeTag s
    let (token, s) ← lex s
    afterSymbol token s
  else if s.parentheses_inside > 0 ∨ s.braces_inside > 0 then keywordState token s
  else .error (.exit 1 "State2: default. expected identifier on line %d.\n")

def typeState (token : Int) (s : Interpreter) : Except Stop Interpreter :=
  if token = TK_MODIFIER then .ok { s with State := 1 }
  else if token = TK_TYPE then
    .ok { s with
      waiting_identifier_after_type := s.waiting_identifier_after_type ||
        s.lexer.type_found = .TBOX || s.lexer.type_found = .TMETA
      State := 2 }
  else if token = TK_SEPARATOR then
    if tokenIs s "(" then
      emitOutfile { s with parentheses_inside := s.parentheses_inside + 1, State := 1 }
        [bytes "_", s.save_symbol, bytes ":\n"]
    else if tokenIs s "\x7b" then
      .ok { s with braces_inside := s.braces_inside + 1, State := 1 }
    else if tokenIs s "]" ∧ s.square_brackets_inside > 0 then
      .ok { s with
        square_brackets_inside := s.square_brackets_inside - 1
        State := 1
        running := if s.square_brackets_inside - 1 = 0 then false else s.running }
    else if tokenIs s ")" ∧ s.parentheses_inside > 0 then
      .ok { s with parentheses_inside := s.parentheses_inside - 1, State := 1 }
    else if tokenIs s "\x7d" ∧ s.braces_inside > 0 then
      .ok { s with braces_inside := s.braces_inside - 1, State := 1 }
    else .ok { s with State := 1 }
  -- The token is looked at again in the next state.
  else if s.parentheses_inside > 0 ∨ s.braces_inside > 0 then identifierState token s
  else .ok { s with running := false }

def separatorState (token : Int) (s : Interpreter) : Except Stop Interpreter := do
  require (token = TK_SEPARATOR) "State4: [default] Expected ';' separator in line %d\n"
  require (tokenIs s ";") "State4: [ERROR] Expected ';' in line %d\n"
  .ok s

/-- One token in the current state. A jump to `debug_output` ends the loop. -/
def dispatch (token : Int) (s : Interpreter) : Except Stop Interpreter :=
  match s.State with
  | 1 => typeState token s
  | 2 => identifierState token s
  | 3 => keywordState token s
  | 4 => separatorState token s
  | _ => .ok { s with running := false }

def iteration (s : Interpreter) : Except Stop Interpreter := do
  let (token, s) ← lex s
  if token = TK_EOF then .ok { s with running := false } else dispatch token s

def loop : Nat → Interpreter → Except Stop Interpreter
  | 0, _ => .error .hang
  | fuel + 1, s =>
      if s.running then do
        let s ← iteration s
        loop fuel s
      else .ok s

def concatIntoOutfile (s : Interpreter) : Except Stop Interpreter :=
  emitOutfile s [s.TEXT, s.DATA, s.BSS]

def parse (dump_output : Bool) (s : Interpreter) : Except Stop Interpreter := do
  let s ← loop (s.lexer.finput.length + 2) { s with
    meta_index := 0
    State := 1
    waiting_identifier_after_type := false
    braces_inside := 0
    parentheses_inside := 0
    square_brackets_inside := 0
    running := true }
  if dump_output then concatIntoOutfile s else .ok s

def blankMetadata : Metadata := ⟨false, 0, [], 0, [], 0, [], 0, 0⟩

/-- The state after `gramcnf_initialize`, `lexer_initialize` and `parser_initialize`. -/
def gramcnfInitialize (finput : List Int) : Interpreter where
  lexer := lexerInitialize finput
  metadata := fun _ => blankMetadata
  meta_index := 0
  meta_stage := 0
  save_symbol := []
  outfile := bytes "; ========================\n" ++ bytes ";Initializing outfile ... \n\n"
  TEXT := bytes "; ======================== \n" ++ bytes "; Initializing TEXT buffer \n" ++
    bytes "segment .text              \n"
  DATA := bytes "; ======================== \n" ++ bytes "; Initializing DATA buffer \n" ++
    bytes "segment .data              \n"
  BSS := bytes "; ======================== \n" ++ bytes "; Initializing BSS buffer  \n" ++
    bytes "segment .bss               \n"
  State := 1
  waiting_identifier_after_type := false
  braces_inside := 0
  parentheses_inside := 0
  square_brackets_inside := 0
  running := true

end Gramado.Gramcnf.Parser
