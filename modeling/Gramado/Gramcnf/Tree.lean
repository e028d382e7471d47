import Gramado.Gramcnf.Lexer

namespace Gramado.Gramcnf.Tree

open Rtl.Strings Gramcnf.Lexer

inductive NodeType where
  | invalid
  | operator
  | digit
  deriving DecidableEq, Repr

inductive Node where
  | null
  | node (datatype : NodeType) (data : Int) (left right : Node)
  deriving DecidableEq, Repr

def insert : Node → NodeType → Int → Node
  | .null, datatype, data => .node datatype data .null .null
  | .node t x left right, .digit, data => .node t x left (insert right .digit data)
  | .node t x left right, datatype, data => .node t x (insert left datatype data) right

/-- The entries of `DT_BUFFER` and `POS_BUFFER`, which have 32 places. -/
def exibirPosOrdemAndInclude : Node → List (NodeType × Int) → List (NodeType × Int)
  | .null, buffer => buffer
  | .node t x left right, buffer =>
      if buffer.length ≥ 32 then buffer
      else
        exibirPosOrdemAndInclude right
          (exibirPosOrdemAndInclude left (buffer ++ [(t, x)]))

/-- The tree of an expression: operators to the left, numbers to the right, told apart by their
low byte alone. -/
def bstInitialize (exp_buffer : List Int) : List (NodeType × Int) :=
  let buffer_op := (exp_buffer.filter fun x => x % 256 ∈ operators).map (· % 256)
  let buffer_digits := exp_buffer.filter fun x => x % 256 ∉ operators
  let root := insert .null .invalid 82
  let root := buffer_op.foldl (fun root x => insert root .operator x) root
  let root := buffer_digits.foldl (fun root x => insert root .digit x) root
  exibirPosOrdemAndInclude root []

structure Stack where
  top : Int
  items : Int → Int

def push (s : Stack) (x : Int) : Stack :=
  if s.top < 0 ∨ s.top ≥ 32 then s
  else ⟨s.top + 1, fun i => if i = s.top then x else s.items i⟩

def pop (s : Stack) : Int × Stack :=
  if s.top < 0 ∨ s.top ≥ 32 then (0, s)
  else (s.items s.top, { s with top := if s.top > 0 then s.top - 1 else s.top })

def bitwise (f : BitVec 32 → BitVec 32 → BitVec 32) (a b : Int) : Int :=
  (f (.ofInt 32 a) (.ofInt 32 b)).toInt

def oper (c opnd1 opnd2 : Int) : Int :=
  if c = 42 then int (opnd1 * opnd2)
  else if c = 43 then int (opnd1 + opnd2)
  else if c = 45 then int (opnd1 - opnd2)
  else if c = 47 then if opnd2 = 0 then 0 else int (opnd1.tdiv opnd2)
  else if c = 37 then if opnd2 = 0 then 0 else int (opnd1.tmod opnd2)
  else if c = 38 then bitwise (· &&& ·) opnd1 opnd2
  else if c = 124 then bitwise (· ||| ·) opnd1 opnd2
  else if c = 94 then bitwise (· ^^^ ·) opnd1 opnd2
  else if c = 60 then if opnd1 < opnd2 then 1 else 0
  else if c = 62 then if opnd1 > opnd2 then 1 else 0
  else 0

/-- The locals of `__eval`. -/
structure Eval where
  stk : Stack
  opCHSaved : Int
  operatorFound : Bool
  digitCounter : Nat

/-- The operator is applied at the second number, to what the stack holds then. -/
def evalDigit (e : Eval) (x : Int) : Eval :=
  let stk := push e.stk x
  if e.operatorFound ∧ e.digitCounter + 1 = 2 then
    let (opnd2, stk) := pop { stk with top := stk.top - 1 }
    let (opnd1, stk) := pop stk
    { e with
      stk := push stk (oper e.opCHSaved opnd1 opnd2)
      digitCounter := e.digitCounter + 1 }
  else { e with stk := stk, digitCounter := e.digitCounter + 1 }

def evalStep (e : Eval) (entry : NodeType × Int) : Except Stop Eval :=
  let opCH := entry.2 % 256
  if opCH ∈ operators then
    if entry.1 ≠ .operator then
      .error (.exit 1 "__eval: Expected DT_OPERATOR data type in %d\n")
    else .ok { e with opCHSaved := opCH, operatorFound := true }
  else if opCH = 82 then
    if entry.1 ≠ .invalid then
      .error (.exit 1 "__eval: Expected DT_INVALID data type in %d\n")
    else .ok e
  else if entry.1 ≠ .digit then
    .error (.exit 1 "__eval: Expected DT_DIGIT data type in %d\n")
  else .ok (evalDigit e entry.2)

def eval (exp_offset : Nat) (buffer : List (NodeType × Int)) : Except Stop Int := do
  let entries := (List.range (exp_offset + 1)).map fun i => buffer.getD i (.invalid, 0)
  let e ← entries.foldlM evalStep ⟨⟨0, fun _ => 0⟩, 0, false, 0⟩
  .ok (pop { e.stk with top := e.stk.top - 1 }).1

def expStore (exp_buffer : List Int) (x : Int) : Except Stop (List Int) :=
  if exp_buffer.length < 32 then .ok (exp_buffer ++ [x]) else .error .outside

/-- One token of an expression; `next` goes on with the loop. The flag is the state: in the
first one a number is expected. -/
def expressionToken (next : Bool → List Int → Scanner → Except Stop (List Int × Scanner))
    (number : Bool) (exp_buffer : List Int) (c : Int) (l : Scanner) :
    Except Stop (List Int × Scanner) :=
  if c = TK_EOF then .error (.exit 1 "tree_eval: #error EOF in line %d\n")
  else if c = TK_SEPARATOR ∧ strncmp l.real_token_buffer (bytes ";") 1 = 0 then do
    let _ ← expStore exp_buffer 0
    .ok (exp_buffer, l)
  else if number then
    if c = TK_CONSTANT then do
      let exp_buffer ← expStore exp_buffer (atoi l.real_token_buffer)
      next false exp_buffer l
    else .error (.exit 1 "tree_eval: State1 default\n")
  else if c ∈ operators then do
    let exp_buffer ← expStore exp_buffer c
    next true exp_buffer l
  else if c = TK_SEPARATOR ∧ strncmp l.real_token_buffer (bytes ")") 1 = 0 then do
    let _ ← expStore exp_buffer 0
    .ok (exp_buffer, l)
  else if c = TK_ARITHCOMPARE ∧ l.lexer_expression = .LT_EXPR then do
    let exp_buffer ← expStore exp_buffer 60
    next true exp_buffer l
  else if c = TK_ARITHCOMPARE ∧ l.lexer_expression = .GT_EXPR then do
    let exp_buffer ← expStore exp_buffer 62
    next true exp_buffer l
  else next false exp_buffer l

def expression : Nat → Bool → List Int → Scanner → Except Stop (List Int × Scanner)
  | 0, _, _, _ => .error .hang
  | fuel + 1, number, exp_buffer, l => do
      let (c, l) ← yylex l
      expressionToken (expression fuel) number exp_buffer c l

/-- Every token but the end of the file takes a character, so that the fuel lasts. -/
def treeEval (l : Scanner) : Except Stop (Int × Scanner) := do
  let (exp_buffer, l) ← expression (l.finput.length + 1) true [] l
  let value ← eval exp_buffer.length (bstInitialize exp_buffer)
  .ok (value, l)

end Gramado.Gramcnf.Tree
