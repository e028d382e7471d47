import Gramado.Gramcnf.Constants
import Gramado.Gramcnf.Tokens
import Gramado.Library.Precedence

/-! What `tree_eval` makes of expressions, and what they mean in C. -/

namespace Gramado.Gramcnf.Expressions

open Library.CheckedRead Library.Precedence Rtl.Strings Rtl.Decimal Gramcnf.Lexer
open Gramcnf.Printing (characters)
open Gramcnf.Tree Gramcnf.Constants Gramcnf.Tokens
open Gramcnf.Scanning (scan_constant scan_zero scan_separator)

inductive Operator where
  | plus | minus | times | divided | modulo | bitAnd | bitOr | bitXor | less | greater
  deriving DecidableEq, Repr

namespace Operator

def code : Operator → UInt8
  | plus => 43
  | minus => 45
  | times => 42
  | divided => 47
  | modulo => 37
  | bitAnd => 38
  | bitOr => 124
  | bitXor => 94
  | less => 60
  | greater => 62

def level : Operator → Nat
  | times | divided | modulo => 0
  | plus | minus => 1
  | less | greater => 2
  | bitAnd => 3
  | bitXor => 4
  | bitOr => 5

def apply : Operator → Int32 → Int32 → Int32
  | plus, a, b => a + b
  | minus, a, b => a - b
  | times, a, b => a * b
  | divided, a, b => if b = 0 then 0 else a / b
  | modulo, a, b => if b = 0 then 0 else a % b
  | bitAnd, a, b => a &&& b
  | bitOr, a, b => a ||| b
  | bitXor, a, b => a ^^^ b
  | less, a, b => if a < b then 1 else 0
  | greater, a, b => if b < a then 1 else 0

end Operator

abbrev Rest := List (Operator × Nat)

def HasValue (n₀ : Nat) (es : Rest) (v : Int32) : Prop :=
  Value Operator.level Operator.apply 6 (Int32.ofNat n₀)
    (es.map fun e => (e.1, Int32.ofNat e.2)) v

inductive Written : Nat → Rest → Text → Prop where
  | last {n : Nat} {w w' : Text} : (∀ c ∈ w, Blank c) → (∀ c ∈ w', Blank c) →
      Written n [] (w ++ (decimal n ++ (w' ++ [59])))
  | operation {n m : Nat} {op : Operator} {es : Rest} {w w' text : Text} : (∀ c ∈ w, Blank c) →
      (∀ c ∈ w', Blank c) → Written m es text →
        Written n ((op, m) :: es) (w ++ (decimal n ++ (w' ++ op.code :: text)))

def constants (n₀ : Nat) (es : Rest) : List Nat := n₀ :: es.map (·.2)

def items (n₀ : Nat) (es : Rest) : List Int :=
  (n₀ : Int) :: es.flatMap fun e => [(e.1.code.toNat : Int), (e.2 : Int)]

def codes (xs : List Int) : List Int :=
  (xs.filter fun x => x % 256 ∈ operators).map (· % 256)

def numbers (xs : List Int) : List Int :=
  xs.filter fun x => x % 256 ∉ operators

/-- What the stack leaves: the last operator is applied to the first two numbers, and then every
number is put on top. -/
def leftOver (codes : List Int) : List Int → Int
  | [] => 0
  | [a] => a
  | [a, b] => if codes = [] then b else oper (codes.getLastD 0) a b
  | _ :: _ :: d :: ds => ds.getLastD d

/-- When `tree_eval` gives the value: one operator at most and no constant whose low byte is the
code of one, or what is left over happens to be the value. The lexer takes no zero, and the low
byte of no constant may be the mark of the root. -/
structure Evaluates (n₀ : Nat) (es : Rest) (v : Int32) : Prop where
  readable : ∀ n ∈ constants n₀ es, Readable n
  value : (es.length ≤ 1 ∧ ∀ n ∈ constants n₀ es, ¬ LikeOperator n) ∨
    leftOver (codes (items n₀ es)) (numbers (items n₀ es)) = v.toInt

section Arithmetic

theorem int_toInt (x : Int32) : int x.toInt = x.toInt := Int32.toInt_bmod x

theorem bitwise_toInt (f : BitVec 32 → BitVec 32 → BitVec 32) (a b : Int32) :
    bitwise f a.toInt b.toInt = (f a.toBitVec b.toBitVec).toInt := by
  rw [bitwise, Int32.toInt, Int32.toInt, BitVec.ofInt_toInt, BitVec.ofInt_toInt]

theorem toInt_eq_zero_iff (b : Int32) : b.toInt = 0 ↔ b = 0 := by
  rw [← Int32.toInt_inj]
  rfl

theorem oper_apply (op : Operator) (a b : Int32) :
    oper op.code.toNat a.toInt b.toInt = (op.apply a b).toInt := by
  cases op with
  | plus => exact (Int32.toInt_add a b).symm
  | minus => exact (Int32.toInt_sub a b).symm
  | times => exact (Int32.toInt_mul a b).symm
  | divided =>
      change (if b.toInt = 0 then 0 else int (a.toInt.tdiv b.toInt)) = _
      simp only [toInt_eq_zero_iff, Operator.apply]
      split_ifs
      · rfl
      · exact (Int32.toInt_div a b).symm
  | modulo =>
      change (if b.toInt = 0 then 0 else int (a.toInt.tmod b.toInt)) = _
      simp only [toInt_eq_zero_iff, Operator.apply]
      split_ifs
      · rfl
      · rw [← Int32.toInt_mod]
        exact int_toInt (a % b)
  | bitAnd => exact bitwise_toInt _ a b
  | bitOr => exact bitwise_toInt _ a b
  | bitXor => exact bitwise_toInt _ a b
  | less =>
      change (if a.toInt < b.toInt then 1 else 0) = _
      simp only [← Int32.lt_iff_toInt_lt, Operator.apply]
      split_ifs
      · rfl
      · rfl
  | greater =>
      change (if a.toInt > b.toInt then 1 else 0) = _
      simp only [gt_iff_lt, ← Int32.lt_iff_toInt_lt, Operator.apply]
      split_ifs
      · rfl
      · rfl

theorem level_lt (op : Operator) : op.level < 6 := by
  cases op <;> decide

end Arithmetic

variable {xs : List Int}

section Trees

/-- The operators stand below each other to the left, and the numbers to the right. -/
def leftSpine : List Int → Node
  | [] => .null
  | x :: xs => .node .operator x (leftSpine xs) .null

def rightSpine : List Int → Node
  | [] => .null
  | x :: xs => .node .digit x .null (rightSpine xs)

theorem insert_leftSpine (xs : List Int) (x : Int) :
    insert (leftSpine xs) .operator x = leftSpine (xs ++ [x]) := by
  induction xs with
  | nil => rfl
  | cons y xs ih => rw [leftSpine, Tree.insert, ih, List.cons_append, leftSpine]; simp

theorem insert_rightSpine (xs : List Int) (x : Int) :
    insert (rightSpine xs) .digit x = rightSpine (xs ++ [x]) := by
  induction xs with
  | nil => rfl
  | cons y xs ih => rw [rightSpine, Tree.insert, ih, List.cons_append, rightSpine]

theorem insert_operators (xs ys : List Int) :
    xs.foldl (fun root x => insert root .operator x) (.node .invalid 82 (leftSpine ys) .null) =
      .node .invalid 82 (leftSpine (ys ++ xs)) .null := by
  induction xs generalizing ys with
  | nil => rw [List.append_nil, List.foldl_nil]
  | cons x xs ih =>
      rw [List.foldl_cons, Tree.insert, insert_leftSpine, ih, List.append_assoc]
      · rfl
      · simp

theorem insert_digits (left : Node) (xs ys : List Int) :
    xs.foldl (fun root x => insert root .digit x) (.node .invalid 82 left (rightSpine ys)) =
      .node .invalid 82 left (rightSpine (ys ++ xs)) := by
  induction xs generalizing ys with
  | nil => rw [List.append_nil, List.foldl_nil]
  | cons x xs ih =>
      rw [List.foldl_cons, Tree.insert, insert_rightSpine, ih, List.append_assoc]
      rfl

theorem include_leftSpine (xs : List Int) (buffer : List (NodeType × Int))
    (h : buffer.length + xs.length ≤ 32) :
    exibirPosOrdemAndInclude (leftSpine xs) buffer = buffer ++ xs.map (NodeType.operator, ·) := by
  induction xs generalizing buffer with
  | nil => rw [leftSpine, exibirPosOrdemAndInclude, List.map_nil, List.append_nil]
  | cons x xs ih =>
      rw [List.length_cons] at h
      rw [leftSpine, exibirPosOrdemAndInclude, if_neg (by omega), exibirPosOrdemAndInclude, ih]
      · simp
      · rw [List.length_append, List.length_singleton]
        omega

theorem include_rightSpine (xs : List Int) (buffer : List (NodeType × Int))
    (h : buffer.length + xs.length ≤ 32) :
    exibirPosOrdemAndInclude (rightSpine xs) buffer = buffer ++ xs.map (NodeType.digit, ·) := by
  induction xs generalizing buffer with
  | nil => rw [rightSpine, exibirPosOrdemAndInclude, List.map_nil, List.append_nil]
  | cons x xs ih =>
      rw [List.length_cons] at h
      rw [rightSpine, exibirPosOrdemAndInclude, if_neg (by omega), exibirPosOrdemAndInclude, ih]
      · simp
      · rw [List.length_append, List.length_singleton]
        omega

theorem codes_numbers_length (xs : List Int) :
    (codes xs).length + (numbers xs).length = xs.length := by
  rw [codes, numbers, List.length_map]
  have hsplit := List.length_eq_length_filter_add (l := xs) fun x => decide (x % 256 ∈ operators)
  simpa using hsplit.symm

def entries (xs : List Int) : List (NodeType × Int) :=
  (.invalid, 82) :: (codes xs).map (.operator, ·) ++ (numbers xs).map (.digit, ·)

theorem entries_length (xs : List Int) : (entries xs).length = xs.length + 1 := by
  have hlength := codes_numbers_length xs
  simp only [entries, List.cons_append, List.length_cons, List.length_append, List.length_map]
  omega

theorem bst_entries (h : xs.length < 32) : bstInitialize xs = entries xs := by
  have hlength := codes_numbers_length xs
  have hoperators := insert_operators (codes xs) []
  have hdigits := insert_digits (leftSpine (codes xs)) (numbers xs) []
  rw [List.nil_append] at hoperators hdigits
  change exibirPosOrdemAndInclude ((numbers xs).foldl (fun root x => insert root .digit x)
    ((codes xs).foldl (fun root x => insert root .operator x)
      (.node .invalid 82 (leftSpine []) .null))) [] = _
  rw [hoperators]
  change exibirPosOrdemAndInclude ((numbers xs).foldl (fun root x => insert root .digit x)
    (.node .invalid 82 (leftSpine (codes xs)) (rightSpine []))) [] = _
  rw [hdigits, exibirPosOrdemAndInclude, if_neg (by simp), List.nil_append, include_leftSpine,
    include_rightSpine]
  · rfl
  · rw [List.length_append, List.length_map, List.length_singleton]
    omega
  · rw [List.length_singleton]
    omega

end Trees

section Evaluation

variable {e : Eval}

def start : Eval := ⟨⟨0, fun _ => 0⟩, 0, false, 0⟩

def result (e : Eval) : Int := (pop { e.stk with top := e.stk.top - 1 }).1

theorem eval_codes {cs : List Int} (h : ∀ c ∈ cs, c % 256 = c ∧ c ∈ operators) :
    (cs.map (NodeType.operator, ·)).foldlM evalStep e = .ok { e with
        opCHSaved := cs.getLastD e.opCHSaved
        operatorFound := e.operatorFound || !cs.isEmpty } := by
  induction cs generalizing e with
  | nil => simp [pure, Except.pure]
  | cons c cs ih =>
      obtain ⟨⟨hlow, hin⟩, hcs⟩ := List.forall_mem_cons.mp h
      have hstep : evalStep e (.operator, c) =
          .ok { e with opCHSaved := c, operatorFound := true } := by
        rw [evalStep]
        dsimp only
        rw [hlow, if_pos hin, if_neg (by simp)]
      rw [List.map_cons, List.foldlM_cons, hstep, ok_bind, ih hcs, List.getLastD_cons]
      simp

theorem eval_numbers {ds : List Int} (h : ∀ d ∈ ds, d % 256 ∉ operators) {P : Eval → Prop} :
    Returns ((ds.map (NodeType.digit, ·)).foldlM evalStep e) P ↔
      (∀ d ∈ ds, d % 256 ≠ 82) ∧ P (ds.foldl evalDigit e) := by
  induction ds generalizing e with
  | nil => simp
  | cons d ds ih =>
      obtain ⟨hin, hds⟩ := List.forall_mem_cons.mp h
      rw [List.map_cons, List.foldlM_cons, evalStep, List.forall_mem_cons, List.foldl_cons]
      dsimp only
      rw [if_neg hin]
      by_cases hroot : d % 256 = 82
      · rw [if_pos hroot, if_pos (by simp), returns_bind, returns_error]
        simp [hroot]
      · rw [if_neg hroot, if_neg (by simp), ok_bind, ih hds, and_assoc]
        exact (and_iff_right hroot).symm

theorem evalDigit_later (h : 2 ≤ e.digitCounter) (x : Int) :
    evalDigit e x = { e with stk := push e.stk x, digitCounter := e.digitCounter + 1 } := by
  rw [evalDigit]
  dsimp only
  rw [if_neg (by omega)]

theorem push_within {s : Stack} (hlow : 0 ≤ s.top) (hhigh : s.top < 32) (x : Int) :
    push s x = ⟨s.top + 1, fun i => if i = s.top then x else s.items i⟩ := by
  rw [push, if_neg (by omega)]

theorem result_within (hlow : 1 ≤ e.stk.top) (hhigh : e.stk.top ≤ 32) :
    result e = e.stk.items (e.stk.top - 1) := by
  rw [result, pop, if_neg (by dsimp only; omega)]

theorem result_later (ds : List Int) (hcounter : 2 ≤ e.digitCounter) (hlow : 1 ≤ e.stk.top)
    (hhigh : e.stk.top + ds.length ≤ 32) :
    result (ds.foldl evalDigit e) = ds.getLastD (result e) := by
  induction ds generalizing e with
  | nil => simp
  | cons d ds ih =>
      rw [List.length_cons] at hhigh
      have hpush := push_within (s := e.stk) (by omega) (by omega) d
      rw [List.foldl_cons, evalDigit_later hcounter, hpush, ih, List.getLastD_cons, result_within]
      · simp
      · dsimp only
        omega
      · dsimp only
        omega
      · dsimp only
        omega
      · dsimp only
        omega
      · dsimp only
        omega

theorem result_numbers (cs ds : List Int) (h : ds.length < 32) : result (ds.foldl evalDigit
      { start with opCHSaved := cs.getLastD 0, operatorFound := !cs.isEmpty }) =
      leftOver cs ds := by
  match ds with
  | [] => rfl
  | [a] =>
      cases cs with
      | nil => rfl
      | cons c cs => rfl
  | [a, b] =>
      cases cs with
      | nil => rfl
      | cons c cs => rfl
  | a :: b :: d :: ds =>
      rw [List.length_cons, List.length_cons, List.length_cons] at h
      have hlater (e : Eval) (hcounter : e.digitCounter = 2)
          (htop : e.stk.top = 1 ∨ e.stk.top = 2) :
          result ((d :: ds).foldl evalDigit e) = ds.getLastD d := by
        rw [result_later, List.getLastD_cons]
        · omega
        · omega
        · rw [List.length_cons]
          omega
      rw [List.foldl_cons, List.foldl_cons, leftOver]
      cases cs with
      | nil => exact hlater _ rfl (.inr rfl)
      | cons c cs => exact hlater _ rfl (.inl rfl)

theorem codes_low : ∀ c ∈ codes xs, c % 256 = c ∧ c ∈ operators := by
  intro c hc
  obtain ⟨x, hx, rfl⟩ := List.mem_map.mp hc
  exact ⟨by omega, of_decide_eq_true (List.mem_filter.mp hx).2⟩

theorem numbers_low : ∀ d ∈ numbers xs, d % 256 ∉ operators := by
  intro d hd
  exact of_decide_eq_true (List.mem_filter.mp hd).2

theorem range_getD {α : Type} (b : List α) (d : α) :
    (List.range b.length).map (fun i => b.getD i d) = b := by
  apply List.ext_getElem
  · simp
  · intro i hi hb
    simp [hb]

theorem returns_eval (h : xs.length < 32) {P : Int → Prop} :
    Returns (eval xs.length (bstInitialize xs)) P ↔
      (∀ d ∈ numbers xs, d % 256 ≠ 82) ∧ P (leftOver (codes xs) (numbers xs)) := by
  have hlength := codes_numbers_length xs
  rw [bst_entries h, eval]
  dsimp only
  rw [← entries_length, range_getD, entries, List.cons_append, List.foldlM_cons]
  change Returns (List.foldlM evalStep start _ >>= fun e => .ok (result e)) P ↔ _
  rw [List.foldlM_append, eval_codes codes_low, ok_bind, returns_bind, eval_numbers numbers_low,
    returns_ok]
  change _ ∧ P (result ((numbers xs).foldl evalDigit
    { start with opCHSaved := (codes xs).getLastD 0, operatorFound := !(codes xs).isEmpty })) ↔ _
  rw [result_numbers _ _ (by omega)]

end Evaluation

section Lexing

variable {l : Scanner} {w rest text : Text} {n m : Nat} {es : Rest} {d : UInt8} {op : Operator}

def Ends (d : UInt8) : Prop :=
  d.toNat < 128 ∧ isdigit d.toNat = false ∧ d.toNat ≠ 120 ∧ d.toNat ≠ 88

def Leads (d : UInt8) : Prop := d.toNat < 33 ∨ (48 ≤ d.toNat ∧ d.toNat ≤ 57)

theorem ends_blank (h : Blank d) : Ends d := by
  have hrange := blank_range h
  simp only [Ends, isdigit, Bool.and_eq_false_iff, decide_eq_false_iff_not]
  omega

theorem ends_code (op : Operator) : Ends op.code := by
  cases op <;> simp [Ends, Operator.code, isdigit]

theorem ends_append (hw : ∀ c ∈ w, Blank c) (hd : Ends d) :
    ∃ e tail, w ++ d :: rest = e :: tail ∧ Ends e := by
  cases w with
  | nil => exact ⟨d, rest, rfl, hd⟩
  | cons e w => exact ⟨e, w ++ d :: rest, rfl, ends_blank (hw e List.mem_cons_self)⟩

theorem decimal_head (n : Nat) : ∃ c tail, decimal n = c :: tail ∧ Leads c := by
  rcases Nat.eq_zero_or_pos n with rfl | hpos
  · exact ⟨48, [], rfl, by simp [Leads]⟩
  · obtain ⟨c, tail, hdecimal, hlow, hhigh, -⟩ := decimal_shape n hpos
    exact ⟨c, tail, hdecimal, .inr ⟨by omega, hhigh⟩⟩

theorem leads_append (hw : ∀ c ∈ w, Blank c) (n : Nat) (rest : Text) :
    ∃ c tail, w ++ (decimal n ++ rest) = c :: tail ∧ Leads c := by
  cases w with
  | nil =>
      obtain ⟨c, tail, hdecimal, hc⟩ := decimal_head n
      exact ⟨c, tail ++ rest, by rw [hdecimal]; rfl, hc⟩
  | cons c w => exact ⟨c, _, rfl, .inl (blank_range (hw c List.mem_cons_self)).1⟩

theorem written_leads (h : Written n es text) (rest : Text) :
    ∃ c tail, text ++ rest = c :: tail ∧ Leads c := by
  cases h with
  | last hw _ =>
      rw [List.append_assoc, List.append_assoc]
      exact leads_append hw n _
  | operation hw _ _ =>
      rw [List.append_assoc, List.append_assoc]
      exact leads_append hw n _

theorem written_length (h : Written n es text) : 2 * es.length + 2 ≤ text.length := by
  have hdecimal (n : Nat) : 1 ≤ (decimal n).length := by
    obtain ⟨c, tail, hdecimal, -⟩ := decimal_head n
    rw [hdecimal, List.length_cons]
    omega
  induction h with
  | @last n =>
      have hn := hdecimal n
      simp only [List.length_append, List.length_singleton, List.length_nil]
      omega
  | @operation n _ _ _ _ _ _ _ _ _ ih =>
      have hn := hdecimal n
      simp only [List.length_append, List.length_cons]
      omega

theorem lex_constant (hw : ∀ c ∈ w, Blank c) (hpos : 0 < n) (hn : n < 2 ^ 31) (hd : Ends d)
    (hl : l.finput = characters (w ++ (decimal n ++ d :: rest))) :
    ∃ l', yylex l = .ok (TK_CONSTANT, l') ∧ l'.finput = characters (d :: rest) ∧
      atoi l'.real_token_buffer = n := by
  have hlength := decimal_length hn
  have hvalue := atoi_decimal hpos hn
  obtain ⟨c, tail, hdecimal, hlow, hhigh, htail⟩ := decimal_shape n hpos
  rw [hdecimal] at hl hlength hvalue
  rw [List.length_cons] at hlength
  rw [yylex_head hw hl (by omega) (by omega)]
  exact ⟨_, scan_constant ⟨hlow, hhigh⟩ htail (by rw [MAXTOKEN]; omega) hd.2.1 hd.1, rfl, hvalue⟩

theorem lex_zero (hw : ∀ c ∈ w, Blank c) (hd : Ends d)
    (hl : l.finput = characters (w ++ (decimal 0 ++ d :: rest))) :
    yylex l = .error (.exit 1 "yylex: FAIL expected x in constant in line %") := by
  rw [yylex_head (c := 48) hw hl (by decide) (fun h => absurd h (by decide))]
  exact scan_zero hd.2.2

theorem lex_semicolon (hw : ∀ c ∈ w, Blank c)
    (hl : l.finput = characters (w ++ 59 :: rest)) :
    ∃ l', yylex l = .ok (TK_SEPARATOR, l') ∧ l'.real_token_buffer = [59] := by
  rw [yylex_head hw hl (by decide) (fun h => absurd h (by decide))]
  exact ⟨_, scan_separator (by decide), rfl⟩

theorem scan_operator (op : Operator) (l : Scanner) :
    scanToken op.code.toNat l = .ok (combine 2 op.code.toNat l) := by
  cases op <;> rfl

theorem lex_operator (op : Operator) (hd : Leads d) (hw : ∀ c ∈ w, Blank c)
    (hl : l.finput = characters (w ++ op.code :: d :: rest)) :
    ∃ c l', yylex l = .ok (c, l') ∧ l'.finput = characters (d :: rest) ∧
      ∀ next exp_buffer, expressionToken next false exp_buffer c l' =
        expStore exp_buffer op.code.toNat >>= fun e => next true e l' := by
  have hcode : 37 ≤ op.code.toNat ∧ op.code.toNat < 128 ∧
      ¬ (48 ≤ op.code.toNat ∧ op.code.toNat ≤ 57) := by
    cases op <;> decide
  have hlead : d.toNat < 128 ∧ d.toNat ≠ 61 ∧ d.toNat ≠ 62 ∧ d.toNat ≠ op.code.toNat ∧
      d.toNat ≠ 47 ∧ d.toNat ≠ 42 := by
    rw [Leads] at hd
    omega
  have hsingle := @combine_single op.code.toNat { l with finput := characters (d :: rest) } 1
    (by change (d.toNat : Int) ≠ 61; omega)
    (by change (d.toNat : Int) ≠ op.code.toNat; omega)
    (by change (d.toNat : Int) ≠ 62; omega)
    (unread fun c hc => by cases hc; exact hlead.1)
  rw [yylex_head hw hl (by omega), scan_operator, hsingle]
  · refine ⟨_, _, rfl, rfl, ?_⟩
    intro next exp_buffer
    cases op <;> rfl
  · rintro - c hc
    cases hc
    omega

end Lexing

section Expression

variable {l : Scanner} {w rest text : Text} {n : Nat} {es : Rest} {d : UInt8} {op : Operator}
  {fuel : Nat} {exp_buffer : List Int}

theorem expStore_within (h : exp_buffer.length < 32) (x : Int) :
    expStore exp_buffer x = .ok (exp_buffer ++ [x]) :=
  if_pos h

theorem expression_constant (hw : ∀ c ∈ w, Blank c) (hn : n < 2 ^ 31) (hd : Ends d)
    (hbuffer : exp_buffer.length < 32)
    (hl : l.finput = characters (w ++ (decimal n ++ d :: rest))) :
    ∃ l', l'.finput = characters (d :: rest) ∧
      ∀ P, Returns (expression (fuel + 1) true exp_buffer l) P ↔
        n ≠ 0 ∧ Returns (expression fuel false (exp_buffer ++ [(n : Int)]) l') P := by
  rcases Nat.eq_zero_or_pos n with rfl | hpos
  · refine ⟨{ l with finput := characters (d :: rest) }, rfl, fun P => ?_⟩
    rw [expression, lex_zero hw hd hl, returns_bind, returns_error]
    simp
  · obtain ⟨l', hlex, hfinput, hvalue⟩ := lex_constant hw hpos hn hd hl
    refine ⟨l', hfinput, fun P => ?_⟩
    rw [expression_succ hlex, token_constant, hvalue, expStore_within hbuffer, ok_bind]
    exact (and_iff_right (Nat.ne_of_gt hpos)).symm

theorem expression_operator (hw : ∀ c ∈ w, Blank c) (hd : Leads d)
    (hbuffer : exp_buffer.length < 32)
    (hl : l.finput = characters (w ++ op.code :: d :: rest)) :
    ∃ l', l'.finput = characters (d :: rest) ∧ expression (fuel + 1) false exp_buffer l =
        expression fuel true (exp_buffer ++ [(op.code.toNat : Int)]) l' := by
  obtain ⟨c, l', hlex, hfinput, htoken⟩ := lex_operator op hd hw hl
  refine ⟨l', hfinput, ?_⟩
  rw [expression_succ hlex, htoken, expStore_within hbuffer, ok_bind]

theorem expression_semicolon (hw : ∀ c ∈ w, Blank c) (hbuffer : exp_buffer.length < 32)
    (hl : l.finput = characters (w ++ 59 :: rest)) :
    ∃ l', expression (fuel + 1) false exp_buffer l = .ok (exp_buffer, l') := by
  obtain ⟨l', hlex, hsemicolon⟩ := lex_semicolon hw hl
  refine ⟨l', ?_⟩
  rw [expression_succ hlex, token_semicolon hsemicolon, expStore_within hbuffer, ok_bind]

theorem expression_written (h : Written n es text) (hn : ∀ m ∈ constants n es, m < 2 ^ 31)
    (hfuel : 2 * es.length + 2 ≤ fuel) (hbuffer : exp_buffer.length + 2 * es.length + 1 < 32)
    (hl : l.finput = characters (text ++ rest)) :
    ∃ l', ∀ P, Returns (expression fuel true exp_buffer l) P ↔
      (∀ m ∈ constants n es, m ≠ 0) ∧ P (exp_buffer ++ items n es, l') := by
  induction h generalizing l fuel exp_buffer with
  | @last n w w' hw hw' =>
      rw [List.length_nil] at hfuel hbuffer
      obtain ⟨fuel, rfl⟩ : ∃ k, fuel = k + 1 + 1 := ⟨fuel - 2, by omega⟩
      obtain ⟨e, tail, htail, he⟩ := @ends_append w' rest 59 hw' (by simp [Ends, isdigit])
      have hl : l.finput = characters (w ++ (decimal n ++ e :: tail)) := by
        rw [hl, ← htail]
        simp
      obtain ⟨l₁, hl₁, hconstant⟩ := @expression_constant l w tail n e (fuel + 1) exp_buffer hw
        (hn n List.mem_cons_self) he (by omega) hl
      rw [← htail] at hl₁
      obtain ⟨l₂, hsemicolon⟩ := @expression_semicolon l₁ w' rest fuel (exp_buffer ++ [(n : Int)])
        hw' (by simp; omega) hl₁
      refine ⟨l₂, fun P => ?_⟩
      rw [hconstant, hsemicolon, returns_ok]
      simp [constants, items]
  | @operation n m op es w w' text hw hw' htext ih =>
      rw [List.length_cons] at hfuel hbuffer
      obtain ⟨fuel, rfl⟩ : ∃ k, fuel = k + 1 + 1 := ⟨fuel - 2, by omega⟩
      obtain ⟨d, behind, hbehind, hd⟩ := written_leads htext rest
      obtain ⟨e, tail, htail, he⟩ := @ends_append w' (text ++ rest) op.code hw' (ends_code op)
      have hl : l.finput = characters (w ++ (decimal n ++ e :: tail)) := by
        rw [hl, ← htail]
        simp
      obtain ⟨l₁, hl₁, hconstant⟩ := @expression_constant l w tail n e (fuel + 1) exp_buffer hw
        (hn n List.mem_cons_self) he (by omega) hl
      rw [← htail, hbehind] at hl₁
      obtain ⟨l₂, hl₂, hoperator⟩ := @expression_operator l₁ w' behind d op fuel
        (exp_buffer ++ [(n : Int)]) hw' hd (by simp; omega) hl₁
      rw [← hbehind] at hl₂
      obtain ⟨l₃, hrest⟩ := @ih l₂ fuel (exp_buffer ++ [(n : Int)] ++ [(op.code.toNat : Int)])
        (fun m hm => hn m (List.mem_cons_of_mem _ hm)) (by omega) (by simp; omega) hl₂
      refine ⟨l₃, fun P => ?_⟩
      rw [hconstant, hoperator, hrest]
      simp [constants, items, and_assoc]

end Expression

section Evaluating

variable {n₀ n : Nat} {es : Rest} {v : Int32}

theorem items_length (n₀ : Nat) (es : Rest) : (items n₀ es).length = 2 * es.length + 1 := by
  rw [items, List.length_cons, List.length_flatMap]
  simp [Nat.mul_comm]

theorem code_low (op : Operator) : (op.code.toNat : Int) % 256 ∈ operators := by
  cases op <;> decide

theorem mem_items {x : Int} : x ∈ items n₀ es ↔
    (∃ n ∈ constants n₀ es, x = n) ∨ ∃ e ∈ es, x = e.1.code.toNat := by
  simp only [items, constants, List.mem_cons, List.mem_flatMap, List.not_mem_nil, or_false,
    List.mem_map]
  constructor
  · rintro (rfl | ⟨e, he, rfl | rfl⟩)
    · exact .inl ⟨n₀, .inl rfl, rfl⟩
    · exact .inr ⟨e, he, rfl⟩
    · exact .inl ⟨e.2, .inr ⟨e, he, rfl⟩, rfl⟩
  · rintro (⟨n, rfl | ⟨e, he, rfl⟩, rfl⟩ | ⟨e, he, rfl⟩)
    · exact .inl rfl
    · exact .inr ⟨e, he, .inr rfl⟩
    · exact .inr ⟨e, he, .inl rfl⟩

theorem likeOperator_iff : LikeOperator n ↔ (n : Int) % 256 ∈ operators := by
  rw [LikeOperator, lowByte]

theorem readable_iff : (∀ n ∈ constants n₀ es, n ≠ 0) ∧
    (∀ d ∈ numbers (items n₀ es), d % 256 ≠ 82) ↔ ∀ n ∈ constants n₀ es, Readable n := by
  constructor
  · rintro ⟨hzero, hroot⟩ n hn
    refine ⟨hzero n hn, fun heq => ?_⟩
    have hlow : (n : Int) % 256 = 82 := by omega
    refine hroot n (List.mem_filter.mpr ⟨mem_items.mpr (.inl ⟨n, hn, rfl⟩), ?_⟩) hlow
    rw [hlow]
    decide
  · intro h
    refine ⟨fun n hn => (h n hn).1, fun d hd heq => ?_⟩
    obtain ⟨hd, hlow⟩ := List.mem_filter.mp hd
    rcases mem_items.mp hd with ⟨n, hn, rfl⟩ | ⟨e, -, rfl⟩
    · have hroot := (h n hn).2
      omega
    · exact absurd (code_low e.1) (of_decide_eq_true hlow)

theorem ofNat_toInt (h : n < 2 ^ 31) : (Int32.ofNat n).toInt = n := Int32.toInt_ofNat_of_lt h

theorem hasValue_operand : HasValue n [] v ↔ Int32.ofNat n = v := by
  rw [HasValue, List.map_nil, value_iff (by simp)]
  rfl

theorem hasValue_operation {op : Operator} {m : Nat} :
    HasValue n [(op, m)] v ↔ op.apply (Int32.ofNat n) (Int32.ofNat m) = v := by
  rw [HasValue, value_iff (by simp [level_lt])]
  cases op <;> rfl

theorem leftOver_short (hlength : es.length ≤ 1) (hn : ∀ n ∈ constants n₀ es, n < 2 ^ 31)
    (hlow : ∀ n ∈ constants n₀ es, ¬ LikeOperator n) (hv : HasValue n₀ es v) :
    leftOver (codes (items n₀ es)) (numbers (items n₀ es)) = v.toInt := by
  simp only [likeOperator_iff] at hlow
  match es with
  | [] =>
      have hn₀ := hn n₀ List.mem_cons_self
      have hlow₀ := hlow n₀ List.mem_cons_self
      rw [hasValue_operand] at hv
      have hitems : items n₀ [] = [(n₀ : Int)] := rfl
      have hnumbers : numbers [(n₀ : Int)] = [(n₀ : Int)] :=
        List.filter_cons_of_pos (by simpa using hlow₀)
      rw [hitems, hnumbers, leftOver, ← hv, ofNat_toInt hn₀]
  | [(op, m)] =>
      have hn₀ := hn n₀ List.mem_cons_self
      have hlow₀ := hlow n₀ List.mem_cons_self
      have hm := hn m (by simp [constants])
      have hlowm := hlow m (by simp [constants])
      rw [hasValue_operation] at hv
      have hitems : items n₀ [(op, m)] = [(n₀ : Int), op.code.toNat, m] := rfl
      have hnumbers : numbers [(n₀ : Int), op.code.toNat, m] = [(n₀ : Int), m] := by
        simp only [numbers, List.filter_cons, hlow₀, hlowm, code_low]
        rfl
      have hcodes : codes [(n₀ : Int), op.code.toNat, m] = [(op.code.toNat : Int)] := by
        simp only [codes, List.filter_cons, hlow₀, hlowm, code_low]
        cases op <;> rfl
      rw [hitems, hnumbers, hcodes, leftOver, if_neg (by simp), ← hv, ← oper_apply,
        ofNat_toInt hn₀, ofNat_toInt hm]
      rfl

/-- When `tree_eval` gives the value of an expression. -/
theorem tree_eval_iff (n₀ : Nat) (es : Rest) (text rest : Text) (l : Scanner) (v : Int32)
    (hlength : es.length ≤ 14) (hn : ∀ n ∈ constants n₀ es, n < 2 ^ 31)
    (hw : Written n₀ es text) (hl : l.finput = characters (text ++ rest))
    (hv : HasValue n₀ es v) :
    Returns (treeEval l) (fun r => r.1 = v.toInt) ↔ Evaluates n₀ es v := by
  have hfinput : 2 * es.length + 2 ≤ l.finput.length + 1 := by
    have htext := written_length hw
    rw [hl, characters, List.length_map, List.length_append]
    omega
  have hitems := items_length n₀ es
  obtain ⟨l', hexpression⟩ := @expression_written l rest text n₀ es _ [] hw hn hfinput
    (by rw [List.length_nil]; omega) hl
  rw [treeEval, returns_bind, hexpression]
  dsimp only
  rw [List.nil_append, returns_bind, returns_eval (by omega), ← and_assoc, readable_iff]
  simp only [returns_ok]
  constructor
  · rintro ⟨hreadable, hvalue⟩
    exact ⟨hreadable, .inr hvalue⟩
  · rintro ⟨hreadable, ⟨hshort, hlow⟩ | hvalue⟩
    · exact ⟨hreadable, leftOver_short hshort hn hlow hv⟩
    · exact ⟨hreadable, hvalue⟩

theorem product_written : Written 7 [(.times, 3)] [55, 42, 51, 59] := by
  have hthree : Written 3 [] [51, 59] := @Written.last 3 [] [] (by simp) (by simp)
  exact @Written.operation 7 3 .times [] [] [] _ (by simp) (by simp) hthree

theorem tree_eval_product :
    Returns (treeEval (lexerInitialize (characters [55, 42, 51, 59]))) (fun r => r.1 = 21) :=
  (tree_eval_iff 7 [(.times, 3)] [55, 42, 51, 59] [] _ 21 (by decide) (by decide) product_written
    rfl (hasValue_operation.mpr (by decide))).mpr
      ⟨by decide, .inl ⟨by decide, by decide⟩⟩

theorem sum_written : Written 1 [(.plus, 2), (.times, 3)] [49, 43, 50, 42, 51, 59] := by
  have hthree : Written 3 [] [51, 59] := @Written.last 3 [] [] (by simp) (by simp)
  have hproduct : Written 2 [(.times, 3)] [50, 42, 51, 59] :=
    @Written.operation 2 3 .times [] [] [] _ (by simp) (by simp) hthree
  exact @Written.operation 1 2 .plus _ [] [] _ (by simp) (by simp) hproduct

/-- `1+2*3;` gives the last number. -/
theorem last_number_wins : ¬ ∀ (n₀ : Nat) (es : Rest) (text rest : Text) (l : Scanner) (v : Int32),
    es.length ≤ 14 → (∀ n ∈ constants n₀ es, n < 2 ^ 31) → Written n₀ es text →
      l.finput = characters (text ++ rest) → HasValue n₀ es v →
        Returns (treeEval l) (fun r => r.1 = v.toInt) := by
  intro h
  have hvalue : HasValue 1 [(.plus, 2), (.times, 3)] 7 :=
    (value_iff (by simp [level_lt])).mpr rfl
  have hseven := h 1 [(.plus, 2), (.times, 3)] [49, 43, 50, 42, 51, 59] []
    (lexerInitialize (characters [49, 43, 50, 42, 51, 59])) 7 (by decide) (by decide) sum_written
    rfl hvalue
  have hthree : Returns (treeEval (lexerInitialize (characters [49, 43, 50, 42, 51, 59])))
      (fun r => r.1 = 3) := ⟨_, rfl, rfl⟩
  obtain ⟨r, hr, h7⟩ := hseven
  obtain ⟨r', hr', h3⟩ := hthree
  rw [hr] at hr'
  obtain rfl := Except.ok.inj hr'
  rw [h7] at h3
  exact absurd h3 (by decide)

end Evaluating

end Gramado.Gramcnf.Expressions
