import Gramado.Gramcnf.Scanning
import Gramado.Gramcnf.Tree
import Gramado.Library.CheckedRead

namespace Gramado.Gramcnf.Constants

open Library.CheckedRead Rtl.Strings Rtl.Decimal Gramcnf.Lexer Gramcnf.Tree Gramcnf.Printing
open Gramcnf.Scanning

/-- A constant that does not end the program: the lexer takes no zero, and the low byte is not
the one of the root of the tree. -/
def Readable (n : Nat) : Prop := n ≠ 0 ∧ n % 256 ≠ 82

def LikeOperator (n : Nat) : Prop := ((n % 256 : Nat) : Int) ∈ operators

instance (n : Nat) : Decidable (Readable n) := inferInstanceAs (Decidable (_ ∧ _))
instance (n : Nat) : Decidable (LikeOperator n) := inferInstanceAs (Decidable (_ ∈ operators))

def evaluated (n : Nat) : Int := if LikeOperator n then 0 else n

variable {number : Bool}

section Expression

variable {n : Nat}

theorem lowByte (n : Nat) : (n : Int) % 256 = ((n % 256 : Nat) : Int) := by
  omega

theorem bst_operator (h : LikeOperator n) :
    bstInitialize [(n : Int)] = [(.invalid, 82), (.operator, (n : Int) % 256)] := by
  have hin : (n : Int) % 256 ∈ operators := by
    rwa [lowByte]
  have hop : [(n : Int)].filter (fun x => decide (x % 256 ∈ operators)) = [(n : Int)] :=
    List.filter_cons_of_pos (decide_eq_true hin)
  have hdigit : [(n : Int)].filter (fun x => decide (x % 256 ∉ operators)) = [] :=
    List.filter_cons_of_neg (by simpa using hin)
  simp only [bstInitialize, hop, hdigit]
  rfl

theorem bst_number (h : ¬ LikeOperator n) :
    bstInitialize [(n : Int)] = [(.invalid, 82), (.digit, (n : Int))] := by
  have hin : ¬ (n : Int) % 256 ∈ operators := by
    rwa [lowByte]
  have hop : [(n : Int)].filter (fun x => decide (x % 256 ∈ operators)) = [] :=
    List.filter_cons_of_neg (by simpa using hin)
  have hdigit : [(n : Int)].filter (fun x => decide (x % 256 ∉ operators)) = [(n : Int)] :=
    List.filter_cons_of_pos (decide_eq_true hin)
  simp only [bstInitialize, hop, hdigit]
  rfl

theorem eval_two (entry : NodeType × Int) : eval 1 [(.invalid, 82), entry] =
    (evalStep ⟨⟨0, fun _ => 0⟩, 0, false, 0⟩ entry >>= fun e =>
      .ok (pop { e.stk with top := e.stk.top - 1 }).1) := by
  change ((evalStep _ (.invalid, 82) >>= fun e => evalStep e entry >>= fun e => pure e) >>= _) = _
  change ((evalStep _ entry >>= fun e => pure e) >>= _) = _
  rw [bind_pure]

theorem eval_operator (h : LikeOperator n) : eval 1 (bstInitialize [(n : Int)]) = .ok 0 := by
  have hin : (n : Int) % 256 % 256 ∈ operators := by
    rwa [Int.emod_emod, lowByte]
  rw [bst_operator h, eval_two, evalStep]
  simp only [hin, if_true]
  rfl

theorem eval_root (h : ¬ LikeOperator n) (hroot : n % 256 = 82) :
    eval 1 (bstInitialize [(n : Int)]) =
      .error (.exit 1 "__eval: Expected DT_INVALID data type in %d\n") := by
  have hlow : (n : Int) % 256 = 82 := by
    omega
  rw [bst_number h, eval_two, evalStep]
  simp only [hlow, if_true]
  rfl

theorem eval_number (h : ¬ LikeOperator n) (hroot : n % 256 ≠ 82) :
    eval 1 (bstInitialize [(n : Int)]) = .ok (n : Int) := by
  have hin : ¬ (n : Int) % 256 ∈ operators := by
    rwa [lowByte]
  have hlow : ¬ (n : Int) % 256 = 82 := by
    omega
  rw [bst_number h, eval_two, evalStep]
  simp only [hin, if_false, hlow]
  rfl

theorem returns_eval {P : Int → Prop} : Returns (eval 1 (bstInitialize [(n : Int)])) P ↔
    n % 256 ≠ 82 ∧ P (evaluated n) := by
  by_cases h : LikeOperator n
  · have hroot : n % 256 ≠ 82 := by
      intro heq
      rw [LikeOperator, heq] at h
      exact absurd h (by decide)
    rw [eval_operator h, returns_ok, evaluated, if_pos h]
    exact (and_iff_right hroot).symm
  · by_cases hroot : n % 256 = 82
    · rw [eval_root h hroot, returns_error]
      exact ⟨False.elim, fun hx => hx.1 hroot⟩
    · rw [eval_number h hroot, returns_ok, evaluated, if_neg h]
      exact (and_iff_right hroot).symm

variable {l : Scanner} {ts : List Lexeme}

theorem expression_succ {fuel : Nat} {exp_buffer : List Int} {c : Int} {l' : Scanner}
    (h : yylex l = .ok (c, l')) :
    expression (fuel + 1) number exp_buffer l =
      expressionToken (expression fuel) number exp_buffer c l' := by
  rw [expression, h]
  rfl

section Token

variable {next : Bool → List Int → Scanner → Except Stop (List Int × Scanner)}
  {exp_buffer : List Int}

theorem token_semicolon (h : l.real_token_buffer = [59]) :
    expressionToken next number exp_buffer TK_SEPARATOR l =
      (expStore exp_buffer 0 >>= fun _ => .ok (exp_buffer, l)) := by
  rw [expressionToken, if_neg (by decide), if_pos ⟨rfl, by rw [h]; decide⟩]

theorem token_constant : expressionToken next true exp_buffer TK_CONSTANT l =
    (expStore exp_buffer (atoi l.real_token_buffer) >>= fun e => next false e l) := by
  rw [expressionToken, if_neg (by decide), if_neg (fun h => absurd h.1 (by decide)), if_pos rfl,
    if_pos rfl]

end Token

theorem ahead_length (h : Ahead l (.constant n :: ts)) (hn : n < 2 ^ 31) :
    ∃ k, l.finput.length = k + 1 := by
  obtain ⟨text, hprinted, hl⟩ := h
  obtain ⟨c, rest, rfl, -⟩ := printed_head hprinted hn
  exact ⟨(characters rest).length, by rw [hl, characters_cons, List.length_cons]⟩

theorem treeEval_constant (h : Ahead l (.constant n :: .separator 59 :: ts))
    (hn : n < 2 ^ 31) :
    ∃ l', Ahead l' ts ∧ l'.real_token_buffer = [59] ∧
      ∀ P, Returns (treeEval l) P ↔ Readable n ∧ P (evaluated n, l') := by
  have hsemicolon : (Lexeme.separator 59).Fits := by
    change ((59 : UInt8).toNat : Int) ∈ separators
    decide
  obtain ⟨k, hk⟩ := ahead_length h hn
  by_cases hzero : n = 0
  · subst hzero
    obtain ⟨rest, htail⟩ := ahead_tail h
    obtain ⟨l', -, hbuffer, -, hts⟩ := ahead_separator htail hsemicolon
    refine ⟨l', hts, hbuffer, fun P => ?_⟩
    obtain ⟨text, hprinted, hl⟩ := h
    have herror := yylex_zero hprinted hl hsemicolon
    rw [treeEval, hk, expression, herror]
    exact ⟨fun hx => (returns_error _).mp hx |>.elim, fun hx => absurd rfl hx.1.1⟩
  · obtain ⟨l1, hlex, hbuffer, hahead⟩ := ahead_constant h hn hsemicolon hzero
    obtain ⟨l2, hlex2, hbuffer2, -, hts⟩ := ahead_separator hahead hsemicolon
    refine ⟨l2, hts, hbuffer2, fun P => ?_⟩
    have hvalue : atoi l1.real_token_buffer = n := by
      rw [hbuffer]
      exact atoi_decimal (Nat.pos_of_ne_zero hzero) hn
    have hsecond : expression (k + 1) false [(n : Int)] l1 = .ok ([(n : Int)], l2) := by
      rw [expression_succ hlex2, token_semicolon hbuffer2]
      rfl
    have hexpression : expression (k + 1 + 1) true [] l = .ok ([(n : Int)], l2) := by
      rw [expression_succ hlex, token_constant, hvalue]
      exact hsecond
    rw [treeEval, hk, hexpression]
    change Returns (eval 1 (bstInitialize [(n : Int)]) >>= fun value => .ok (value, l2)) P ↔ _
    rw [returns_bind, returns_eval, returns_ok, Readable, and_assoc]
    exact (and_iff_right hzero).symm

end Expression

end Gramado.Gramcnf.Constants
