import Gramado.Gramcnf.Lexer
import Gramado.Rtl.Decimal

namespace Gramado.Gramcnf.Printing

open Rtl.Strings Rtl.Decimal
open Rtl.Stream (EOF)
open Gramcnf.Lexer

def characters (text : Text) : List Int := text.map fun b => (b.toNat : Int)

def Complete (text : Text) : Prop := 0 ∉ text ∧ ¬ [42, 47] <:+: text ++ [42]

/-- What may stand between tokens: blanks, newlines and complete comments. -/
inductive Layout : Text → Prop where
  | nil : Layout []
  | blank {c : UInt8} {w : Text} : blank c.toNat → Layout w → Layout (c :: w)
  | newline {w : Text} : Layout w → Layout (10 :: w)
  | line {text w : Text} : 10 ∉ text → Layout w → Layout (47 :: 47 :: text ++ 10 :: w)
  | comment {text w : Text} :
      Complete text → Layout w → Layout (47 :: 42 :: text ++ 42 :: 47 :: w)

inductive Lexeme where
  | word (text : Text)
  | constant (n : Nat)
  | string (text : Text)
  | separator (c : UInt8)
  deriving DecidableEq, Repr

def Lexeme.text : Lexeme → Text
  | .word text => text
  | .constant n => decimal n
  | .string text => 34 :: text ++ [34]
  | .separator c => [c]

def Lexeme.takes (c : UInt8) : Lexeme → Bool
  | .word _ => continues c.toNat
  | .constant _ => isdigit c.toNat
  | .string _ => false
  | .separator _ => false

/-- A text that starts with the tokens, each behind any layout and ending where it is meant
to. -/
inductive Printed : List Lexeme → Text → Prop where
  | done (text : Text) : Printed [] text
  | token {t : Lexeme} {ts : List Lexeme} {w text : Text} : Layout w → Printed ts text →
      (∀ c ∈ text.head?, t.takes c = false) → Printed (t :: ts) (w ++ t.text ++ text)

/-- The tokens that the lexer can hold in its buffer, and which it tells apart. -/
def Lexeme.Fits : Lexeme → Prop
  | .word text => (∃ c rest, text = c :: rest ∧ starts c.toNat ∧
      ∀ d ∈ rest, continues d.toNat) ∧ text.length < MAXTOKEN
  | .constant n => n < 2 ^ 31
  | .string text => 34 ∉ text ∧ text.length < MAXTOKEN
  | .separator c => (c.toNat : Int) ∈ separators

variable {text w : Text}

section Layouts

theorem characters_append (s t : Text) : characters (s ++ t) = characters s ++ characters t :=
  List.map_append

theorem characters_cons (c : UInt8) (s : Text) :
    characters (c :: s) = (c.toNat : Int) :: characters s :=
  rfl

theorem skip_line (h : 10 ∉ text) (rest : Text) :
    skipWhiteSpace .line (characters (text ++ 10 :: rest)) =
      skipWhiteSpace .code (characters rest) := by
  induction text with
  | nil => rfl
  | cons c text ih =>
      obtain ⟨hc, htext⟩ := List.ne_and_not_mem_of_not_mem_cons h
      have hne : (c.toNat : Int) ≠ 10 := by
        intro heq
        refine hc (UInt8.toNat_inj.mp ?_)
        change 10 = c.toNat
        omega
      rw [List.cons_append, characters_cons, skipWhiteSpace, if_neg hne]
      exact ih htext

theorem skip_comment (hzero : 0 ∉ text) (rest : Text) : ∀ star : Bool,
    ¬ [42, 47] <:+: (if star then 42 :: text else text) ++ [42] →
    skipWhiteSpace (.comment star) (characters (text ++ 42 :: 47 :: rest)) =
      skipWhiteSpace .code (characters rest) := by
  induction text with
  | nil =>
      intro star _
      rfl
  | cons c text ih =>
      intro star hinfix
      obtain ⟨hc, htext⟩ := List.ne_and_not_mem_of_not_mem_cons hzero
      rw [List.cons_append, characters_cons, skipWhiteSpace]
      have hsuffix : c :: text ++ [42] <:+ (if star then 42 :: c :: text else c :: text) ++ [42] := by
        cases star with
        | true => exact List.suffix_cons _ _
        | false => exact List.suffix_refl _
      by_cases hstar : (c.toNat : Int) = 42
      · obtain rfl : c = 42 := by
          refine UInt8.toNat_inj.mp ?_
          change c.toNat = 42
          omega
        rw [if_pos hstar]
        exact ih htext true fun hin => hinfix (hin.trans hsuffix.isInfix)
      · have hslash : ¬ (star && decide ((c.toNat : Int) = 47)) = true := by
          intro h
          obtain ⟨hs, h47⟩ := Bool.and_eq_true_iff.mp h
          have hcval : c = 47 := by
            refine UInt8.toNat_inj.mp ?_
            change c.toNat = 47
            have := of_decide_eq_true h47
            omega
          refine hinfix ?_
          rw [hs, if_pos rfl, hcval]
          exact ⟨[], text ++ [42], rfl⟩
        have hend : ¬ (decide ((c.toNat : Int) = EOF) || decide ((c.toNat : Int) = 0)) = true := by
          intro h
          rcases Bool.or_eq_true_iff.mp h with h | h
          · have := of_decide_eq_true h
            rw [EOF] at this
            omega
          · have := of_decide_eq_true h
            refine hc (UInt8.toNat_inj.mp ?_)
            change 0 = c.toNat
            omega
        rw [if_neg hstar, if_neg hslash, if_neg hend]
        refine ih htext false fun hin => hinfix (hin.trans ?_)
        exact (List.suffix_cons c _).isInfix.trans hsuffix.isInfix

theorem skip_layout (h : Layout w) (rest : Text) :
    skipWhiteSpace .code (characters (w ++ rest)) = skipWhiteSpace .code (characters rest) := by
  induction h with
  | nil => rfl
  | blank hblank _ ih =>
      rw [List.cons_append, characters_cons, skipWhiteSpace, if_pos (by rw [hblank]; rfl)]
      exact ih
  | newline _ ih => exact ih
  | @line text w htext _ ih =>
      rw [List.append_assoc]
      exact (skip_line htext (w ++ rest)).trans ih
  | @comment text w hcomplete _ ih =>
      rw [List.append_assoc]
      exact (skip_comment hcomplete.1 (w ++ rest) false hcomplete.2).trans ih

def LayoutHead (c : UInt8) : Prop := blank c.toNat ∨ c.toNat = 10 ∨ c.toNat = 47

theorem layout_head (h : Layout w) : ∀ c ∈ w.head?, LayoutHead c := by
  cases h with
  | nil => simp
  | blank hblank _ =>
      intro d hd
      cases Option.some.inj hd
      exact .inl hblank
  | newline =>
      intro d hd
      cases Option.some.inj hd
      exact .inr (.inl rfl)
  | line =>
      intro d hd
      cases Option.some.inj hd
      exact .inr (.inr rfl)
  | comment =>
      intro d hd
      cases Option.some.inj hd
      exact .inr (.inr rfl)

theorem layoutHead_lt {c : UInt8} (h : LayoutHead c) : c.toNat < 128 := by
  simp only [LayoutHead, blank, Bool.or_eq_true, decide_eq_true_eq] at h
  omega

end Layouts

end Gramado.Gramcnf.Printing
