import Mathlib.Data.Int.NatAbs
import Mathlib.Data.List.Basic
import Mathlib.Data.List.TakeWhile

namespace Gramado.Rtl.Strings

abbrev Text := List UInt8

def bytes (s : String) : Text :=
  s.toList.map fun c => .ofNat c.toNat

/-- The value of an `int` after an operation that may leave its range. -/
def int (n : Int) : Int := n.bmod (2 ^ 32)

/-- The entries of the table `_ctype` with one of `_U`, `_L` and `_D`. -/
def alnumByte (x : Nat) : Bool :=
  (48 ≤ x && x ≤ 57) || (65 ≤ x && x ≤ 90) || (97 ≤ x && x ≤ 122) ||
    (192 ≤ x && x ≤ 255 && x != 215 && x != 247)

def isalnum (c : Int) : Bool := alnumByte (c % 256).toNat

def isdigit (c : Int) : Bool := 48 ≤ c && c ≤ 57

def xdigitByte (x : Nat) : Bool :=
  (48 ≤ x && x ≤ 57) || (65 ≤ x && x ≤ 70) || (97 ≤ x && x ≤ 102)

def isxdigit (c : Int) : Bool := xdigitByte (c % 256).toNat

def cString (s : Text) : Text := s.takeWhile (· ≠ 0)

def strlen (s : Text) : Nat := (cString s).length

def strncmp : Text → Text → Nat → Int
  | s1, s2, 0 => if s1.headD 0 ≠ 0 ∨ s2.headD 0 ≠ 0 then 2 else 0
  | s1, s2, n + 1 => if s1.headD 0 ≠ s2.headD 0 then 1 else strncmp s1.tail s2.tail n

def strncpy (s2 : Text) (n : Nat) : Text :=
  (cString s2).take n

def signByte (c : UInt8) : Bool := c = 45 || c = 43

def digitByte (c : UInt8) : Bool := 48 ≤ c && c ≤ 57

def atoiStep (rv : Int) (c : UInt8) : Int := int (rv * 10 + ((c.toNat : Int) - 48))

def atoi (s : Text) : Int :=
  let str := (cString s).dropWhile fun c => !(digitByte c || signByte c)
  let sign := str.headD 0 = 45
  let str := if signByte (str.headD 0) then str.tail else str
  let rv := (str.takeWhile digitByte).foldl atoiStep 0
  if sign then int (-rv) else rv

variable {s : Text}

section Lemmas

theorem cString_of_free (h : ∀ c ∈ s, c ≠ 0) : cString s = s := by
  rw [cString, List.takeWhile_eq_self_iff.mpr]
  intro c hc
  exact decide_eq_true (h c hc)

theorem strlen_of_free (h : ∀ c ∈ s, c ≠ 0) : strlen s = s.length := by
  rw [strlen, cString_of_free h]

theorem strncpy_of_free (h : ∀ c ∈ s, c ≠ 0) : strncpy s s.length = s := by
  rw [strncpy, cString_of_free h, List.take_length]

theorem strncmp_eq_zero_iff : ∀ {s1 s2 : Text}, (∀ c ∈ s1, c ≠ 0) → (∀ c ∈ s2, c ≠ 0) →
    (strncmp s1 s2 s2.length = 0 ↔ s1 = s2) := by
  intro s1 s2
  induction s2 generalizing s1 with
  | nil =>
      intro h1 _
      rw [List.length_nil, strncmp.eq_1]
      cases s1 with
      | nil => simp
      | cons c s1 =>
          have hc := h1 c List.mem_cons_self
          simp [hc]
  | cons d s2 ih =>
      intro h1 h2
      have hd := h2 d List.mem_cons_self
      rw [List.length_cons, strncmp.eq_2]
      cases s1 with
      | nil => simp [Ne.symm hd]
      | cons c s1 =>
          have htail := @ih s1 (fun e he => h1 e (List.mem_cons_of_mem _ he))
            fun e he => h2 e (List.mem_cons_of_mem _ he)
          by_cases hcd : c = d
          · simp [hcd, htail]
          · simp [hcd]

end Lemmas

end Gramado.Rtl.Strings
