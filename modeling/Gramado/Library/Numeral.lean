import Mathlib.Data.Nat.Digits.Lemmas
import Mathlib.Data.List.TakeWhile

/-! Numbers in positional notation, and the two usual ways to write one: digit by digit from the
last, and into a field of fixed width whose zeros in front are dropped. -/

namespace Gramado.Library.Numeral

def numeral (b n : Nat) : List Nat :=
  if n = 0 then [0] else (Nat.digits b n).reverse

variable {b : Nat}

theorem numeral_zero : numeral b 0 = [0] := if_pos rfl

variable {n d width : Nat}

theorem numeral_of_ne_zero (h : n ≠ 0) : numeral b n = (Nat.digits b n).reverse := if_neg h

theorem numeral_ne_nil (n : Nat) : numeral b n ≠ [] := by
  by_cases hzero : n = 0
  · simp [hzero, numeral_zero]
  · simp [numeral_of_ne_zero hzero, Nat.digits_ne_nil_iff_ne_zero.mpr hzero]

theorem lt_of_mem_numeral (hb : 1 < b) (h : d ∈ numeral b n) : d < b := by
  by_cases hzero : n = 0
  · rw [hzero, numeral_zero, List.mem_singleton] at h
    omega
  · rw [numeral_of_ne_zero hzero, List.mem_reverse] at h
    exact Nat.digits_lt_base hb h

theorem ofDigits_numeral (n : Nat) : Nat.ofDigits b (numeral b n).reverse = n := by
  by_cases hzero : n = 0
  · simp [hzero, numeral_zero]
  · rw [numeral_of_ne_zero hzero, List.reverse_reverse, Nat.ofDigits_digits]

theorem numeral_inj {m : Nat} : numeral b m = numeral b n ↔ m = n := by
  constructor
  · intro h
    rw [← ofDigits_numeral (b := b) m, h, ofDigits_numeral]
  · rintro rfl
    rfl

/-- The digits from the last on, as a loop finds them that divides until nothing is left. -/
def units (b : Nat) : Nat → Nat → List Nat
  | 0, _ => []
  | fuel + 1, n => (n % b) :: if n / b = 0 then [] else units b fuel (n / b)

theorem units_eq (hb : 1 < b) {fuel : Nat} (h : n < fuel) :
    units b fuel n = (numeral b n).reverse := by
  induction fuel generalizing n with
  | zero => omega
  | succ fuel ih =>
      rw [units]
      by_cases hquot : n / b = 0
      · rw [if_pos hquot]
        by_cases hzero : n = 0
        · simp [hzero, numeral_zero]
        · rw [numeral_of_ne_zero hzero, List.reverse_reverse,
            Nat.digits_def' hb (Nat.pos_of_ne_zero hzero), hquot, Nat.digits_zero]
      · have hpos : 0 < n := Nat.pos_of_ne_zero (by rintro rfl; simp at hquot)
        have hlt : n / b < n := Nat.div_lt_self hpos hb
        rw [if_neg hquot, ih (by omega), numeral_of_ne_zero hquot, numeral_of_ne_zero hpos.ne',
          List.reverse_reverse, List.reverse_reverse, Nat.digits_def' hb hpos]

def field (b : Nat) : Nat → Nat → List Nat
  | 0, _ => []
  | width + 1, n => field b width (n / b) ++ [n % b]

@[simp] theorem field_length (width n : Nat) : (field b width n).length = width := by
  induction width generalizing n with
  | zero => rfl
  | succ width ih => rw [field, List.length_append, ih, List.length_singleton]

theorem lt_of_mem_field (hb : 0 < b) (h : d ∈ field b width n) : d < b := by
  induction width generalizing n with
  | zero => simp [field] at h
  | succ width ih =>
      rw [field, List.mem_append, List.mem_singleton] at h
      rcases h with h | rfl
      · exact ih h
      · exact Nat.mod_lt n hb

theorem dropWhile_field (hb : 1 < b) (h : n < b ^ width) :
    (field b width n).dropWhile (· = 0) = (Nat.digits b n).reverse := by
  induction width generalizing n with
  | zero =>
      have hzero : n = 0 := by simpa using h
      simp [field, hzero]
  | succ width ih =>
      have hquot : n / b < b ^ width := by
        rw [Nat.div_lt_iff_lt_mul (by omega)]
        rwa [Nat.pow_succ] at h
      rw [field, List.dropWhile_append, ih hquot]
      by_cases hzero : n = 0
      · simp [hzero]
      have hpos : 0 < n := Nat.pos_of_ne_zero hzero
      rw [Nat.digits_def' hb hpos, List.reverse_cons]
      by_cases hdiv : n / b = 0
      · have hmod : n % b ≠ 0 := by
          intro hmod
          apply hzero
          rw [← Nat.div_add_mod n b, hdiv, hmod, Nat.mul_zero]
        simp [hdiv, hmod]
      · rw [if_neg]
        simpa [Nat.digits_eq_nil_iff_eq_zero] using hdiv

theorem dropWhile_field_eq (hb : 1 < b) (h : n < b ^ width) (hn : n ≠ 0) :
    (field b width n).dropWhile (· = 0) = numeral b n := by
  rw [dropWhile_field hb h, numeral_of_ne_zero hn]

end Gramado.Library.Numeral
