import Gramado.Rtl.Strings

namespace Gramado.Rtl.Decimal

open Rtl.Strings

def decimal (n : Nat) : Text := (Nat.toDigits 10 n).map fun c => .ofNat c.toNat

variable {n k : Nat}

theorem decimal_of_lt (h : n < 10) : decimal n = [.ofNat (n + 48)] := by
  rw [decimal, Nat.toDigits_of_lt_base h, List.map_singleton, Nat.toNat_digitChar_of_lt_ten h,
    Nat.add_comm]

theorem decimal_digit {m : Nat} (hm : 0 < m) (hk : k < 10) :
    decimal (10 * m + k) = decimal m ++ [.ofNat (k + 48)] := by
  rw [decimal, ← Nat.toDigits_append_toDigits (by decide) hm hk, List.map_append,
    ← decimal_of_lt hk]
  rfl

theorem digit_toNat (hk : k < 10) : (UInt8.ofNat (k + 48)).toNat = k + 48 := by
  rw [UInt8.toNat_ofNat', Nat.mod_eq_of_lt (by omega)]

theorem decimal_length (h : n < 2 ^ 31) : (decimal n).length ≤ 10 := by
  rw [decimal, List.length_map, Nat.length_toDigits_le_iff (by decide) (by decide)]
  omega

theorem decimal_shape (n : Nat) : 0 < n → ∃ c rest, decimal n = c :: rest ∧
    49 ≤ c.toNat ∧ c.toNat ≤ 57 ∧ ∀ d ∈ rest, 48 ≤ d.toNat ∧ d.toNat ≤ 57 := by
  induction n using Nat.base_induction 10 (by decide) with
  | single n hn =>
      intro hpos
      refine ⟨_, [], decimal_of_lt hn, ?_, ?_, by simp⟩
      · rw [digit_toNat hn]
        omega
      · rw [digit_toNat hn]
        omega
  | digit m k hk hm ih =>
      intro _
      obtain ⟨c, rest, hdecimal, hlow, hhigh, hrest⟩ := ih hm
      refine ⟨c, rest ++ [.ofNat (k + 48)], ?_, hlow, hhigh, ?_⟩
      · rw [decimal_digit hm hk, hdecimal, List.cons_append]
      · intro d hd
        rcases List.mem_append.mp hd with hd | hd
        · exact hrest d hd
        · rw [List.mem_singleton.mp hd, digit_toNat hk]
          omega

theorem foldl_decimal (n : Nat) : n < 2 ^ 31 → (decimal n).foldl atoiStep 0 = n := by
  induction n using Nat.base_induction 10 (by decide) with
  | single n hn =>
      intro _
      rw [decimal_of_lt hn, List.foldl_cons, List.foldl_nil, atoiStep, digit_toNat hn, int,
        Int.bmod_eq_of_le (by omega) (by omega)]
      omega
  | digit m k hk hm ih =>
      intro h
      rw [decimal_digit hm hk, List.foldl_append, ih (by omega), List.foldl_cons, List.foldl_nil,
        atoiStep, digit_toNat hk, int, Int.bmod_eq_of_le (by omega) (by omega)]
      omega

theorem atoi_decimal (hpos : 0 < n) (h : n < 2 ^ 31) : atoi (decimal n) = n := by
  obtain ⟨c, rest, hdecimal, hlow, hhigh, hrest⟩ := decimal_shape n hpos
  have hdigits : ∀ d ∈ decimal n, 48 ≤ d.toNat ∧ d.toNat ≤ 57 := by
    rw [hdecimal]
    intro d hd
    rcases List.mem_cons.mp hd with rfl | hd
    · exact ⟨by omega, hhigh⟩
    · exact hrest d hd
  have hfree : cString (decimal n) = decimal n := by
    refine cString_of_free fun d hd hzero => ?_
    have := hdigits d hd
    rw [hzero] at this
    exact absurd this.1 (by decide)
  have hdigit : ∀ d ∈ decimal n, digitByte d = true := by
    intro d hd
    have := hdigits d hd
    simp only [digitByte, Bool.and_eq_true, decide_eq_true_eq, UInt8.le_iff_toNat_le]
    exact this
  have hsign : signByte c = false := by
    simp only [signByte, Bool.or_eq_false_iff, decide_eq_false_iff_not]
    constructor
    · rintro rfl
      exact absurd hlow (by decide)
    · rintro rfl
      exact absurd hlow (by decide)
  have hminus : ¬ c = 45 := by
    rintro rfl
    exact absurd hlow (by decide)
  have hstart : (decimal n).dropWhile (fun d => !(digitByte d || signByte d)) = decimal n := by
    rw [hdecimal, List.dropWhile_cons_of_neg]
    rw [hdigit c (by rw [hdecimal]; exact List.mem_cons_self)]
    simp
  have hhead : (decimal n).headD 0 = c := by
    rw [hdecimal]
    rfl
  have hsame : (decimal n).takeWhile digitByte = decimal n := List.takeWhile_eq_self_iff.mpr hdigit
  simp only [atoi, hfree, hstart, hhead, hsign, if_neg hminus]
  rw [if_neg (by decide), hsame]
  exact foldl_decimal n h

end Gramado.Rtl.Decimal
