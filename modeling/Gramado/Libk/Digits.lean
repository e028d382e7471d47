import Gramado.Library.ByteMemory
import Gramado.Library.Numeral
import Gramado.Library.Reversal
import Gramado.Rtl.Strings
import Mathlib.Data.List.GetD

/-! `kinguio_i2hex`, `kinguio_utoa` and `kinguio_itoa`: numbers written into a buffer. -/

namespace Gramado.Libk.Digits

open Library.ByteMemory Library.Numeral Library.Reversal
open Rtl.Strings (Text)

abbrev Buffer := Nat → UInt8

def BUFFER_SIZE : Nat := 1024
def HEX_LEN : Nat := 8
def INT_MAX : Int := 0x7fffffff

def minus : UInt8 := 45

def string (dest : Buffer) : Text :=
  ((List.range BUFFER_SIZE).map dest).takeWhile (· ≠ 0)

def decDigit (x : Nat) : UInt8 := UInt8.ofNat (x + 48)

def hexDigit (x : Nat) : UInt8 := UInt8.ofNat (if 9 < x then x + 55 else x + 48)

/-- `while (cp > dest)`: the digits from the last place to the first one. -/
def fillHex : Nat → Nat → Buffer → Buffer
  | 0, _, dest => dest
  | cp + 1, n, dest => fillHex cp (n / 16) (Function.update dest cp (hexDigit (n % 16)))

/-- `strcpy(dest, cp)` in the same buffer, from the place `i` on. -/
def strcpy (cp : Nat) : Nat → Nat → Buffer → Buffer
  | 0, _, dest => dest
  | fuel + 1, i, dest =>
      let copied := Function.update dest i (dest (cp + i))
      if dest (cp + i) = 0 then copied else strcpy cp fuel (i + 1) copied

def firstDigit (dest : Buffer) (len : Nat) : Nat :=
  ((List.range len).map dest).findIdx (· ≠ 48)

/-- What the two conversions to hexadecimal have in common; `pad` is the number from which the
count of the last `memset` is taken. -/
def i2hex (val len pad : Nat) (dest : Buffer) : Buffer :=
  if val = 0 then Function.update (Function.update dest 0 48) 1 0
  else
    let dest := Function.update (fillHex len val dest) len 0
    let cp := firstDigit dest len
    let dest := if cp < len then strcpy cp (len + 1) 0 dest else dest
    let n := (string dest).length
    blit dest n (pad - n) fun _ => 0

def kinguioI2hexVersao2 (val len : Nat) (dest : Buffer) : Buffer :=
  i2hex val len len dest

def kinguioI2hex (val len : Nat) (dest : Buffer) : Buffer :=
  i2hex val len HEX_LEN dest

/-- The loop over the digits of `value`, and where it ends. The fuel is more than it needs. -/
def storeDigits : Nat → Nat → Nat → Buffer → Buffer × Nat
  | 0, _, p, str => (str, p)
  | fuel + 1, value, p, str =>
      let str := Function.update str p (decDigit (value % 10))
      if value / 10 = 0 then (str, p + 1) else storeDigits fuel (value / 10) (p + 1) str

def utoaR (val : Nat) (str : Buffer) : Buffer :=
  let (str, p) := storeDigits (val + 1) val 0 str
  swapEnds p 0 (p - 1) (Function.update str p 0)

def kinguioUtoa (val : Nat) (dst : Buffer) (radix : Nat) : Buffer :=
  if radix = 16 then kinguioI2hexVersao2 val 16 dst else utoaR val dst

/-- The part of `kinguio_itoa` behind the sign. `minFlag` is zero, or else the digit in front of
which the number was cut is counted up. -/
def itoaDigits (value : Nat) (minFlag : Bool) (start : Nat) (str : Buffer) : Buffer :=
  let (str, p) := storeDigits (value + 1) value start str
  let str := if minFlag = true then Function.update str start (str start + 1) else str
  swapEnds p start (p - 1) (Function.update str p 0)

def kinguioItoa (val : Int) (str : Buffer) : Buffer :=
  if val < 0 then
    let str := Function.update str 0 minus
    if val < -INT_MAX then itoaDigits INT_MAX.toNat true 1 str
    else itoaDigits (-val).toNat false 1 str
  else itoaDigits val.toNat false 0 str

def decimal (n : Nat) : Text := (numeral 10 n).map decDigit

def upperHex (n : Nat) : Text := (numeral 16 n).map hexDigit

def signed (n : Int) : Text :=
  if n < 0 then minus :: decimal n.natAbs else decimal n.natAbs

variable {x n val len : Nat} {c : UInt8}

theorem decDigit_ne_zero (h : x < 10) : decDigit x ≠ 0 := by
  interval_cases x <;> decide

theorem hexDigit_ne_zero (h : x < 16) : hexDigit x ≠ 0 := by
  interval_cases x <;> decide

theorem hexDigit_eq_zero_char (h : x < 16) : hexDigit x = 48 ↔ x = 0 := by
  interval_cases x <;> decide

theorem ne_zero_of_mem_decimal (h : c ∈ decimal n) : c ≠ 0 := by
  obtain ⟨x, hx, rfl⟩ := List.mem_map.mp h
  exact decDigit_ne_zero (lt_of_mem_numeral (by decide) hx)

theorem ne_zero_of_mem_upperHex (h : c ∈ upperHex n) : c ≠ 0 := by
  obtain ⟨x, hx, rfl⟩ := List.mem_map.mp h
  exact hexDigit_ne_zero (lt_of_mem_numeral (by decide) hx)

theorem numeral_length_le {b k : Nat} (hb : 1 < b) (hk : 0 < k) (h : n < b ^ k) :
    (numeral b n).length ≤ k := by
  by_cases hzero : n = 0
  · rw [hzero, numeral_zero]
    exact hk
  · rw [numeral_of_ne_zero hzero, List.length_reverse]
    exact (Nat.digits_length_le_iff hb n).mpr h

theorem string_eq {dest : Buffer} {l : Text} (hl : ∀ k (h : k < l.length), dest k = l[k])
    (hend : dest l.length = 0) (hne : ∀ c ∈ l, c ≠ 0) (hlt : l.length < BUFFER_SIZE) :
    string dest = l := by
  have hfront : (List.range l.length).map dest = l := by
    apply List.ext_getElem
    · simp
    · intro k _ hk
      simp [hl k hk]
  have hsplit : BUFFER_SIZE = l.length + (BUFFER_SIZE - l.length - 1 + 1) := by omega
  rw [string, hsplit, List.range_add, List.map_append, hfront, List.range_succ_eq_map,
    List.map_cons, List.map_cons, Nat.add_zero, hend, List.takeWhile_append_of_pos,
    List.takeWhile_cons_of_neg, List.append_nil]
  · simp
  · intro c hc
    simpa using hne c hc

/-- The characters that the loop over the digits stores, the last digit first. -/
def unitChars (value : Nat) : Text := (decimal value).reverse

theorem unitChars_length (value : Nat) : (unitChars value).length = (decimal value).length :=
  List.length_reverse

theorem blit_cons (str : Buffer) (p : Nat) (c : UInt8) (cs : Text) :
    blit (Function.update str p c) (p + 1) cs.length (fun k => cs.getD k 0) =
      blit str p (c :: cs).length fun k => (c :: cs).getD k 0 := by
  funext i
  rw [blit, blit, Function.update_apply, List.length_cons]
  by_cases hi : i = p
  · rw [if_neg (by omega), if_pos hi, if_pos (by omega), hi, Nat.sub_self, List.getD_cons_zero]
  by_cases hin : p + 1 ≤ i ∧ i < p + 1 + cs.length
  · rw [if_pos hin, if_pos (by omega), show i - p = i - (p + 1) + 1 by omega, List.getD_cons_succ]
  · rw [if_neg hin, if_neg hi, if_neg (by omega)]

theorem storeDigits_units (fuel value p : Nat) (str : Buffer) : storeDigits fuel value p str =
      (blit str p (units 10 fuel value).length
        fun k => ((units 10 fuel value).map decDigit).getD k 0,
        p + (units 10 fuel value).length) := by
  induction fuel generalizing value p str with
  | zero =>
      rw [storeDigits, units, List.length_nil, Nat.add_zero]
      congr 1
      funext i
      rw [blit, if_neg (by omega)]
  | succ fuel ih =>
      rw [storeDigits, units]
      split
      · have hone := blit_cons str p (decDigit (value % 10)) []
        rw [List.map_singleton, List.length_singleton]
        rw [List.length_singleton] at hone
        rw [← hone]
        congr 1
        funext i
        rw [blit, if_neg (by simp)]
      · rw [ih, List.length_cons, List.map_cons, Nat.add_right_comm p 1]
        congr 1
        have hcons := blit_cons str p (decDigit (value % 10))
          ((units 10 fuel (value / 10)).map decDigit)
        rw [List.length_cons, List.length_map] at hcons
        exact hcons

theorem storeDigits_eq (value p : Nat) (str : Buffer) : storeDigits (value + 1) value p str =
      (blit str p (unitChars value).length fun k => (unitChars value).getD k 0,
        p + (unitChars value).length) := by
  have hunits : (units 10 (value + 1) value).map decDigit = unitChars value := by
    rw [units_eq (by decide) (Nat.lt_succ_self value), unitChars, decimal, List.map_reverse]
  rw [storeDigits_units, hunits, ← hunits, List.length_map]

theorem reversed_apply (str : Buffer) (start : Nat) (cs : Text) (hcs : cs ≠ []) (i : Nat) :
    swapEnds (start + cs.length) start (start + cs.length - 1)
        (Function.update (blit str start cs.length fun k => cs.getD k 0) (start + cs.length) 0) i =
      if i < start then str i
      else if i < start + cs.length then cs.reverse.getD (i - start) 0
      else if i = start + cs.length then 0
      else str i := by
  have hpos : 0 < cs.length := List.length_pos_iff.mpr hcs
  rw [swapEnds_apply _ _ (by omega)]
  by_cases hin : start ≤ i ∧ i ≤ start + cs.length - 1
  · rw [if_pos hin, if_neg (by omega), if_pos (by omega), Function.update_of_ne (by omega), blit,
      if_pos (by omega), List.getD_eq_getElem _ _ (by omega),
      List.getD_eq_getElem _ _ (by rw [List.length_reverse]; omega), List.getElem_reverse]
    congr 1
    omega
  · rw [if_neg hin, Function.update_apply]
    by_cases hend : i = start + cs.length
    · rw [if_pos hend, if_neg (by omega), if_neg (by omega), if_pos hend]
    · rw [if_neg hend, if_neg hend, blit, if_neg (by omega)]
      split
      · rfl
      · rw [if_neg (by omega)]

theorem string_reversed (str : Buffer) (start : Nat) (cs : Text) (hcs : cs ≠ [])
    (hfront : ∀ i < start, str i ≠ 0) (hne : ∀ c ∈ cs, c ≠ 0)
    (hlt : start + cs.length < BUFFER_SIZE) :
    string (swapEnds (start + cs.length) start (start + cs.length - 1)
        (Function.update (blit str start cs.length fun k => cs.getD k 0) (start + cs.length) 0)) =
      (List.range start).map str ++ cs.reverse := by
  apply string_eq
  · intro k hk
    rw [List.length_append, List.length_map, List.length_range, List.length_reverse] at hk
    rw [reversed_apply str start cs hcs]
    by_cases hlow : k < start
    · rw [if_pos hlow, List.getElem_append_left (by simpa using hlow)]
      simp
    · rw [if_neg hlow, if_pos hk, List.getElem_append_right (by simpa using hlow)]
      simp only [List.length_map, List.length_range]
      exact List.getD_eq_getElem _ _ _
  · rw [List.length_append, List.length_map, List.length_range, List.length_reverse,
      reversed_apply str start cs hcs, if_neg (by omega), if_neg (by omega), if_pos rfl]
  · intro c hc
    rw [List.mem_append, List.mem_map, List.mem_reverse] at hc
    rcases hc with ⟨i, hi, rfl⟩ | hc
    · exact hfront i (List.mem_range.mp hi)
    · exact hne c hc
  · simpa using hlt

theorem decimal_ne_nil (n : Nat) : decimal n ≠ [] := by
  simp [decimal, numeral_ne_nil]

theorem decimal_length_le (h : n < 10 ^ 20) : (decimal n).length ≤ 20 := by
  rw [decimal, List.length_map]
  exact numeral_length_le (by decide) (by decide) h

theorem ne_zero_of_mem_unitChars (h : c ∈ unitChars n) : c ≠ 0 :=
  ne_zero_of_mem_decimal (List.mem_reverse.mp h)

theorem string_utoaR (h : val < 2 ^ 64) (str : Buffer) : string (utoaR val str) = decimal val := by
  have hlength := decimal_length_le (show val < 10 ^ 20 by omega)
  have hreversed := string_reversed str 0 (unitChars val) (by simp [unitChars, decimal_ne_nil])
    (by simp) (fun c hc => ne_zero_of_mem_unitChars hc) (by
      rw [unitChars_length, BUFFER_SIZE]
      omega)
  rw [utoaR, storeDigits_eq]
  rw [List.range_zero, List.map_nil, List.nil_append, unitChars, List.reverse_reverse]
    at hreversed
  rw [Nat.zero_add] at hreversed ⊢
  exact hreversed

theorem string_itoaDigits {value start : Nat} (h : value < 10 ^ 20) (str : Buffer)
    (hstart : start ≤ 1) (hfront : ∀ i < start, str i ≠ 0) :
    string (itoaDigits value false start str) = (List.range start).map str ++ decimal value := by
  have hlength := decimal_length_le h
  have hreversed := string_reversed str start (unitChars value)
    (by simp [unitChars, decimal_ne_nil]) hfront (fun c hc => ne_zero_of_mem_unitChars hc) (by
      rw [unitChars_length, BUFFER_SIZE]
      omega)
  rw [itoaDigits, storeDigits_eq]
  dsimp only
  rw [if_neg (by simp), hreversed, unitChars, List.reverse_reverse]

theorem itoaDigits_min (start : Nat) (str : Buffer) :
    itoaDigits 2147483647 true start str = itoaDigits 2147483648 false start str := by
  obtain ⟨cs, hcut, hwhole⟩ : ∃ cs, unitChars 2147483647 = decDigit 7 :: cs ∧
      unitChars 2147483648 = decDigit 8 :: cs := by
    refine ⟨unitChars 214748364, ?_, ?_⟩
    · simp [unitChars, decimal, numeral]
    · simp [unitChars, decimal, numeral]
  rw [itoaDigits, itoaDigits, storeDigits_eq, storeDigits_eq, hcut, hwhole]
  dsimp only
  rw [if_pos rfl, if_neg (by simp), ← blit_cons, ← blit_cons, List.length_cons, List.length_cons]
  have hcount : Function.update
      (blit (Function.update str start (decDigit 7)) (start + 1) cs.length fun k => cs.getD k 0) start
      (blit (Function.update str start (decDigit 7)) (start + 1) cs.length (fun k => cs.getD k 0)
        start + 1) =
      blit (Function.update str start (decDigit 8)) (start + 1) cs.length fun k => cs.getD k 0 := by
    funext i
    rw [Function.update_apply]
    split
    · rename_i hi
      rw [hi, blit, if_neg (by omega), blit, if_neg (by omega), Function.update_self,
        Function.update_self]
      decide
    · rename_i hi
      rw [blit, blit, Function.update_of_ne hi, Function.update_of_ne hi]
  rw [hcount]

theorem string_kinguioItoa {val : Int} (hlow : -2 ^ 31 ≤ val) (hhigh : val < 2 ^ 31)
    (str : Buffer) : string (kinguioItoa val str) = signed val := by
  rw [kinguioItoa, signed]
  by_cases hneg : val < 0
  · have hfront : ∀ i < 1, Function.update str 0 minus i ≠ 0 := by
      intro i hi
      rw [Nat.lt_one_iff.mp hi, Function.update_self]
      decide
    have hsign : (List.range 1).map (Function.update str 0 minus) = [minus] := by
      simp
    rw [if_pos hneg, if_pos hneg]
    dsimp only
    split
    · rename_i hmin
      have hval : val = -2147483648 := by
        rw [INT_MAX] at hmin
        omega
      have hcut : INT_MAX.toNat = 2147483647 := rfl
      rw [hcut, itoaDigits_min, string_itoaDigits (by decide) _ (le_refl 1) hfront, hsign, hval]
      rfl
    · rw [string_itoaDigits (by omega) _ (le_refl 1) hfront, hsign,
        show (-val).toNat = val.natAbs by omega]
      rfl
  · rw [if_neg hneg, if_neg hneg, string_itoaDigits (by omega) _ (Nat.zero_le 1) (by simp),
      show val.toNat = val.natAbs by omega]
    simp

theorem fillHex_apply (len n : Nat) (dest : Buffer) (i : Nat) : fillHex len n dest i =
      if i < len then ((field 16 len n).map hexDigit).getD i 0 else dest i := by
  induction len generalizing n dest with
  | zero => simp [fillHex]
  | succ len ih =>
      rw [fillHex, ih, field, List.map_append]
      have hlength : ((field 16 len (n / 16)).map hexDigit).length = len := by simp
      rcases lt_trichotomy i len with hlt | rfl | hgt
      · rw [if_pos hlt, if_pos (by omega), List.getD_append _ _ _ _ (by omega)]
      · rw [if_neg (by omega), if_pos (by omega), Function.update_self,
          List.getD_append_right _ _ _ _ (by omega), hlength, Nat.sub_self]
        rfl
      · rw [if_neg (by omega), if_neg (by omega), Function.update_of_ne (by omega)]

theorem strcpy_apply {cp fuel : Nat} {i : Nat} (dest : Buffer) (hi : i ≤ n)
    (hne : ∀ k, i ≤ k → k < n → dest (cp + k) ≠ 0) (hend : dest (cp + n) = 0) (hfuel : n < i + fuel)
    (k : Nat) :
    strcpy cp fuel i dest k = if i ≤ k ∧ k ≤ n then dest (cp + k) else dest k := by
  induction fuel generalizing i dest with
  | zero => omega
  | succ fuel ih =>
      rw [strcpy]
      by_cases hlast : i = n
      · subst hlast
        rw [if_pos hend, Function.update_apply]
        by_cases hk : k = i
        · rw [if_pos hk, if_pos (by omega), hk]
        · rw [if_neg hk, if_neg (by omega)]
      · have hkeep : ∀ m, i < m → Function.update dest i (dest (cp + i)) (cp + m) = dest (cp + m) :=
          fun m hm => Function.update_of_ne (by omega) ..
        rw [if_neg (hne i (le_refl i) (by omega)), ih _ (by omega) _ _ (by omega)]
        · by_cases hin : i + 1 ≤ k ∧ k ≤ n
          · rw [if_pos hin, if_pos (by omega), hkeep k (by omega)]
          · rw [if_neg hin, Function.update_apply]
            by_cases hk : k = i
            · rw [if_pos hk, if_pos (by omega), hk]
            · rw [if_neg hk, if_neg (by omega)]
        · intro m hm hmn
          rw [hkeep m (by omega)]
          exact hne m (by omega) hmn
        · rw [hkeep n (by omega)]
          exact hend

theorem dropWhile_hexDigit (ds : List Nat) (h : ∀ d ∈ ds, d < 16) :
    (ds.map hexDigit).dropWhile (· = 48) = (ds.dropWhile (· = 0)).map hexDigit := by
  induction ds with
  | nil => rfl
  | cons d ds ih =>
      have hd := hexDigit_eq_zero_char (h d List.mem_cons_self)
      rw [List.map_cons, List.dropWhile_cons, List.dropWhile_cons]
      simp only [hd]
      split
      · exact ih fun x hx => h x (List.mem_cons_of_mem d hx)
      · rfl

theorem drop_findIdx_field (hval : val < 16 ^ len) (hne : val ≠ 0) :
    ((field 16 len val).map hexDigit).drop
      (((field 16 len val).map hexDigit).findIdx (· ≠ 48)) = upperHex val := by
  have hnot : (fun c : UInt8 => !decide (c = 48)) = fun c => decide (c ≠ 48) := by
    funext c
    simp
  rw [upperHex, ← dropWhile_field_eq (by decide) hval hne,
    ← dropWhile_hexDigit _ fun d hd => lt_of_mem_field (by decide) hd,
    List.dropWhile_eq_drop_findIdx_not, hnot]

theorem string_i2hex (hval : val < 16 ^ len) (hlen : len < BUFFER_SIZE) (pad : Nat)
    (dest : Buffer) :
    string (i2hex val len pad dest) = upperHex val := by
  rw [i2hex]
  by_cases hzero : val = 0
  · rw [if_pos hzero, hzero]
    apply string_eq
    · intro k hk
      obtain rfl : k = 0 := by
        simp [upperHex, numeral_zero] at hk
        exact hk
      simp [upperHex, numeral_zero, hexDigit]
    · simp [upperHex, numeral_zero]
    · exact fun c hc => ne_zero_of_mem_upperHex hc
    · simp [upperHex, numeral_zero, BUFFER_SIZE]
  rw [if_neg hzero]
  dsimp only
  have hfill : ∀ k < len, Function.update (fillHex len val dest) len 0 k =
      ((field 16 len val).map hexDigit).getD k 0 := by
    intro k hk
    rw [Function.update_of_ne (by omega), fillHex_apply, if_pos hk]
  have hmark : Function.update (fillHex len val dest) len 0 len = 0 := Function.update_self ..
  generalize Function.update (fillHex len val dest) len 0 = filled at hfill hmark
  have hlist : (List.range len).map filled = (field 16 len val).map hexDigit := by
    apply List.ext_getElem
    · simp
    · intro k hk hk'
      rw [List.length_map, List.length_range] at hk
      rw [List.getElem_map, List.getElem_range, hfill k hk, List.getD_eq_getElem _ _ hk']
  have hdrop := drop_findIdx_field hval hzero
  rw [← hlist] at hdrop
  change ((List.range len).map filled).drop (firstDigit filled len) = _ at hdrop
  have hfound : firstDigit filled len < len := by
    by_contra hle
    rw [List.drop_eq_nil_of_le (by simpa using hle)] at hdrop
    exact absurd hdrop.symm (by simp [upperHex, numeral_ne_nil])
  have hlength : (upperHex val).length = len - firstDigit filled len := by
    rw [← hdrop]
    simp
  have hchars : ∀ k (hk : k < (upperHex val).length),
      filled (firstDigit filled len + k) = (upperHex val)[k] := by
    intro k hk
    simp only [← hdrop, List.getElem_drop, List.getElem_map, List.getElem_range]
  have hend : filled (firstDigit filled len + (upperHex val).length) = 0 := by
    rw [hlength, show firstDigit filled len + (len - firstDigit filled len) = len by omega]
    exact hmark
  have hcopied : ∀ k, strcpy (firstDigit filled len) (len + 1) 0 filled k =
      if 0 ≤ k ∧ k ≤ (upperHex val).length then filled (firstDigit filled len + k)
      else filled k := by
    apply strcpy_apply filled (Nat.zero_le _) _ hend (by omega)
    intro k _ hk
    rw [hchars k hk]
    exact ne_zero_of_mem_upperHex (List.getElem_mem hk)
  rw [if_pos hfound]
  generalize strcpy (firstDigit filled len) (len + 1) 0 filled = copied at hcopied
  have hstring : string copied = upperHex val := by
    apply string_eq
    · intro k hk
      rw [hcopied, if_pos (by omega)]
      exact hchars k hk
    · rw [hcopied, if_pos (by omega)]
      exact hend
    · exact fun c hc => ne_zero_of_mem_upperHex hc
    · omega
  rw [hstring]
  apply string_eq
  · intro k hk
    rw [blit, if_neg (by omega), hcopied, if_pos (by omega)]
    exact hchars k hk
  · rw [blit]
    split
    · rfl
    · rw [hcopied, if_pos (by omega)]
      exact hend
  · exact fun c hc => ne_zero_of_mem_upperHex hc
  · omega

end Gramado.Libk.Digits
