import Mathlib.Data.Nat.ModEq
import Gramado.Net.Frame

/-! What `net_checksum` computes. -/

namespace Gramado.Net.Checksum

open Library Net.Frame

/-- The words of data in the order of the network, the last odd byte padded with zero. -/
def paddedWords : List UInt8 → List Nat
  | hi :: lo :: rest => (256 * hi.toNat + lo.toNat) :: paddedWords rest
  | [b] => [256 * b.toNat]
  | [] => []

def words (phdr : Option (List UInt8)) (data : List UInt8) : List Nat :=
  paddedWords (phdr.getD []) ++ paddedWords data

/-- The sum of the halves of data with its odd byte, without the bound of a register. -/
def total (bytes : List UInt8) : Nat :=
  halvesSum bytes + (oddByte bytes).toNat

variable {front : List UInt8} {t n : Nat}

theorem oddByte_even {bytes : List UInt8} (h : bytes.length % 2 = 0) : oddByte bytes = 0 := by
  induction bytes using oddByte.induct with
  | case1 _ _ rest ih =>
      rw [List.length_cons, List.length_cons] at h
      exact ih (by omega)
  | case2 b => simp at h
  | case3 => rfl

theorem paddedWords_le (bytes : List UInt8) : ∀ w ∈ paddedWords bytes, w ≤ 65535 := by
  induction bytes using paddedWords.induct with
  | case1 hi lo rest ih =>
      have hhi := hi.toNat_lt
      have hlo := lo.toNat_lt
      simp only [paddedWords, List.forall_mem_cons]
      exact ⟨by omega, ih⟩
  | case2 b =>
      have hb := b.toNat_lt
      simp only [paddedWords, List.forall_mem_singleton]
      omega
  | case3 => simp [paddedWords]

theorem paddedWords_sum (bytes : List UInt8) :
    (paddedWords bytes).sum % 65535 = 256 * total bytes % 65535 ∧
      ((paddedWords bytes).sum = 0 ↔ total bytes = 0) := by
  induction bytes using paddedWords.induct with
  | case1 hi lo rest ih =>
      rw [total] at ih
      rw [paddedWords, total, halvesSum, oddByte, List.sum_cons]
      omega
  | case2 b =>
      simp only [paddedWords, total, halvesSum, oddByte, UInt8.toNat_toUInt32, List.sum_singleton]
      omega
  | case3 => simp [paddedWords, total, halvesSum, oddByte]

theorem paddedWords_append (h : front.length % 2 = 0) (rest : List UInt8) :
    paddedWords (front ++ rest) = paddedWords front ++ paddedWords rest := by
  induction front using paddedWords.induct with
  | case1 hi lo front ih =>
      rw [List.length_cons, List.length_cons] at h
      rw [List.cons_append, List.cons_append, paddedWords, paddedWords, ih (by omega),
        List.cons_append]
  | case2 b => simp at h
  | case3 => rfl

theorem sumHalves_mod (bytes : List UInt8) :
    (sumHalves bytes).toNat = halvesSum bytes % 4294967296 := by
  induction bytes using sumHalves.induct with
  | case1 lo hi rest ih =>
      rw [sumHalves, halvesSum, UInt32.toNat_add, ih, UInt32.toNat_ofNat']
      omega
  | case2 bytes hbytes =>
      rw [sumHalves, halvesSum]
      · rfl
      · exact hbytes
      · exact hbytes

theorem total_le (bytes : List UInt8) : total bytes ≤ 65535 * ((bytes.length + 1) / 2) := by
  induction bytes using paddedWords.induct with
  | case1 hi lo rest ih =>
      have hhi := hi.toNat_lt
      have hlo := lo.toNat_lt
      rw [total] at ih
      rw [total, halvesSum, oddByte, List.length_cons, List.length_cons]
      omega
  | case2 b =>
      have hb := b.toNat_lt
      simp only [total, halvesSum, oddByte, UInt8.toNat_toUInt32, List.length_singleton]
      omega
  | case3 => simp [total, halvesSum, oddByte]

/-- The checksum is the complement of the sum of all words with an end-around carry. -/
def Complements (phdr : Option (List UInt8)) (data : List UInt8) : Prop :=
  (netChecksum phdr data).toNat = 65535 - OnesComplement.sum 65535 (words phdr data)

def totals (phdr : Option (List UInt8)) (data : List UInt8) : Nat :=
  total (phdr.getD []) + total data

def accumulated (phdr : Option (List UInt8)) (data : List UInt8) : UInt32 :=
  (match phdr with
    | none => 0
    | some phdr => sumHalves phdr) + sumHalves data + oddByte data

def folded (c : UInt32) : UInt16 :=
  let c1 := (c &&& (0xffff : UInt32)) + (c >>> (16 : UInt32))
  let c2 := c1 + (c1 >>> (16 : UInt32))
  (~~~c2).toUInt16

theorem netChecksum_eq (phdr : Option (List UInt8)) (data : List UInt8) :
    netChecksum phdr data = toNetByteOrder16 (folded (accumulated phdr data)) :=
  rfl

theorem words_sum (phdr : Option (List UInt8)) (data : List UInt8) :
    (words phdr data).sum % 65535 = 256 * totals phdr data % 65535 ∧
      ((words phdr data).sum = 0 ↔ totals phdr data = 0) := by
  have hheader := paddedWords_sum (phdr.getD [])
  have hdata := paddedWords_sum data
  rw [words, totals, List.sum_append]
  omega

theorem words_le (phdr : Option (List UInt8)) (data : List UInt8) :
    ∀ w ∈ words phdr data, w ≤ 65535 := by
  intro w hw
  rcases List.mem_append.mp hw with h | h
  · exact paddedWords_le _ w h
  · exact paddedWords_le _ w h

theorem swapped_mod (hn : n ≤ 65535) (h : (t + n) % 65535 = 0) :
    (65535 - (n / 256 + 256 * (n % 256))) % 65535 = 256 * t % 65535 := by
  obtain ⟨q, hq⟩ := Nat.dvd_of_mod_eq_zero h
  have hswap : n / 256 + 256 * (n % 256) ≤ 65535 := by omega
  have htotal : 256 * t + (n / 256 + 256 * (n % 256)) = 65535 * (256 * q - n / 256) := by omega
  generalize n / 256 + 256 * (n % 256) = w at hswap htotal
  generalize 256 * q - n / 256 = k at htotal
  generalize 256 * t = t' at htotal
  cases k with
  | zero =>
      obtain rfl : t' = 0 := by omega
      obtain rfl : w = 0 := by omega
      rfl
  | succ k =>
      have ht : t' = 65535 - w + 65535 * k := by omega
      rw [ht, Nat.add_mul_mod_self_left]

theorem lt_of_kept (hbound : t < 65535 * 4294967296) (h : t ≡ t % 4294967296 [MOD 65535]) :
    t < 4294967296 := by
  have hsplit := Nat.div_add_mod t 4294967296
  have hlost : t / 4294967296 < 65535 := by omega
  have hrest : t % 4294967296 < 4294967296 := Nat.mod_lt t (by decide)
  unfold Nat.ModEq at h
  generalize t / 4294967296 = k at hsplit hlost
  generalize t % 4294967296 = r at hsplit h hrest
  have hk : k % 65535 = 0 := by omega
  omega

section

variable {phdr : Option (List UInt8)} (heven : (phdr.getD []).length % 2 = 0) (data : List UInt8)

include heven

theorem accumulated_toNat : (accumulated phdr data).toNat = totals phdr data % 4294967296 := by
  have hodd := oddByte_even heven
  unfold accumulated
  rw [UInt32.toNat_add, UInt32.toNat_add]
  cases phdr with
  | none => simp [totals, total, halvesSum, oddByte, sumHalves_mod]
  | some bytes =>
      rw [Option.getD_some] at hodd
      simp [totals, total, hodd, sumHalves_mod, Nat.add_assoc]

theorem netChecksum_spec :
    ∃ n, (netChecksum phdr data).toNat = n / 256 + 256 * (n % 256) ∧ n ≤ 65535 ∧
      (totals phdr data % 4294967296 + n) % 65535 = 0 ∧
        (n = 65535 ↔ totals phdr data % 4294967296 = 0) := by
  refine ⟨(folded (accumulated phdr data)).toNat, ?_, ?_, ?_, ?_⟩
  · rw [netChecksum_eq, toNetByteOrder16_toNat]
  · exact Nat.le_of_lt_succ (UInt16.toNat_lt _)
  · rw [← accumulated_toNat heven]
    exact fold_carry _
  · rw [← accumulated_toNat heven]
    exact fold_eq_ones _

theorem complements_iff (hbound : totals phdr data < 65535 * 4294967296) :
    Complements phdr data ↔ totals phdr data < 4294967296 := by
  obtain ⟨n, hchecksum, hn, hcarry, hones⟩ := netChecksum_spec heven data
  have hle := OnesComplement.sum_le (words_le phdr data)
  have hmod := OnesComplement.sum_mod (m := 65535) (words phdr data)
  have hzero : OnesComplement.sum 65535 (words phdr data) = 0 ↔ (words phdr data).sum = 0 :=
    OnesComplement.sum_eq_zero_iff
  obtain ⟨hwords, hnone⟩ := words_sum phdr data
  rw [hwords] at hmod
  rw [hnone] at hzero
  rw [Complements, hchecksum]
  generalize OnesComplement.sum 65535 (words phdr data) = s at hle hmod hzero ⊢
  have hvalue := swapped_mod hn hcarry
  constructor
  · intro hright
    have hs : 65535 - (n / 256 + 256 * (n % 256)) = s := by omega
    rw [hs, hmod] at hvalue
    exact lt_of_kept hbound (Nat.ModEq.cancel_left_of_coprime (c := 256) (by decide) hvalue)
  · intro hsmall
    rw [Nat.mod_eq_of_lt hsmall] at hvalue hones
    have hs : 65535 - (n / 256 + 256 * (n % 256)) = s := by
      apply OnesComplement.eq_of_mod_eq (Nat.sub_le _ _) hle (hvalue.trans hmod.symm)
      rw [hzero, ← hones]
      omega
    omega

end

theorem paddedWords_stored (v : UInt16) (rest : List UInt8) :
    paddedWords (halfBytes (toNetByteOrder16 v) ++ rest) = v.toNat :: paddedWords rest := by
  have hlt := (toNetByteOrder16 v).toNat_lt
  have hswap := toNetByteOrder16_toNat (toNetByteOrder16 v)
  rw [toNetByteOrder16_toNetByteOrder16] at hswap
  simp only [halfBytes, List.cons_append, List.nil_append, paddedWords, UInt8.toNat_ofNat']
  rw [hswap]
  congr 1
  omega

/-- The data with the checksum stored in a field of two bytes, as the senders store it. -/
def stored (phdr : Option (List UInt8)) (front rest : List UInt8) : List UInt8 :=
  front ++ (halfBytes (toNetByteOrder16 (netChecksum phdr (front ++ ([0, 0] ++ rest)))) ++ rest)

theorem sum_stored {phdr : Option (List UInt8)} (hfront : front.length % 2 = 0) (rest : List UInt8)
    (h : Complements phdr (front ++ ([0, 0] ++ rest))) :
    OnesComplement.sum 65535 (words phdr (stored phdr front rest)) = 65535 := by
  have hle := OnesComplement.sum_le (words_le phdr (front ++ ([0, 0] ++ rest)))
  have hmod := OnesComplement.sum_mod (m := 65535) (words phdr (front ++ ([0, 0] ++ rest)))
  have hzero : OnesComplement.sum 65535 (words phdr (front ++ ([0, 0] ++ rest))) = 0 ↔
      (words phdr (front ++ ([0, 0] ++ rest))).sum = 0 := OnesComplement.sum_eq_zero_iff
  have hempty : (words phdr (front ++ ([0, 0] ++ rest))).sum =
      (paddedWords (phdr.getD [])).sum + (paddedWords front).sum + (paddedWords rest).sum := by
    rw [words, paddedWords_append hfront]
    simp [paddedWords, Nat.add_assoc]
  have hfull : (words phdr (stored phdr front rest)).sum =
      (words phdr (front ++ ([0, 0] ++ rest))).sum +
        (netChecksum phdr (front ++ ([0, 0] ++ rest))).toNat := by
    rw [hempty, words, stored, paddedWords_append hfront, paddedWords_stored]
    simp only [List.sum_append, List.sum_cons]
    omega
  rw [Complements] at h
  apply OnesComplement.sum_eq_ones (words_le _ _)
  · rw [hfull]
    omega
  · rw [hfull, Nat.add_mod, ← hmod, ← Nat.add_mod, h, Nat.add_sub_cancel' hle, Nat.mod_self]

/-- The checksum is the complement of the sum of the words if and only if their sum fits in the
register, which it does for every pseudo header of up to 65538 bytes. -/
theorem net_checksum_iff {phdr : Option (List UInt8)} {data : List UInt8}
    (heven : (phdr.getD []).length % 2 = 0) (hphdr : (phdr.getD []).length < 2147483648)
    (hdata : data.length ≤ 65535) :
    (Complements phdr data ↔ totals phdr data < 4294967296) ∧
      ((phdr.getD []).length ≤ 65538 → totals phdr data < 4294967296) ∧
      ∀ front rest, data = front ++ ([0, 0] ++ rest) → front.length % 2 = 0 →
        totals phdr data < 4294967296 →
          OnesComplement.sum 65535 (words phdr (stored phdr front rest)) = 65535 := by
  have hheader := total_le (phdr.getD [])
  have hbytes := total_le data
  have hiff : Complements phdr data ↔ totals phdr data < 4294967296 := by
    apply complements_iff heven
    rw [totals]
    omega
  refine ⟨hiff, fun hsmall => ?_, ?_⟩
  · rw [totals]
    omega
  · rintro front rest rfl hfront hfits
    exact sum_stored hfront rest (hiff.mpr hfits)

theorem halvesSum_ones (n : Nat) : halvesSum (List.replicate (2 * n) 0xFF) = 65535 * n := by
  induction n with
  | zero => simp [halvesSum]
  | succ n ih =>
      rw [Nat.mul_succ, List.replicate_succ, List.replicate_succ, halvesSum, ih]
      simp only [UInt8.reduceToNat]
      omega

theorem net_checksum_iff_header :
    (Complements (some [0x12, 0x34]) [0xFF, 0, 0, 0, 1] ↔
      totals (some [0x12, 0x34]) [0xFF, 0, 0, 0, 1] < 4294967296) ∧
    OnesComplement.sum 65535
      (words (some [0x12, 0x34]) (stored (some [0x12, 0x34]) [0xFF, 0] [1])) = 65535 := by
  have h : (Complements (some [0x12, 0x34]) [0xFF, 0, 0, 0, 1] ↔ _) ∧ _ :=
    net_checksum_iff (by decide) (by decide) (by decide)
  exact ⟨h.1, h.2.2 [0xFF, 0] [1] rfl (by decide) (h.2.1 (by decide))⟩

def onesHeader (n : Nat) : Option (List UInt8) :=
  some (List.replicate (2 * n) 0xFF)

theorem complements_onesHeader (h : n < 4294967296) :
    Complements (onesHeader n) [] ↔ 65535 * n < 4294967296 := by
  have heven : ((onesHeader n).getD []).length % 2 = 0 := by
    rw [onesHeader, Option.getD_some, List.length_replicate, Nat.mul_mod_right]
  have htotal : totals (onesHeader n) [] = 65535 * n := by
    have hodd := oddByte_even heven
    rw [onesHeader, Option.getD_some] at hodd
    rw [totals, total, total, onesHeader, Option.getD_some, halvesSum_ones, hodd]
    rfl
  rw [← htotal]
  apply complements_iff heven
  omega

/-- The sum of 65538 words of ones only does not fit in the register. -/
theorem long_pseudo_header_wrong : ¬ Complements (onesHeader 65538) [] := by
  rw [complements_onesHeader (by decide)]
  decide

end Gramado.Net.Checksum
