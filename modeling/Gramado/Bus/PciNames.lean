import Gramado.Bus.Pci

/-! The names of the PCI devices: what is printed for each class, and that the numbers and the
identifiers can be read back from it. -/

namespace Gramado.Bus.PciNames

open Bus.Pci Libk.Digits Libk.Vsprintf Libk.Printf
open Rtl.Strings (Text)

inductive Name where
  | display (n : Nat)
  | block (n : Nat)
  | nic (n : Nat)
  | other (vendor device : Nat)
  deriving DecidableEq

def Name.text : Name → Text
  | .display n => DISPLAY ++ decimal n
  | .block n => SD ++ decimal n
  | .nic n => NIC ++ decimal n
  | .other vendor device => DEV ++ (upperHex vendor ++ 95 :: upperHex device)

section Text

variable (stale : Buffer) {front : Text} {items : List Item} {ap : List Arg} {ts : List Text}

/-- The characters of a front part without directives, as items. -/
def plain (front : Text) (h : ∀ c ∈ front, c ≠ 0 ∧ c ≠ percent) : List Item :=
  front.pmap Item.ordinary h

theorem plain_texts (h : ∀ c ∈ front, c ≠ 0 ∧ c ≠ percent) (hts : texts items ap = some ts) :
    ∃ ts', texts (plain front h ++ items) ap = some ts' ∧
      (plain front h ++ items).flatMap Item.bytes = front ++ items.flatMap Item.bytes ∧
      (writtenTexts false (plain front h ++ items) ap).flatten =
        front ++ (writtenTexts false items ap).flatten := by
  induction front with
  | nil => exact ⟨ts, hts, rfl, rfl⟩
  | cons c front ih =>
      obtain ⟨ts', htexts, hbytes, hwritten⟩ := ih fun e he => h e (List.mem_cons_of_mem c he)
      refine ⟨[c] :: ts', ?_, ?_, ?_⟩
      · simp only [plain, List.pmap_cons, List.cons_append, texts, printed] at htexts ⊢
        rw [htexts]
        rfl
      · simp only [plain, List.pmap_cons, List.cons_append, List.flatMap_cons] at hbytes ⊢
        rw [hbytes]
        rfl
      · simp only [plain, List.pmap_cons, List.cons_append, writtenTexts, written, Item.rest,
          flagAfter, List.flatten_cons] at hwritten ⊢
        rw [hwritten]
        rfl

theorem ksprintf_eq (hfront : ∀ c ∈ front, c ≠ 0 ∧ c ≠ percent) (hts : texts items ap = some ts)
    {text : Text} (htext : (writtenTexts false items ap).flatten = text) (hne : ∀ c ∈ text, c ≠ 0) :
    ksprintf stale (front ++ items.flatMap Item.bytes) ap = .ok (front ++ text) := by
  obtain ⟨ts', htexts, hbytes, hall⟩ := plain_texts hfront hts
  obtain ⟨p, hp, hprinted⟩ := kinguioVsprintf_items htexts stale
  rw [Format.bytes, if_neg (by simp), List.append_nil, hbytes] at hp
  rw [ksprintf, hp]
  dsimp only
  rw [hprinted, hall, htext, List.takeWhile_eq_self_iff.mpr]
  intro c hc
  rcases List.mem_append.mp hc with hc | hc
  · simp [(hfront c hc).1]
  · simp [hne c hc]

theorem ksprintf_number (hfront : ∀ c ∈ front, c ≠ 0 ∧ c ≠ percent) {n : Nat} (hn : n < 2 ^ 31) :
    ksprintf stale (front ++ [37, 100]) [.word (.ofNat n)] = .ok (front ++ decimal n) := by
  have hto : (UInt64.ofNat n).toNat = n := UInt64.toNat_ofNat_of_lt' (Nat.lt_trans hn (by decide))
  have hunsigned : asUnsigned (.ofNat n) = n := by
    rw [asUnsigned, hto]
    exact Nat.mod_eq_of_lt (Nat.lt_trans hn (by decide))
  have hint : asInt (.ofNat n) = n := by
    rw [asInt_eq_asUnsigned.mpr (hunsigned.symm ▸ hn), hunsigned]
  have hwritten : (writtenTexts false [.integer false .d] [.word (.ofNat n)]).flatten =
      decimal n := by
    rw [← signed_eq_decimal.mpr hint]
    simp [writtenTexts, written, writtenInteger]
  exact ksprintf_eq stale hfront rfl hwritten fun c hc => ne_zero_of_mem_decimal hc

theorem ksprintf_string (hfront : ∀ c ∈ front, c ≠ 0 ∧ c ≠ percent) {s : Text}
    (hs : ∀ c ∈ s, c ≠ 0) :
    ksprintf stale (front ++ [37, 115]) [.string (some s)] = .ok (front ++ s) := by
  have hwritten : (writtenTexts false [.string false] [.string (some s)]).flatten = s := by
    simp only [writtenTexts, written, List.flatten_cons, List.flatten_nil, List.append_nil]
    exact List.takeWhile_eq_self_iff.mpr fun c hc => by simp [hs c hc]
  exact ksprintf_eq stale hfront rfl hwritten hs

theorem ksprintf_identifiers (hfront : ∀ c ∈ front, c ≠ 0 ∧ c ≠ percent) {v d : Nat}
    (hv : v < 2 ^ 32) (hd : d < 2 ^ 32) :
    ksprintf stale (front ++ [37, 120, 95, 37, 120]) [.word (.ofNat v), .word (.ofNat d)] =
      .ok (front ++ (upperHex v ++ 95 :: upperHex d)) := by
  have hto : ∀ n < 2 ^ 32, unsignedValue false (.ofNat n) = n := by
    intro n hn
    have hn' : (UInt64.ofNat n).toNat = n := UInt64.toNat_ofNat_of_lt' (Nat.lt_trans hn (by decide))
    rw [unsignedValue, if_neg (by simp), asUnsigned, hn']
    exact Nat.mod_eq_of_lt hn
  have hwritten : (writtenTexts false
      [.integer false .x, .ordinary 95 (by decide), .integer false .x]
      [.word (.ofNat v), .word (.ofNat d)]).flatten = upperHex v ++ 95 :: upperHex d := by
    simp [writtenTexts, written, writtenInteger, flagAfter, Item.rest, hto v hv, hto d hd]
  refine ksprintf_eq stale hfront rfl hwritten fun c hc => ?_
  rcases List.mem_append.mp hc with hc | hc
  · exact ne_zero_of_mem_upperHex hc
  · rcases List.mem_cons.mp hc with rfl | hc
    · decide
    · exact ne_zero_of_mem_upperHex hc

end Text

section Names

variable {name : Name}

/-- The digits do not reach the character between the identifiers. -/
theorem underscore_not_mem_upperHex {n : Nat} {c : UInt8} (h : c ∈ upperHex n) : c ≠ 95 := by
  have hdigits : ∀ x < 16, hexDigit x ≠ 95 := by decide
  obtain ⟨x, hx, rfl⟩ := List.mem_map.mp h
  exact hdigits x (Library.Numeral.lt_of_mem_numeral (by decide) hx)

theorem identifiers_inj {v d v' d' : Nat}
    (h : upperHex v ++ 95 :: upperHex d = upperHex v' ++ 95 :: upperHex d') :
    v = v' ∧ d = d' := by
  have hvendor : ∀ v d, (upperHex v ++ 95 :: upperHex d).takeWhile (· ≠ 95) = upperHex v := by
    intro v d
    rw [List.takeWhile_append_of_pos fun c hc => by simp [underscore_not_mem_upperHex hc]]
    simp
  have hv : upperHex v = upperHex v' := by rw [← hvendor v d, h, hvendor]
  rw [hv] at h
  have hd := List.cons.inj (List.append_cancel_left h)
  exact ⟨upperHex_inj.mp hv, upperHex_inj.mp hd.2⟩

theorem Name.text_inj {a b : Name} (h : a.text = b.text) : a = b := by
  cases a <;> cases b <;> simp only [Name.text, DISPLAY, SD, NIC, DEV, List.cons_append] at h
  case display.display m n => simpa [decimal_inj] using h
  case block.block m n => simpa [decimal_inj] using h
  case nic.nic m n => simpa [decimal_inj] using h
  case other.other v d v' d' =>
    obtain ⟨rfl, rfl⟩ := identifiers_inj (by simpa using h)
    rfl
  all_goals simp at h

/-- The numbers that the counters reach, and identifiers of 16 bits. -/
def Name.Small : Name → Prop
  | .display n => n < 2 ^ 31
  | .block n => n < 2 ^ 31
  | .nic n => n < 2 ^ 31
  | .other vendor device => vendor < 2 ^ 16 ∧ device < 2 ^ 16

theorem front_plain :
    ∀ front ∈ [DISPLAY, SD, NIC, DEV, MOUNT], ∀ c ∈ front, c ≠ 0 ∧ c ≠ percent := by
  simp [DISPLAY, SD, NIC, DEV, MOUNT, percent]

theorem Name.ne_zero {c : UInt8} (h : c ∈ name.text) : c ≠ 0 := by
  cases name <;> rcases List.mem_append.mp h with h | h
  case display.inr | block.inr | nic.inr => exact ne_zero_of_mem_decimal h
  case other.inr =>
    rcases List.mem_append.mp h with h | h
    · exact ne_zero_of_mem_upperHex h
    · rcases List.mem_cons.mp h with rfl | h
      · decide
      · exact ne_zero_of_mem_upperHex h
  all_goals exact (front_plain _ (by simp) c h).1

theorem Name.text_ne_nil (name : Name) : name.text ≠ [] := by
  cases name <;> simp [Name.text, DISPLAY, SD, NIC, DEV]

theorem Name.length_lt (h : name.Small) : name.text.length < 59 := by
  have hdecimal : ∀ n < 2 ^ 31, (decimal n).length ≤ 20 := fun n hn =>
    decimal_length_le (Nat.lt_trans hn (by decide))
  have hhex : ∀ n < 2 ^ 16, (upperHex n).length ≤ 4 := by
    intro n hn
    rw [upperHex, List.length_map]
    exact numeral_length_le (by decide) (by decide) hn
  cases name with
  | display n =>
      have := hdecimal n h
      simp [Name.text, DISPLAY]
      omega
  | block n =>
      have := hdecimal n h
      simp [Name.text, SD]
      omega
  | nic n =>
      have := hdecimal n h
      simp [Name.text, NIC]
      omega
  | other v d =>
      have hv := hhex v h.1
      have hd := hhex d h.2
      simp [Name.text, DEV]
      omega

end Names

end Gramado.Bus.PciNames
