import Gramado.Libk.Vsprintf
import Mathlib

/-! Format strings and what C says they print, and when `kinguio_vsprintf` prints it. -/

namespace Gramado.Libk.Printf

open Library.ByteMemory Library.Numeral Libk.Digits Libk.Vsprintf
open Rtl.Strings (Text)

inductive Conversion where
  | d
  | i
  | u
  | x
  | X
  deriving DecidableEq

/-- A part of a format string: an ordinary character, or a directive. `long` is its `l`. -/
inductive Item where
  | ordinary (c : UInt8) (h : c ≠ 0 ∧ c ≠ percent)
  | integer (long : Bool) (conversion : Conversion)
  | character (long : Bool)
  | string (long : Bool)
  | percent

def Conversion.byte : Conversion → UInt8
  | .d => 100
  | .i => 105
  | .u => 117
  | .x => 120
  | .X => 88

def directive (long : Bool) (c : UInt8) : Text :=
  Vsprintf.percent :: if long = true then [108, c] else [c]

def Item.bytes : Item → Text
  | .ordinary c _ => [c]
  | .integer long conversion => directive long conversion.byte
  | .character long => directive long 99
  | .string long => directive long 115
  | .percent => directive false Vsprintf.percent

/-- A format string; `lone` says whether a `%` stands behind the last item. -/
structure Format where
  items : List Item
  lone : Bool

def Format.bytes (f : Format) : Text :=
  f.items.flatMap Item.bytes ++ if f.lone = true then [Vsprintf.percent] else []

def unsignedValue (long : Bool) (w : UInt64) : Nat :=
  if long = true then w.toNat else asUnsigned w

def signedValue (long : Bool) (w : UInt64) : Int :=
  if long = true then (w.toNat : Int).bmod (2 ^ 64) else asInt w

def lowerDigit (x : Nat) : UInt8 := UInt8.ofNat (if 9 < x then x + 87 else x + 48)

def lowerHex (n : Nat) : Text := (numeral 16 n).map lowerDigit

def integerText (long : Bool) (w : UInt64) : Conversion → Text
  | .d => signed (signedValue long w)
  | .i => signed (signedValue long w)
  | .u => decimal (unsignedValue long w)
  | .x => lowerHex (unsignedValue long w)
  | .X => upperHex (unsignedValue long w)

def wideText (s : List UInt32) : List UInt32 := s.takeWhile (· ≠ 0)

/-- The text that C defines for an item, and the arguments behind its own; `none` if the
argument does not match. A wide character is one of the characters that are the same in every
character set. -/
def printed : Item → List Arg → Option (Text × List Arg)
  | .ordinary c _, ap => some ([c], ap)
  | .integer long conversion, .word w :: ap => some (integerText long w conversion, ap)
  | .character false, .word w :: ap => some ([UInt8.ofNat w.toNat], ap)
  | .character true, .word w :: ap =>
      if asUnsigned w < 128 then some ([UInt8.ofNat w.toNat].takeWhile (· ≠ 0), ap) else none
  | .string false, .string (some s) :: ap => some (s.takeWhile (· ≠ 0), ap)
  | .string true, .wide s :: ap =>
      if ∀ c ∈ wideText s, c < 128 then
        some ((wideText s).map fun c => UInt8.ofNat c.toNat, ap)
      else none
  | .percent, ap => some ([Vsprintf.percent], ap)
  | _, _ => none

/-- The texts of the items; `none` if an argument does not match. -/
def texts : List Item → List Arg → Option (List Text)
  | [], _ => some []
  | item :: items, ap =>
      match printed item ap with
      | none => none
      | some (t, ap) => (texts items ap).map (t :: ·)

/-- The call does what C defines: it stops at the end of the format, it prints the text of every
item behind the texts of the ones in front of it, and a null character stands behind the whole. -/
structure Prints (mem : Memory) (str : Nat) (f : Format) (ap : List Arg) (buffer : Buffer)
    (ts : List Text) : Prop where
  stops : ∃ p, kinguioVsprintf f.bytes ap buffer = .ok p
  items : ∀ k, ∃ p, kinguioVsprintf (Format.mk (f.items.take k) false).bytes ap buffer = .ok p ∧
    p.text = (ts.take k).flatten
  terminated : ∀ p, kinguioVsprintf f.bytes ap buffer = .ok p →
    p.store mem str (str + p.text.length) = 0

def flagAfter (flag : Bool) : Item → Bool
  | .ordinary _ _ => flag
  | .percent => flag
  | .integer long .d => flag || long
  | .integer long .i => flag || long
  | .integer _ _ => false
  | .character long => flag || long
  | .string long => flag || long

def Item.rest : Item → List Arg → List Arg
  | .ordinary _ _, ap => ap
  | .percent, ap => ap
  | _, ap => ap.tail

def IntegerFaithful (flag long : Bool) (w : UInt64) : Conversion → Prop
  | .d => -2 ^ 31 ≤ signedValue long w ∧ signedValue long w < 2 ^ 31
  | .i => -2 ^ 31 ≤ signedValue long w ∧ signedValue long w < 2 ^ 31
  | .u =>
      if long = true then True
      else if flag = true then w.toNat < 2 ^ 32
      else asUnsigned w < 2 ^ 31
  | .x =>
      (flag = true → long = false → w.toNat < 2 ^ 32) ∧
        ∀ x ∈ numeral 16 (unsignedValue long w), x ≤ 9
  | .X => flag = true → long = false → w.toNat < 2 ^ 32

/-- `flag` says whether an `l` is still pending from an earlier directive. -/
def ItemFaithful (flag : Bool) : Item → List Arg → Prop
  | .integer long conversion, .word w :: _ => IntegerFaithful flag long w conversion
  | .character false, .word w :: _ => UInt8.ofNat w.toNat ≠ 0
  | .string true, .wide s :: _ => (wideText s).length ≤ 1
  | .percent, _ => False
  | _, _ => True

def Faithful : Bool → List Item → List Arg → Prop
  | _, [], _ => True
  | flag, item :: items, ap =>
      ItemFaithful flag item ap ∧ Faithful (flagAfter flag item) items (item.rest ap)

def writtenInteger (wide : Bool) (w : UInt64) : Conversion → Text
  | .d => signed (asInt w)
  | .i => signed (asInt w)
  | .u => if wide = true then decimal w.toNat else signed (asInt w)
  | .x => upperHex (unsignedValue wide w)
  | .X => upperHex (unsignedValue wide w)

def written (flag : Bool) : Item → List Arg → Text
  | .ordinary c _, _ => [c]
  | .integer long conversion, .word w :: _ => writtenInteger (flag || long) w conversion
  | .character _, .word w :: _ => [UInt8.ofNat w.toNat].takeWhile (· ≠ 0)
  | .string _, .string (some s) :: _ => s.takeWhile (· ≠ 0)
  | .string _, .wide s :: _ => (s.flatMap wideBytes).takeWhile (· ≠ 0)
  | .percent, _ => [Vsprintf.percent, Vsprintf.percent]
  | _, _ => []

def writtenTexts : Bool → List Item → List Arg → List Text
  | _, [], _ => []
  | flag, item :: items, ap =>
      written flag item ap :: writtenTexts (flagAfter flag item) items (item.rest ap)

theorem asInt_range (w : UInt64) : -2 ^ 31 ≤ asInt w ∧ asInt w < 2 ^ 31 := by
  have hlow : -((2 ^ 32 : Nat) : Int) / 2 ≤ asInt w := Int.le_bmod (by decide)
  have hhigh : asInt w < ((2 ^ 32 : Nat) + 1 : Int) / 2 := Int.bmod_lt (by decide)
  omega

theorem asUnsigned_lt (w : UInt64) : asUnsigned w < 16 ^ 8 := Nat.mod_lt _ (by decide)

@[simp] theorem string_itoa_asInt (w : UInt64) (buffer : Buffer) :
    Digits.string (kinguioItoa (asInt w) buffer) = signed (asInt w) :=
  string_kinguioItoa (asInt_range w).1 (asInt_range w).2 buffer

@[simp] theorem string_utoa_ten (w : UInt64) (buffer : Buffer) :
    Digits.string (kinguioUtoa w.toNat buffer 10) = decimal w.toNat :=
  string_utoaR w.toNat_lt buffer

@[simp] theorem string_utoa_sixteen (w : UInt64) (buffer : Buffer) :
    Digits.string (kinguioUtoa w.toNat buffer 16) = upperHex w.toNat :=
  string_i2hex w.toNat_lt (by decide) 16 buffer

@[simp] theorem string_i2hex_asUnsigned (w : UInt64) (buffer : Buffer) :
    Digits.string (kinguioI2hex (asUnsigned w) 8 buffer) = upperHex (asUnsigned w) :=
  string_i2hex (asUnsigned_lt w) (by decide) HEX_LEN buffer

variable {item : Item} {t : Text} {ap ap' : List Arg} {s : State} {items : List Item}
  {ts : List Text} {x y m n : Nat} {f g : Nat → UInt8} {P : Nat → Prop} {z : Int} {w : UInt64}

theorem format_directive (long : Bool) {c : UInt8} (hc : c ≠ 108) (fmt : Text) (s : State) :
    format (directive long c ++ fmt) s =
      match convert c { s with type64bit := s.type64bit || long } with
      | .error e => .error e
      | .ok s => format fmt s := by
  have hpercent : ¬ Vsprintf.percent = 0 := by decide
  cases long with
  | true =>
      change format (Vsprintf.percent :: 108 :: c :: fmt) s = _
      rw [format.eq_def]
      simp [hpercent] <;> rfl
  | false =>
      change format (Vsprintf.percent :: c :: fmt) s = _
      rw [format.eq_def]
      simp [hpercent, hc] <;> rfl

theorem convert_integer (conversion : Conversion) (text : Text) (w : UInt64) (ap : List Arg)
    (wide : Bool) (buffer : Buffer) :
    ∃ buffer', convert conversion.byte ⟨text, .word w :: ap, wide, buffer⟩ =
      .ok ⟨text ++ writtenInteger wide w conversion, ap, match conversion with
        | .d => wide
        | .i => wide
        | _ => false, buffer'⟩ := by
  cases conversion with
  | d => exact ⟨_, by simp [convert, Conversion.byte, printInt, vaArg, State.putsBuffer,
      writtenInteger]; rfl⟩
  | i => exact ⟨_, by simp [convert, Conversion.byte, printInt, vaArg, State.putsBuffer,
      writtenInteger]; rfl⟩
  | u =>
      cases wide with
      | true => exact ⟨_, by simp [convert, Conversion.byte, printUnsigned, vaArg,
          State.putsBuffer, writtenInteger]; rfl⟩
      | false => exact ⟨_, by simp [convert, Conversion.byte, printUnsigned, vaArg,
          State.putsBuffer, writtenInteger]; rfl⟩
  | x =>
      cases wide with
      | true => exact ⟨_, by simp [convert, Conversion.byte, printHex, vaArg,
          State.putsBuffer, writtenInteger, unsignedValue]; rfl⟩
      | false => exact ⟨_, by simp [convert, Conversion.byte, printHex, vaArg,
          State.putsBuffer, writtenInteger, unsignedValue]; rfl⟩
  | X =>
      cases wide with
      | true => exact ⟨_, by simp [convert, Conversion.byte, printHex, vaArg,
          State.putsBuffer, writtenInteger, unsignedValue]; rfl⟩
      | false => exact ⟨_, by simp [convert, Conversion.byte, printHex, vaArg,
          State.putsBuffer, writtenInteger, unsignedValue]; rfl⟩

theorem convert_character (text : Text) (w : UInt64) (ap : List Arg) (wide : Bool)
    (buffer : Buffer) :
    convert 99 ⟨text, .word w :: ap, wide, buffer⟩ =
      .ok ⟨text ++ [UInt8.ofNat w.toNat].takeWhile (· ≠ 0), ap, wide, buffer⟩ := by
  have hnull : [UInt8.ofNat w.toNat, 0].takeWhile (· ≠ 0) =
      [UInt8.ofNat w.toNat].takeWhile (· ≠ 0) := by
    simp [List.takeWhile_cons]
  simp only [convert, if_true, printChar, vaArg, State.puts, hnull]

theorem printed_rest (h : printed item ap = some (t, ap')) : ap' = item.rest ap := by
  unfold printed at h
  split at h
  all_goals try split at h
  all_goals simp at h
  all_goals exact h.2.symm

theorem format_item (fmt : Text) (h : printed item s.ap = some (t, ap')) :
    ∃ buffer, format (item.bytes ++ fmt) s =
      format fmt ⟨s.text ++ written s.type64bit item s.ap, item.rest s.ap,
        flagAfter s.type64bit item, buffer⟩ := by
  obtain ⟨text, ap, flag, buffer⟩ := s
  dsimp only at h ⊢
  unfold printed at h
  split at h
  · rename_i c hc
    refine ⟨buffer, ?_⟩
    rw [Item.bytes, List.singleton_append, format.eq_def]
    simp [State.puts, written, Item.rest, flagAfter, hc.1, hc.2]
  · rename_i long conversion w ap
    obtain ⟨buffer', hconvert⟩ := convert_integer conversion text w ap (flag || long) buffer
    refine ⟨buffer', ?_⟩
    rw [Item.bytes, format_directive long (by cases conversion <;> decide), hconvert]
    cases conversion <;> rfl
  · refine ⟨buffer, ?_⟩
    rw [Item.bytes, format_directive false (by decide), convert_character]
    rfl
  · refine ⟨buffer, ?_⟩
    rw [Item.bytes, format_directive true (by decide), convert_character]
    rfl
  · refine ⟨buffer, ?_⟩
    rw [Item.bytes, format_directive false (by decide)]
    simp [convert, printString, vaString, State.puts, written, Item.rest, flagAfter]
  · refine ⟨buffer, ?_⟩
    rw [Item.bytes, format_directive true (by decide)]
    simp [convert, printString, vaString, State.puts, written, Item.rest, flagAfter]
  · refine ⟨buffer, ?_⟩
    rw [Item.bytes, format_directive false (by decide)]
    simp [convert, Vsprintf.percent, State.puts, written, Item.rest, flagAfter]
  · cases h

theorem texts_cons (h : texts (item :: items) ap = some ts) :
    ∃ t ts', printed item ap = some (t, item.rest ap) ∧
      texts items (item.rest ap) = some ts' ∧ ts = t :: ts' := by
  rw [texts] at h
  split at h
  · cases h
  rename_i t ap' hprinted
  obtain ⟨ts', hts, rfl⟩ := Option.map_eq_some_iff.mp h
  obtain rfl := printed_rest hprinted
  exact ⟨t, ts', hprinted, hts, rfl⟩

theorem format_items (fmt : Text) (h : texts items s.ap = some ts) :
    ∃ s', format (items.flatMap Item.bytes ++ fmt) s = format fmt s' ∧
      s'.text = s.text ++ (writtenTexts s.type64bit items s.ap).flatten := by
  induction items generalizing s ts with
  | nil => exact ⟨s, rfl, by simp [writtenTexts]⟩
  | cons item items ih =>
      obtain ⟨t, ts', hprinted, hts, rfl⟩ := texts_cons h
      obtain ⟨buffer, hturn⟩ := format_item (items.flatMap Item.bytes ++ fmt) hprinted
      obtain ⟨s', hrun, htext⟩ := ih (s := ⟨s.text ++ written s.type64bit item s.ap,
        item.rest s.ap, flagAfter s.type64bit item, buffer⟩) hts
      refine ⟨s', ?_, ?_⟩
      · rw [List.flatMap_cons, List.append_assoc, hturn, hrun]
      · rw [htext, writtenTexts, List.flatten_cons, List.append_assoc]

section Calls

variable {items : List Item} {ap : List Arg} {ts : List Text}

theorem kinguioVsprintf_items (h : texts items ap = some ts) (buffer : Buffer) :
    ∃ p, kinguioVsprintf (Format.mk items false).bytes ap buffer = .ok p ∧
      p.text = (writtenTexts false items ap).flatten := by
  obtain ⟨s, hrun, htext⟩ := format_items (s := ⟨[], ap, false, buffer⟩) [0] h
  have hbytes : (Format.mk items false).bytes ++ [0] = items.flatMap Item.bytes ++ [0] := by
    simp [Format.bytes]
  have hend : format [0] s = .ok s := by
    rw [format.eq_def]
    simp
  rw [kinguioVsprintf, hbytes, hrun, hend]
  exact ⟨_, rfl, by simpa using htext⟩

theorem kinguioVsprintf_lone (h : texts items ap = some ts) (buffer : Buffer) :
    kinguioVsprintf (Format.mk items true).bytes ap buffer = .error .format := by
  obtain ⟨s, hrun, _⟩ := format_items (s := ⟨[], ap, false, buffer⟩) (directive false 0) h
  have hbytes : (Format.mk items true).bytes ++ [0] =
      items.flatMap Item.bytes ++ directive false 0 := by
    simp [Format.bytes, directive]
  have hend : format (directive false 0) s = .error .format := by
    have hturn := format_directive false (c := 0) (by decide) [] s
    rw [List.append_nil] at hturn
    rw [hturn]
    simp [convert, format]
  rw [kinguioVsprintf, hbytes, hrun, hend]

theorem texts_take (h : texts items ap = some ts) (k : Nat) :
    texts (items.take k) ap = some (ts.take k) := by
  induction items generalizing ap ts k with
  | nil =>
      obtain rfl := Option.some.inj h
      simp [texts]
  | cons item items ih =>
      obtain ⟨t, ts', hprinted, hts, rfl⟩ := texts_cons h
      cases k with
      | zero => simp [texts]
      | succ k => simp [texts, hprinted, ih hts k]

theorem writtenTexts_take (flag : Bool) (k : Nat) :
    writtenTexts flag (items.take k) ap = (writtenTexts flag items ap).take k := by
  induction items generalizing flag ap k with
  | nil => simp [writtenTexts]
  | cons item items ih =>
      cases k with
      | zero => simp [writtenTexts]
      | succ k => simp [writtenTexts, ih]

end Calls

theorem flatten_take_iff {α : Type*} {xs ys : List (List α)} (h : xs.length = ys.length) :
    (∀ k, (xs.take k).flatten = (ys.take k).flatten) ↔ xs = ys := by
  constructor
  · intro hparts
    induction xs generalizing ys with
    | nil => exact (List.length_eq_zero_iff.mp h.symm).symm
    | cons x xs ih =>
        cases ys with
        | nil => simp at h
        | cons y ys =>
            obtain rfl : x = y := by simpa using hparts 1
            congr 1
            apply ih (by simpa using h)
            intro k
            simpa using hparts (k + 1)
  · rintro rfl k
    rfl

theorem decDigit_inj (hx : x < 10) (hy : y < 10) : decDigit x = decDigit y ↔ x = y := by
  have htoNat : ∀ z < 10, (decDigit z).toNat = z + 48 := by
    intro z hz
    rw [decDigit, UInt8.toNat_ofNat', Nat.mod_eq_of_lt (by omega)]
  constructor
  · intro h
    have hnat := congrArg UInt8.toNat h
    rw [htoNat x hx, htoNat y hy] at hnat
    omega
  · rintro rfl
    rfl

theorem decDigit_ne_minus (hx : x < 10) : decDigit x ≠ minus := by
  interval_cases x <;> decide

theorem hexDigit_eq_lowerDigit (hx : x < 16) (hy : y < 16) :
    hexDigit x = lowerDigit y ↔ x = y ∧ y ≤ 9 := by
  interval_cases x <;> interval_cases y <;> decide

theorem hexDigit_inj (hx : x < 16) (hy : y < 16) : hexDigit x = hexDigit y ↔ x = y := by
  interval_cases x <;> interval_cases y <;> decide

theorem map_eq_map_iff {xs ys : List Nat} (h : ∀ x ∈ xs, ∀ y ∈ ys, f x = g y ↔ x = y ∧ P y) :
    xs.map f = ys.map g ↔ xs = ys ∧ ∀ y ∈ ys, P y := by
  induction xs generalizing ys with
  | nil =>
      cases ys with
      | nil => simp
      | cons y ys => simp
  | cons x xs ih =>
      cases ys with
      | nil => simp
      | cons y ys =>
          have hrest := ih fun a ha c hc =>
            h a (List.mem_cons_of_mem x ha) c (List.mem_cons_of_mem y hc)
          rw [List.map_cons, List.map_cons, List.cons.injEq, List.cons.injEq, hrest,
            h x List.mem_cons_self y List.mem_cons_self, List.forall_mem_cons]
          tauto

theorem map_numeral_iff {b : Nat} (hb : 1 < b) (h : ∀ x < b, ∀ y < b, f x = g y ↔ x = y ∧ P y) :
    (numeral b m).map f = (numeral b n).map g ↔ m = n ∧ ∀ x ∈ numeral b n, P x := by
  rw [map_eq_map_iff fun x hx y hy =>
    h x (lt_of_mem_numeral hb hx) y (lt_of_mem_numeral hb hy), numeral_inj]

theorem decimal_inj : decimal m = decimal n ↔ m = n := by
  have hdigits : ∀ x < 10, ∀ y < 10, decDigit x = decDigit y ↔ x = y ∧ True := by
    intro x hx y hy
    rw [decDigit_inj hx hy, and_true]
  rw [decimal, decimal, map_numeral_iff (by decide) hdigits]
  simp

theorem upperHex_inj : upperHex m = upperHex n ↔ m = n := by
  have hdigits : ∀ x < 16, ∀ y < 16, hexDigit x = hexDigit y ↔ x = y ∧ True := by
    intro x hx y hy
    rw [hexDigit_inj hx hy, and_true]
  rw [upperHex, upperHex, map_numeral_iff (by decide) hdigits]
  simp

theorem upperHex_eq_lowerHex : upperHex m = lowerHex n ↔ m = n ∧ ∀ x ∈ numeral 16 n, x ≤ 9 :=
  map_numeral_iff (by decide) fun _ hx _ hy => hexDigit_eq_lowerDigit hx hy

theorem minus_cons_ne_decimal (t : Text) (n : Nat) : minus :: t ≠ decimal n := by
  intro h
  have hmem : minus ∈ decimal n := h ▸ List.mem_cons_self
  obtain ⟨x, hx, hminus⟩ := List.mem_map.mp hmem
  exact decDigit_ne_minus (lt_of_mem_numeral (by decide) hx) hminus

theorem signed_eq_decimal : signed z = decimal n ↔ z = n := by
  rw [signed]
  split
  · constructor
    · intro h
      exact absurd h (minus_cons_ne_decimal _ n)
    · omega
  · rw [decimal_inj]
    omega

theorem signed_inj {y : Int} : signed y = signed z ↔ y = z := by
  by_cases hz : z < 0
  · by_cases hy : y < 0
    · rw [signed, signed, if_pos hy, if_pos hz, List.cons.injEq, decimal_inj]
      simp only [true_and]
      omega
    · rw [signed, signed, if_neg hy, if_pos hz]
      constructor
      · intro h
        exact absurd h.symm (minus_cons_ne_decimal _ _)
      · rintro rfl
        exact absurd hz hy
  · have hdecimal : signed z = decimal z.natAbs := if_neg hz
    rw [hdecimal, signed_eq_decimal]
    omega

theorem asUnsigned_eq : asUnsigned w = w.toNat ↔ w.toNat < 2 ^ 32 := by
  rw [asUnsigned]
  omega

theorem asInt_eq_asUnsigned : asInt w = asUnsigned w ↔ asUnsigned w < 2 ^ 31 := by
  have hrange := asInt_range w
  have hlt : asUnsigned w < 2 ^ 32 := Nat.mod_lt _ (by decide)
  have hmod : asInt w = (asUnsigned w : Int).bmod (2 ^ 32) := by
    have hcast : ((asUnsigned w : Nat) : Int) = (w.toNat : Int) % ((2 ^ 32 : Nat) : Int) :=
      Int.natCast_mod _ _
    rw [hcast]
    exact (Int.emod_bmod _ _).symm
  constructor
  · intro h
    omega
  · intro h
    rw [hmod]
    apply Int.bmod_eq_of_le <;> omega

theorem asInt_eq_signedValue :
    asInt w = signedValue true w ↔ -2 ^ 31 ≤ signedValue true w ∧ signedValue true w < 2 ^ 31 := by
  have hrange := asInt_range w
  have hlow : asInt w = (signedValue true w).bmod (2 ^ 32) := by
    have hdvd : 2 ^ 32 ∣ 2 ^ 64 := Nat.pow_dvd_pow 2 (by omega)
    have hlong : signedValue true w = (w.toNat : Int).bmod (2 ^ 64) := if_pos rfl
    have hlow : asInt w = ((w.toNat : Int).bmod (2 ^ 64)).bmod (2 ^ 32) :=
      (Int.bmod_bmod_of_dvd hdvd).symm
    exact hlow.trans (congrArg (Int.bmod · (2 ^ 32)) hlong.symm)
  constructor
  · intro h
    rw [← h]
    exact hrange
  · intro h
    rw [hlow]
    apply Int.bmod_eq_of_le <;> omega

theorem writtenInteger_eq_iff (flag long : Bool) (w : UInt64) (conversion : Conversion) :
    writtenInteger (flag || long) w conversion = integerText long w conversion ↔
      IntegerFaithful flag long w conversion := by
  have hsigned : signed (asInt w) = signed (signedValue long w) ↔
      -2 ^ 31 ≤ signedValue long w ∧ signedValue long w < 2 ^ 31 := by
    rw [signed_inj]
    cases long with
    | true => exact asInt_eq_signedValue
    | false => simpa [signedValue] using asInt_range w
  have hunsigned : unsignedValue (flag || long) w = unsignedValue long w ↔
      (flag = true → long = false → w.toNat < 2 ^ 32) := by
    cases long with
    | true => simp
    | false =>
        cases flag with
        | false => simp
        | true =>
            rw [eq_comm]
            simpa [unsignedValue] using asUnsigned_eq
  cases conversion with
  | d => exact hsigned
  | i => exact hsigned
  | u =>
      cases long with
      | true => simp [writtenInteger, integerText, unsignedValue, IntegerFaithful]
      | false =>
          cases flag with
          | false =>
              simp only [writtenInteger, integerText, unsignedValue, IntegerFaithful,
                Bool.or_false, Bool.false_eq_true, if_false]
              rw [signed_eq_decimal, asInt_eq_asUnsigned]
          | true =>
              simp only [writtenInteger, integerText, unsignedValue, IntegerFaithful,
                Bool.or_false, Bool.false_eq_true, if_false, if_true]
              rw [decimal_inj, eq_comm, asUnsigned_eq]
  | x =>
      rw [writtenInteger, integerText, IntegerFaithful, upperHex_eq_lowerHex, hunsigned]
  | X => rw [writtenInteger, integerText, IntegerFaithful, upperHex_inj, hunsigned]

theorem takeWhile_wideBytes {s : List UInt32} (h : ∀ c ∈ wideText s, c < 128) :
    (s.flatMap wideBytes).takeWhile (· ≠ 0) =
      ((wideText s).map fun c => UInt8.ofNat c.toNat).take 1 := by
  cases s with
  | nil => rfl
  | cons c s =>
      by_cases hzero : c = 0
      · subst hzero
        simp [wideText, wideBytes]
      · have hmem : c ∈ wideText (c :: s) := by
          rw [wideText, List.takeWhile_cons_of_pos (by simpa using hzero)]
          exact List.mem_cons_self
        have hlt : c.toNat < 128 := UInt32.lt_iff_toNat_lt.mp (h c hmem)
        have hpos : c.toNat ≠ 0 := by
          intro hc
          exact hzero (UInt32.toNat_inj.mp hc)
        have hfirst : UInt8.ofNat c.toNat ≠ 0 := by
          intro hc
          have hnat := congrArg UInt8.toNat hc
          rw [UInt8.toNat_ofNat', Nat.mod_eq_of_lt (by omega)] at hnat
          exact hpos hnat
        have hsecond : UInt8.ofNat (c.toNat / 2 ^ 8) = 0 := by
          rw [Nat.div_eq_of_lt (by omega)]
          rfl
        have hbyte : c.toUInt8 ≠ 0 := by simpa using hfirst
        rw [List.flatMap_cons, wideBytes, hsecond]
        rw [wideText, List.takeWhile_cons_of_pos (by simpa using hzero)]
        simp [hbyte]

theorem written_eq_iff {flag : Bool} (h : printed item ap = some (t, ap')) :
    written flag item ap = t ↔ ItemFaithful flag item ap := by
  unfold printed at h
  split at h
  · obtain ⟨rfl, _⟩ := Prod.mk.inj (Option.some.inj h)
    simp [written, ItemFaithful]
  · rename_i long conversion w ap
    obtain ⟨rfl, _⟩ := Prod.mk.inj (Option.some.inj h)
    exact writtenInteger_eq_iff flag long w conversion
  · obtain ⟨rfl, _⟩ := Prod.mk.inj (Option.some.inj h)
    simp [written, ItemFaithful, List.takeWhile_cons]
  · split at h
    · obtain ⟨rfl, _⟩ := Prod.mk.inj (Option.some.inj h)
      simp [written, ItemFaithful]
    · cases h
  · obtain ⟨rfl, _⟩ := Prod.mk.inj (Option.some.inj h)
    simp [written, ItemFaithful]
  · split at h
    · rename_i hwide
      obtain ⟨rfl, _⟩ := Prod.mk.inj (Option.some.inj h)
      rw [written, ItemFaithful, takeWhile_wideBytes hwide, List.take_eq_self_iff, List.length_map]
    · cases h
  · obtain ⟨rfl, _⟩ := Prod.mk.inj (Option.some.inj h)
    simp [written, ItemFaithful]
  · cases h

theorem writtenTexts_eq_iff (flag : Bool) (h : texts items ap = some ts) :
    writtenTexts flag items ap = ts ↔ Faithful flag items ap := by
  induction items generalizing flag ap ts with
  | nil =>
      obtain rfl := Option.some.inj h
      simp [writtenTexts, Faithful]
  | cons item items ih =>
      obtain ⟨t, ts', hprinted, hts, rfl⟩ := texts_cons h
      rw [writtenTexts, Faithful, List.cons.injEq, written_eq_iff hprinted, ih _ hts]

theorem writtenTexts_length (flag : Bool) (h : texts items ap = some ts) :
    (writtenTexts flag items ap).length = ts.length := by
  induction items generalizing flag ap ts with
  | nil =>
      obtain rfl := Option.some.inj h
      rfl
  | cons item items ih =>
      obtain ⟨t, ts', hprinted, hts, rfl⟩ := texts_cons h
      rw [writtenTexts, List.length_cons, List.length_cons, ih _ hts]

theorem store_end (p : Printed) (mem : Memory) (str : Nat) :
    p.store mem str (str + p.text.length) = mem (str + p.text.length) :=
  blit_of_outside mem _ (.inr (le_refl _))

theorem items_iff (hargs : texts items ap = some ts) (buffer : Buffer) :
    (∀ k, ∃ p, kinguioVsprintf (Format.mk (items.take k) false).bytes ap buffer = .ok p ∧
      p.text = (ts.take k).flatten) ↔ Faithful false items ap := by
  rw [← writtenTexts_eq_iff false hargs, ← flatten_take_iff (writtenTexts_length false hargs)]
  apply forall_congr'
  intro k
  obtain ⟨p, hcall, htext⟩ := kinguioVsprintf_items (texts_take hargs k) buffer
  rw [writtenTexts_take] at htext
  rw [← htext]
  constructor
  · rintro ⟨q, hq, hqtext⟩
    rw [hcall] at hq
    rw [Except.ok.inj hq]
    exact hqtext
  · intro heq
    exact ⟨p, hcall, heq⟩

theorem terminated_iff (hargs : texts items ap = some ts) (hfaithful : Faithful false items ap)
    (buffer : Buffer) (mem : Memory) (str : Nat) :
    (∀ p, kinguioVsprintf (Format.mk items false).bytes ap buffer = .ok p →
      p.store mem str (str + p.text.length) = 0) ↔ mem (str + ts.flatten.length) = 0 := by
  obtain ⟨p, hcall, htext⟩ := kinguioVsprintf_items hargs buffer
  rw [(writtenTexts_eq_iff false hargs).mpr hfaithful] at htext
  constructor
  · intro h
    have hend := h p hcall
    rwa [store_end, htext] at hend
  · intro hzero q hq
    rw [hcall] at hq
    rwa [← Except.ok.inj hq, store_end, htext]

/-- The call prints what C defines exactly if no `%` stands at the end of the format, every item
is faithful, and the byte behind the text is zero already. -/
theorem prints_iff (mem : Memory) (str : Nat) (f : Format) (ap : List Arg) (buffer : Buffer)
    (ts : List Text) (hargs : texts f.items ap = some ts) :
    Prints mem str f ap buffer ts ↔
      f.lone = false ∧ Faithful false f.items ap ∧ mem (str + ts.flatten.length) = 0 := by
  obtain ⟨items, lone⟩ := f
  dsimp only at hargs ⊢
  cases lone with
  | true =>
      constructor
      · rintro ⟨⟨p, hp⟩, _, _⟩
        rw [kinguioVsprintf_lone hargs] at hp
        cases hp
      · rintro ⟨hlone, _⟩
        cases hlone
  | false =>
      constructor
      · rintro ⟨_, hitems, hterminated⟩
        have hfaithful := (items_iff hargs buffer).mp hitems
        exact ⟨rfl, hfaithful, (terminated_iff hargs hfaithful buffer mem str).mp hterminated⟩
      · rintro ⟨_, hfaithful, hzero⟩
        obtain ⟨p, hcall, _⟩ := kinguioVsprintf_items hargs buffer
        exact ⟨⟨p, hcall⟩, (items_iff hargs buffer).mpr hfaithful,
          (terminated_iff hargs hfaithful buffer mem str).mpr hzero⟩

def formatA : Format where
  items := [.integer false .d, .ordinary 32 (by decide), .integer true .u, .string false]
  lone := false

def argsA : List Arg := [.word 0xFFFFFFFE, .word 5000000000, .string (some [107, 66])]

theorem prints_iff_example :
    Prints (fun _ => 0) 0x1000 formatA argsA (fun _ => 0)
      [[45, 50], [32], [53, 48, 48, 48, 48, 48, 48, 48, 48, 48], [107, 66]] := by
  have hshort : ∀ w, IntegerFaithful false false w .d := by
    intro w
    simpa [IntegerFaithful, signedValue] using asInt_range w
  apply (prints_iff _ _ formatA argsA _ _ (by decide +kernel)).mpr
  exact ⟨rfl, ⟨hshort 0xFFFFFFFE, trivial, trivial, trivial, trivial⟩, rfl⟩

/-- `"%%"` prints two characters. -/
theorem percent_prints_twice :
    ¬ ∀ (mem : Memory) (str : Nat) (f : Format) (ap : List Arg) (buffer : Buffer)
      (ts : List Text), texts f.items ap = some ts → Prints mem str f ap buffer ts := by
  intro hclaim
  have hprints := hclaim (fun _ => 0) 0 ⟨[.percent], false⟩ [] (fun _ => 0) [[37]] rfl
  obtain ⟨p, hcall, htext⟩ := hprints.items 1
  have htwice : kinguioVsprintf (Format.mk [.percent] false).bytes [] (fun _ => 0) =
      .ok ⟨_, [37, 37]⟩ := rfl
  rw [List.take_of_length_le (by simp), htwice] at hcall
  rw [← Except.ok.inj hcall] at htext
  exact absurd htext (by decide)

end Gramado.Libk.Printf
