import Gramado.Libk.Printf

/-! `kinguio_vsprintf` of the user library. It converts numbers as the one of the kernel does, in a
smaller buffer, and has no `%p`. -/

namespace Gramado.Rtl.Vsprintf

open Library.ByteMemory
open Libk.Digits hiding BUFFER_SIZE string string_eq
open Libk.Vsprintf hiding convert format printInt printUnsigned printHex kinguioVsprintf
open Libk.Printf hiding Prints
open Rtl.Strings (Text)

def BUFFER_SIZE : Nat := 256

def string (dest : Buffer) : Text :=
  ((List.range BUFFER_SIZE).map dest).takeWhile (· ≠ 0)

def putsBuffer (s : State) (ap : List Arg) (buffer : Buffer) : State :=
  { s with text := s.text ++ string buffer, ap := ap, buffer := buffer }

def printInt (s : State) : Except Fault State :=
  match vaArg s.ap with
  | .error e => .error e
  | .ok (w, ap) => .ok (putsBuffer s ap (kinguioItoa (asInt w) s.buffer))

def printUnsigned (s : State) : Except Fault State :=
  match vaArg s.ap with
  | .error e => .error e
  | .ok (w, ap) =>
      if s.type64bit = true then
        .ok { putsBuffer s ap (kinguioUtoa w.toNat s.buffer 10) with type64bit := false }
      else .ok (putsBuffer s ap (kinguioItoa (asInt w) s.buffer))

def printHex (s : State) : Except Fault State :=
  match vaArg s.ap with
  | .error e => .error e
  | .ok (w, ap) =>
      if s.type64bit = true then
        .ok { putsBuffer s ap (kinguioUtoa w.toNat s.buffer 16) with type64bit := false }
      else .ok (putsBuffer s ap (kinguioI2hex (asUnsigned w) 8 s.buffer))

/-- The inner `switch`. Any other character, the null character among them, prints `"%%"`. -/
def convert (c : UInt8) (s : State) : Except Fault State :=
  if c = 99 then printChar s
  else if c = 115 ∨ c = 83 then printString s
  else if c = 100 ∨ c = 105 then printInt s
  else if c = 117 then printUnsigned s
  else if c = 88 ∨ c = 120 then printHex s
  else .ok (s.puts [percent, percent])

def format : Text → State → Except Fault State
  | [], _ => .error .format
  | c :: fmt, s =>
      if c = 0 then .ok s
      else if c = percent then
        match fmt with
        | [] => .error .format
        | c :: fmt =>
            if c = 108 then
              match fmt with
              | [] => .error .format
              | c :: fmt =>
                  match convert c { s with type64bit := true } with
                  | .error e => .error e
                  | .ok s => format fmt s
            else
              match convert c s with
              | .error e => .error e
              | .ok s => format fmt s
      else format fmt (s.puts [c, 0])

def kinguioVsprintf (fmt : Text) (ap : List Arg) : Except Fault Printed :=
  match format (fmt ++ [0]) ⟨[], ap, false, fun _ => 0⟩ with
  | .error e => .error e
  | .ok s => .ok ⟨(s.text.length : Int).bmod (2 ^ 32), s.text⟩

/-- The call does what C defines: it stops at the end of the format, it prints the text of every
item behind the texts of the ones in front of it, and a null character stands behind the whole. -/
structure Prints (mem : Memory) (str : Nat) (f : Format) (ap : List Arg) (ts : List Text) :
    Prop where
  stops : ∃ p, kinguioVsprintf f.bytes ap = .ok p
  items : ∀ k, ∃ p, kinguioVsprintf (Format.mk (f.items.take k) false).bytes ap = .ok p ∧
    p.text = (ts.take k).flatten
  terminated : ∀ p, kinguioVsprintf f.bytes ap = .ok p →
    p.store mem str (str + p.text.length) = 0

variable {c : UInt8} {fmt : Text}

theorem string_of_short {dest : Buffer}
    (h : (Libk.Digits.string dest).length < BUFFER_SIZE) :
    string dest = Libk.Digits.string dest := by
  have hsplit : Libk.Digits.BUFFER_SIZE = BUFFER_SIZE + (Libk.Digits.BUFFER_SIZE - BUFFER_SIZE) :=
    rfl
  rw [Libk.Digits.string, hsplit, List.range_add, List.map_append, List.takeWhile_append] at h ⊢
  split_ifs at h ⊢ with hfull
  · rw [List.length_append, List.length_map, List.length_range] at h
    omega
  · rfl

theorem decimal_short (w : UInt64) : (decimal w.toNat).length ≤ 20 := by
  have hlt := w.toNat_lt
  exact decimal_length_le (by omega)

theorem upperHex_short {n : Nat} (h : n < 16 ^ 16) : (upperHex n).length ≤ 16 := by
  rw [upperHex, List.length_map]
  exact numeral_length_le (by decide) (by decide) h

theorem signed_short (w : UInt64) : (signed (asInt w)).length ≤ 21 := by
  have hrange := asInt_range w
  have hlength : (decimal (asInt w).natAbs).length ≤ 20 := decimal_length_le (by omega)
  rw [signed]
  split_ifs
  · rw [List.length_cons]
    omega
  · omega

@[simp] theorem string_itoa (w : UInt64) (buffer : Buffer) :
    string (kinguioItoa (asInt w) buffer) = signed (asInt w) := by
  have hshort := signed_short w
  rw [string_of_short, string_itoa_asInt]
  rw [string_itoa_asInt, BUFFER_SIZE]
  omega

@[simp] theorem string_utoa_ten (w : UInt64) (buffer : Buffer) :
    string (kinguioUtoa w.toNat buffer 10) = decimal w.toNat := by
  have hshort := decimal_short w
  rw [string_of_short, Libk.Printf.string_utoa_ten]
  rw [Libk.Printf.string_utoa_ten, BUFFER_SIZE]
  omega

@[simp] theorem string_utoa_sixteen (w : UInt64) (buffer : Buffer) :
    string (kinguioUtoa w.toNat buffer 16) = upperHex w.toNat := by
  have hshort := upperHex_short (n := w.toNat) w.toNat_lt
  rw [string_of_short, Libk.Printf.string_utoa_sixteen]
  rw [Libk.Printf.string_utoa_sixteen, BUFFER_SIZE]
  omega

@[simp] theorem string_i2hex (w : UInt64) (buffer : Buffer) :
    string (kinguioI2hex (asUnsigned w) 8 buffer) = upperHex (asUnsigned w) := by
  have hlt := asUnsigned_lt w
  have hshort := upperHex_short (n := asUnsigned w) (by omega)
  rw [string_of_short, string_i2hex_asUnsigned]
  rw [string_i2hex_asUnsigned, BUFFER_SIZE]
  omega

theorem printInt_eq (s : State) : printInt s = Libk.Vsprintf.printInt s := by
  unfold printInt Libk.Vsprintf.printInt
  cases vaArg s.ap with
  | error e => rfl
  | ok arg => simp [putsBuffer, State.putsBuffer]

theorem printUnsigned_eq (s : State) : printUnsigned s = Libk.Vsprintf.printUnsigned s := by
  unfold printUnsigned Libk.Vsprintf.printUnsigned
  cases vaArg s.ap with
  | error e => rfl
  | ok arg => simp [putsBuffer, State.putsBuffer]

theorem printHex_eq (s : State) : printHex s = Libk.Vsprintf.printHex s := by
  unfold printHex Libk.Vsprintf.printHex
  cases vaArg s.ap with
  | error e => rfl
  | ok arg => simp [putsBuffer, State.putsBuffer]

theorem convert_eq (hc : c ≠ 112) (s : State) : convert c s = Libk.Vsprintf.convert c s := by
  rw [convert, Libk.Vsprintf.convert, printInt_eq, printUnsigned_eq, printHex_eq, if_neg hc]

theorem format_directive (long : Bool) (hc : c ≠ 108) (fmt : Text) (s : State) :
    format (directive long c ++ fmt) s =
      match convert c { s with type64bit := s.type64bit || long } with
      | .error e => .error e
      | .ok s => format fmt s := by
  have hpercent : ¬ percent = 0 := by decide
  cases long with
  | true =>
      change format (percent :: 108 :: c :: fmt) s = _
      rw [format.eq_def]
      simp [hpercent]
  | false =>
      change format (percent :: c :: fmt) s = _
      rw [format.eq_def]
      simp [hpercent, hc]

theorem format_directive_eq (long : Bool) (hl : c ≠ 108) (hp : c ≠ 112)
    (h : ∀ s, format fmt s = Libk.Vsprintf.format fmt s) (s : State) :
    format (directive long c ++ fmt) s = Libk.Vsprintf.format (directive long c ++ fmt) s := by
  rw [format_directive long hl, Libk.Printf.format_directive long hl, convert_eq hp]
  generalize Libk.Vsprintf.convert c { s with type64bit := s.type64bit || long } = outcome
  cases outcome with
  | error e => rfl
  | ok s => exact h s

theorem format_ordinary_eq (h : ∀ s, format fmt s = Libk.Vsprintf.format fmt s) (hc : c ≠ percent)
    (s : State) :
    format (c :: fmt) s = Libk.Vsprintf.format (c :: fmt) s := by
  rw [format.eq_def, Libk.Vsprintf.format.eq_def]
  dsimp only
  rw [if_neg hc, if_neg hc, h]

theorem format_item_eq (item : Item) (h : ∀ s, format fmt s = Libk.Vsprintf.format fmt s)
    (s : State) :
    format (item.bytes ++ fmt) s = Libk.Vsprintf.format (item.bytes ++ fmt) s := by
  cases item with
  | ordinary c hc => exact format_ordinary_eq h hc.2 s
  | integer long conversion =>
      apply format_directive_eq long _ _ h
      · cases conversion <;> decide
      · cases conversion <;> decide
  | character long => exact format_directive_eq long (by decide) (by decide) h s
  | string long => exact format_directive_eq long (by decide) (by decide) h s
  | percent => exact format_directive_eq false (by decide) (by decide) h s

theorem format_items_eq (items : List Item) (h : ∀ s, format fmt s = Libk.Vsprintf.format fmt s)
    (s : State) :
    format (items.flatMap Item.bytes ++ fmt) s =
      Libk.Vsprintf.format (items.flatMap Item.bytes ++ fmt) s := by
  induction items generalizing s with
  | nil => exact h s
  | cons item items ih =>
      rw [List.flatMap_cons, List.append_assoc]
      exact format_item_eq item ih s

theorem format_end_eq (s : State) : format [0] s = Libk.Vsprintf.format [0] s := by
  rw [format.eq_def, Libk.Vsprintf.format.eq_def]
  simp

theorem format_nil_eq (s : State) : format [] s = Libk.Vsprintf.format [] s := by
  rw [format, Libk.Vsprintf.format]

theorem kinguioVsprintf_eq (f : Format) (ap : List Arg) :
    kinguioVsprintf f.bytes ap = Libk.Vsprintf.kinguioVsprintf f.bytes ap fun _ => 0 := by
  obtain ⟨items, lone⟩ := f
  have hloop (s : State) : format ((Format.mk items lone).bytes ++ [0]) s =
      Libk.Vsprintf.format ((Format.mk items lone).bytes ++ [0]) s := by
    cases lone with
    | true =>
        have hbytes : (Format.mk items true).bytes ++ [0] =
            items.flatMap Item.bytes ++ (directive false 0 ++ []) := by
          simp [Format.bytes, directive]
        rw [hbytes]
        exact format_items_eq items (format_directive_eq false (by decide) (by decide)
          format_nil_eq) s
    | false =>
        have hbytes : (Format.mk items false).bytes ++ [0] = items.flatMap Item.bytes ++ [0] := by
          simp [Format.bytes]
        rw [hbytes]
        exact format_items_eq items format_end_eq s
  rw [kinguioVsprintf, Libk.Vsprintf.kinguioVsprintf, hloop] <;> rfl

/-- The call prints what C defines exactly if no `%` stands at the end of the format, every item
is faithful, and the byte behind the text is zero already. -/
theorem user_prints_iff (mem : Memory) (str : Nat) (f : Format) (ap : List Arg) (ts : List Text)
    (hargs : texts f.items ap = some ts) :
    Prints mem str f ap ts ↔
      f.lone = false ∧ Faithful false f.items ap ∧ mem (str + ts.flatten.length) = 0 := by
  obtain ⟨items, lone⟩ := f
  dsimp only at hargs ⊢
  have hitems := items_iff hargs fun _ => 0
  cases lone with
  | true =>
      constructor
      · rintro ⟨⟨p, hp⟩, _, _⟩
        rw [kinguioVsprintf_eq, kinguioVsprintf_lone hargs] at hp
        cases hp
      · rintro ⟨hlone, _⟩
        cases hlone
  | false =>
      constructor
      · rintro ⟨_, hparts, hterminated⟩
        simp only [kinguioVsprintf_eq] at hparts hterminated
        have hfaithful := hitems.mp hparts
        exact ⟨rfl, hfaithful, (terminated_iff hargs hfaithful _ mem str).mp hterminated⟩
      · rintro ⟨_, hfaithful, hzero⟩
        obtain ⟨p, hcall, _⟩ := kinguioVsprintf_items hargs fun _ => 0
        refine ⟨⟨p, (kinguioVsprintf_eq _ ap).trans hcall⟩, ?_, ?_⟩
        · simp only [kinguioVsprintf_eq]
          exact hitems.mpr hfaithful
        · simp only [kinguioVsprintf_eq]
          exact (terminated_iff hargs hfaithful _ mem str).mpr hzero

def hexAndString : Format where
  items := [.integer false .X, .ordinary 58 (by decide), .string false]
  lone := false

theorem user_prints_hexAndString :
    Prints (fun _ => 0) 0x1000 hexAndString [.word 0x1F, .string (some [107, 66])]
      [[49, 70], [58], [107, 66]] := by
  apply (user_prints_iff _ _ hexAndString _ _ (by decide +kernel)).mpr
  have hlong : IntegerFaithful false false 0x1F .X := by simp [IntegerFaithful]
  exact ⟨rfl, ⟨hlong, trivial, trivial, trivial⟩, rfl⟩

/-- `"%u"` of 3000000000 prints a negative number. -/
theorem large_unsigned_printed_negative :
    ¬ ∀ (mem : Memory) (str : Nat) (f : Format) (ap : List Arg) (ts : List Text),
      texts f.items ap = some ts → Prints mem str f ap ts := by
  intro hclaim
  have hargs : texts [.integer false .u] [.word 3000000000] =
      some [decimal (asUnsigned 3000000000)] := rfl
  have hprints := hclaim (fun _ => 0) 0 ⟨[.integer false .u], false⟩ [.word 3000000000] _ hargs
  have hitems := hprints.items
  simp only [kinguioVsprintf_eq] at hitems
  have hfaithful := ((items_iff hargs _).mp hitems).1
  have hlarge : ¬ asUnsigned 3000000000 < 2 ^ 31 := by decide
  exact hlarge (by simpa [ItemFaithful, IntegerFaithful] using hfaithful)

end Gramado.Rtl.Vsprintf
