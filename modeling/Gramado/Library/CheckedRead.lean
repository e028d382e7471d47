import Mathlib.Data.List.Basic
import Mathlib.Data.List.TakeWhile

/-! Reads of a buffer that check its end, and when a computation that reads returns. -/

namespace Gramado.Library.CheckedRead

inductive Fault where
  | outside
  | panic (message : String)
  deriving DecidableEq, Repr

def Returns {ε α : Type} (x : Except ε α) (P : α → Prop) : Prop :=
  ∃ a, x = .ok a ∧ P a

section Rules

variable {ε α β : Type} {P Q : α → Prop}

@[simp] theorem returns_ok (a : α) : Returns (.ok a : Except ε α) P ↔ P a := by
  simp [Returns]

@[simp] theorem returns_pure (a : α) : Returns (pure a : Except ε α) P ↔ P a := returns_ok a

@[simp] theorem returns_error (e : ε) : Returns (.error e : Except ε α) P ↔ False := by
  simp [Returns]

@[simp] theorem returns_bind (x : Except ε α) (f : α → Except ε β) (P : β → Prop) :
    Returns (x >>= f) P ↔ Returns x fun a => Returns (f a) P := by
  cases x with
  | error e =>
      change Returns (.error e) P ↔ _
      simp
  | ok a =>
      change Returns (f a) P ↔ _
      simp

@[simp] theorem returns_ite (c : Prop) [Decidable c] (x y : Except ε α) :
    Returns (if c then x else y) P ↔ (c → Returns x P) ∧ (¬ c → Returns y P) := by
  split <;> simp [*]

theorem ok_bind (a : α) (f : α → Except ε β) : (.ok a : Except ε α) >>= f = f a := rfl

theorem Returns.mono {x : Except ε α} (h : Returns x P) (hsub : ∀ a, P a → Q a) : Returns x Q := by
  obtain ⟨a, hx, ha⟩ := h
  exact ⟨a, hx, hsub a ha⟩

def Ensures {ε α : Type} (x : Except ε α) (P : α → Prop) : Prop :=
  ∀ a, x = .ok a → P a

theorem ensures_ok {a : α} (h : P a) : Ensures (.ok a : Except ε α) P := by
  rintro _ ⟨⟩
  exact h

theorem ensures_error (e : ε) : Ensures (.error e : Except ε α) P := by
  rintro _ ⟨⟩

theorem Ensures.bind {x : Except ε α} {f : α → Except ε β} {P : β → Prop}
    (hx : Ensures x Q) (hf : ∀ a, Q a → Ensures (f a) P) : Ensures (x >>= f) P := by
  cases x with
  | error e => exact ensures_error e
  | ok a => exact hf a (hx a rfl)

theorem ensures_ite {c : Prop} [Decidable c] {x y : Except ε α} (hx : c → Ensures x P)
    (hy : ¬ c → Ensures y P) : Ensures (if c then x else y) P := by
  split
  · exact hx ‹c›
  · exact hy ‹¬ c›

theorem Ensures.mono {x : Except ε α} (h : Ensures x P) (hsub : ∀ a, P a → Q a) : Ensures x Q :=
  fun a ha => hsub a (h a ha)

theorem returns_and (x : Except ε α) (p : Prop) :
    Returns x (fun a => p ∧ P a) ↔ p ∧ Returns x P := by
  simp only [Returns]
  constructor
  · rintro ⟨a, hx, hp, ha⟩
    exact ⟨hp, a, hx, ha⟩
  · rintro ⟨hp, a, hx, ha⟩
    exact ⟨a, hx, hp, ha⟩

end Rules

abbrev Buffer := List UInt8

def byte (buffer : Buffer) (i : Nat) : UInt8 :=
  buffer.getD i 0

def half (buffer : Buffer) (i : Nat) : UInt16 :=
  .ofNat ((byte buffer i).toNat + 256 * (byte buffer (i + 1)).toNat)

def word (buffer : Buffer) (i : Nat) : UInt32 :=
  .ofNat ((half buffer i).toNat + 65536 * (half buffer (i + 2)).toNat)

def slice (buffer : Buffer) (i n : Nat) : List UInt8 :=
  (buffer.drop i).take n

def inside {α : Type} (buffer : Buffer) (i n : Nat) (value : α) : Except Fault α :=
  if i + n ≤ buffer.length then .ok value else .error .outside

def readByte (buffer : Buffer) (i : Nat) : Except Fault UInt8 :=
  inside buffer i 1 (byte buffer i)

def readHalf (buffer : Buffer) (i : Nat) : Except Fault UInt16 :=
  inside buffer i 2 (half buffer i)

def readWord (buffer : Buffer) (i : Nat) : Except Fault UInt32 :=
  inside buffer i 4 (word buffer i)

def readBytes (buffer : Buffer) (i n : Nat) : Except Fault (List UInt8) :=
  inside buffer i n (slice buffer i n)

def readArray (n : Nat) (buffer : Buffer) (i : Nat) : Except Fault (Fin n → UInt8) :=
  inside buffer i n fun k => byte buffer (i + k)

section Reads

variable {α : Type} (buffer : Buffer) (i n : Nat)

@[simp] theorem returns_inside (value : α) (P : α → Prop) :
    Returns (inside buffer i n value) P ↔ i + n ≤ buffer.length ∧ P value := by
  unfold inside
  split <;> simp [*]

@[simp] theorem returns_readByte (P : UInt8 → Prop) :
    Returns (readByte buffer i) P ↔ i + 1 ≤ buffer.length ∧ P (byte buffer i) :=
  returns_inside buffer i 1 _ P

@[simp] theorem returns_readHalf (P : UInt16 → Prop) :
    Returns (readHalf buffer i) P ↔ i + 2 ≤ buffer.length ∧ P (half buffer i) :=
  returns_inside buffer i 2 _ P

@[simp] theorem returns_readWord (P : UInt32 → Prop) :
    Returns (readWord buffer i) P ↔ i + 4 ≤ buffer.length ∧ P (word buffer i) :=
  returns_inside buffer i 4 _ P

@[simp] theorem returns_readBytes (P : List UInt8 → Prop) :
    Returns (readBytes buffer i n) P ↔ i + n ≤ buffer.length ∧ P (slice buffer i n) :=
  returns_inside buffer i n _ P

@[simp] theorem returns_readArray (P : (Fin n → UInt8) → Prop) : Returns (readArray n buffer i) P ↔
      i + n ≤ buffer.length ∧ P fun k => byte buffer (i + k) :=
  returns_inside buffer i n _ P

end Reads

def strlen : List UInt8 → Except Fault Nat
  | [] => .error .outside
  | b :: rest =>
      if b = 0 then .ok 0
      else do
        let n ← strlen rest
        return n + 1

def strncpy : List UInt8 → Nat → Except Fault (List UInt8)
  | _, 0 => .ok []
  | [], _ + 1 => .error .outside
  | b :: rest, n + 1 =>
      if b = 0 then .ok (List.replicate (n + 1) 0)
      else do
        let copy ← strncpy rest n
        return b :: copy

def text (bytes : List UInt8) : List UInt8 :=
  bytes.takeWhile (· ≠ 0)

theorem zero_notMem_text (bytes : List UInt8) : 0 ∉ text bytes := by
  intro h
  simpa using List.mem_takeWhile_imp h

theorem text_append {bytes : List UInt8} (h : 0 ∉ bytes) (rest : List UInt8) :
    text (bytes ++ rest) = bytes ++ text rest := by
  induction bytes with
  | nil => rfl
  | cons b bytes ih =>
      rw [List.mem_cons, not_or] at h
      have hb : b ≠ 0 := fun hb => h.1 hb.symm
      have hrest := ih h.2
      rw [text] at hrest ⊢
      rw [List.cons_append, List.takeWhile_cons_of_pos (by simpa using hb), hrest,
        List.cons_append, text]

theorem text_zero (rest : List UInt8) : text (0 :: rest) = [] := by
  rw [text, List.takeWhile_cons_of_neg (by simp)]

theorem eq_text_append {bytes : List UInt8} (h : 0 ∈ bytes) :
    ∃ rest, bytes = text bytes ++ 0 :: rest := by
  obtain ⟨before, rest, rfl, hbefore⟩ := List.eq_append_cons_of_mem h
  refine ⟨rest, ?_⟩
  rw [text_append hbefore, text_zero, List.append_nil]

theorem strlen_append {bytes : List UInt8} (h : 0 ∉ bytes) (rest : List UInt8) :
    strlen (bytes ++ 0 :: rest) = .ok bytes.length := by
  induction bytes with
  | nil => rfl
  | cons b bytes ih =>
      rw [List.mem_cons, not_or] at h
      have hb : b ≠ 0 := fun hb => h.1 hb.symm
      rw [List.cons_append, strlen, if_neg hb, ih h.2]
      rfl

theorem strlen_outside {bytes : List UInt8} (h : 0 ∉ bytes) : strlen bytes = .error .outside := by
  induction bytes with
  | nil => rfl
  | cons b bytes ih =>
      rw [List.mem_cons, not_or] at h
      have hb : b ≠ 0 := fun hb => h.1 hb.symm
      rw [strlen, if_neg hb, ih h.2]
      rfl

@[simp] theorem returns_strlen (bytes : List UInt8) (P : Nat → Prop) :
    Returns (strlen bytes) P ↔ 0 ∈ bytes ∧ P (text bytes).length := by
  by_cases h : 0 ∈ bytes
  · obtain ⟨rest, hbytes⟩ := eq_text_append h
    have hlen : strlen bytes = .ok (text bytes).length := by
      rw [hbytes, strlen_append (zero_notMem_text bytes), ← hbytes]
    simp [hlen, h]
  · simp [strlen_outside h, h]

/-- The bytes behind `bytes` are zero, so many that there are `n`. -/
def pad (n : Nat) (bytes : List UInt8) : List UInt8 :=
  bytes ++ List.replicate (n - bytes.length) 0

theorem pad_length_self (bytes : List UInt8) : pad bytes.length bytes = bytes := by
  rw [pad, Nat.sub_self, List.replicate_zero, List.append_nil]

@[simp] theorem returns_strncpy (bytes : List UInt8) (n : Nat) (P : List UInt8 → Prop) :
    Returns (strncpy bytes n) P ↔
      (0 ∈ bytes ∨ n ≤ bytes.length) ∧ P (pad n ((text bytes).take n)) := by
  induction bytes, n using strncpy.induct generalizing P with
  | case1 bytes => simp [strncpy, pad]
  | case2 n => simp [strncpy]
  | case3 n rest => simp [strncpy, pad, text_zero]
  | case4 b rest n hb ih =>
      have htext : text (b :: rest) = b :: text rest := by
        rw [text, List.takeWhile_cons_of_pos (by simpa using hb), text]
      have hpad : pad (n + 1) ((text (b :: rest)).take (n + 1)) =
          b :: pad n ((text rest).take n) := by
        rw [htext, List.take_succ_cons, pad, List.length_cons, Nat.add_sub_add_right,
          List.cons_append, pad]
      rw [strncpy, if_neg hb, returns_bind, ih, hpad]
      simp [Ne.symm hb]

end Gramado.Library.CheckedRead
