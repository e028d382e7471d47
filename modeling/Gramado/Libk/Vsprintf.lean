import Gramado.Libk.Digits

/-! `kinguio_vsprintf`: the loop over the format string. -/

namespace Gramado.Libk.Vsprintf

open Library.ByteMemory Libk.Digits
open Rtl.Strings (Text bytes)

def percent : UInt8 := 37

/-- An argument of the call: a value in its slot of 64 bits, a string, or a string of wide
characters. A null pointer to a string is `none`. -/
inductive Arg where
  | word (w : UInt64)
  | string (s : Option Text)
  | wide (s : List UInt32)

/-- Why the call does not return: it reads the format behind its null character, or an argument
that is not there or of another kind. -/
inductive Fault where
  | format
  | argument
  deriving DecidableEq

def vaArg : List Arg → Except Fault (UInt64 × List Arg)
  | .word w :: ap => .ok (w, ap)
  | _ => .error .argument

def wideBytes (c : UInt32) : Text :=
  [.ofNat c.toNat, .ofNat (c.toNat / 2 ^ 8), .ofNat (c.toNat / 2 ^ 16),
    .ofNat (c.toNat / 2 ^ 24)]

/-- `va_arg(ap, char*)`, and the memory that it points to. -/
def vaString : List Arg → Except Fault (Option Text × List Arg)
  | .string s :: ap => .ok (s, ap)
  | .wide s :: ap => .ok (some (s.flatMap wideBytes), ap)
  | _ => .error .argument

/-- The value of the slot as `int` and as `unsigned int`. -/
def asInt (w : UInt64) : Int := (w.toNat : Int).bmod (2 ^ 32)
def asUnsigned (w : UInt64) : Nat := w.toNat % 2 ^ 32

/-- The variables of the loop. `text` is what has been written from `str` to `str_tmp`. -/
structure State where
  text : Text
  ap : List Arg
  type64bit : Bool
  buffer : Buffer

def State.puts (s : State) (src : Text) : State :=
  { s with text := s.text ++ src.takeWhile (· ≠ 0) }

def State.putsBuffer (s : State) (ap : List Arg) (buffer : Buffer) : State :=
  { s with text := s.text ++ string buffer, ap := ap, buffer := buffer }

def printChar (s : State) : Except Fault State :=
  match vaArg s.ap with
  | .error e => .error e
  | .ok (w, ap) => .ok ({ s with ap := ap }.puts [.ofNat w.toNat, 0])

def printString (s : State) : Except Fault State :=
  match vaString s.ap with
  | .error e => .error e
  | .ok (some src, ap) => .ok ({ s with ap := ap }.puts src)
  | .ok (none, ap) => .ok ({ s with ap := ap }.puts (bytes "(null)"))

def printInt (s : State) : Except Fault State :=
  match vaArg s.ap with
  | .error e => .error e
  | .ok (w, ap) => .ok (s.putsBuffer ap (kinguioItoa (asInt w) s.buffer))

def printUnsigned (s : State) : Except Fault State :=
  match vaArg s.ap with
  | .error e => .error e
  | .ok (w, ap) =>
      if s.type64bit = true then
        .ok { s.putsBuffer ap (kinguioUtoa w.toNat s.buffer 10) with type64bit := false }
      else .ok (s.putsBuffer ap (kinguioItoa (asInt w) s.buffer))

def printHex (s : State) : Except Fault State :=
  match vaArg s.ap with
  | .error e => .error e
  | .ok (w, ap) =>
      if s.type64bit = true then
        .ok { s.putsBuffer ap (kinguioUtoa w.toNat s.buffer 16) with type64bit := false }
      else .ok (s.putsBuffer ap (kinguioI2hex (asUnsigned w) 8 s.buffer))

def printPointer (s : State) : Except Fault State :=
  match vaArg s.ap with
  | .error e => .error e
  | .ok (w, ap) => .ok ((s.puts (bytes "0x")).putsBuffer ap (kinguioUtoa w.toNat s.buffer 16))

/-- The inner `switch`. Any other character, the null character among them, prints `"%%"`. -/
def convert (c : UInt8) (s : State) : Except Fault State :=
  if c = 99 then printChar s
  else if c = 115 ∨ c = 83 then printString s
  else if c = 100 ∨ c = 105 then printInt s
  else if c = 117 then printUnsigned s
  else if c = 88 ∨ c = 120 then printHex s
  else if c = 112 then printPointer s
  else .ok (s.puts [percent, percent])

def format : Text → State → Except Fault State
  | [], _ => .error .format
  | c :: fmt, s =>
      if c = 0 then .ok s
      else if c = percent then
        match fmt with
        | [] => .error .format
        | c :: fmt =>
            if c = 108 then
              match fmt with
              | [] => .error .format
              | c :: fmt =>
                  match convert c { s with type64bit := true } with
                  | .error e => .error e
                  | .ok s => format fmt s
            else
              match convert c s with
              | .error e => .error e
              | .ok s => format fmt s
      else format fmt (s.puts [c, 0])

/-- The result of a call, and what it has written from `str` on. It writes nothing else. -/
structure Printed where
  result : Int
  text : Text

def kinguioVsprintf (fmt : Text) (ap : List Arg) (buffer : Buffer) : Except Fault Printed :=
  match format (fmt ++ [0]) ⟨[], ap, false, buffer⟩ with
  | .error e => .error e
  | .ok s => .ok ⟨(s.text.length : Int).bmod (2 ^ 32), s.text⟩

def Printed.store (p : Printed) (mem : Memory) (str : Nat) : Memory :=
  blit mem str p.text.length fun i => p.text.getD i 0

end Gramado.Libk.Vsprintf
