import Mathlib.Tactic.Common

/-! The open file object `struct file_d`, its buffer and its synchronization flags. -/

namespace Gramado.Io.FileObject

/-- The object types that the modelled routines tell apart. -/
inductive ObjectType where
  | null
  | directory
  | file
  | pipe
  | tty
  | virtualConsole
  | socket
  | ioBuffer
  deriving DecidableEq, Repr

def EOF : Int := -1
def EBADF : Int := 9
def EINVAL : Int := 22
def ENOTSOCK : Int := 88
def BUFSIZ : Nat := 1024
def OPEN_MAX : Int := 32

def SRD : BitVec 16 := 0x0004#16
def SWR : BitVec 16 := 0x0008#16

structure PipeInfo where
  base : Nat → UInt8
  bufferSize : Nat
  counter : Int
  readPos : Nat
  writePos : Nat

structure Sync where
  action : Int
  canRead : Bool
  canWrite : Bool
  canAccept : Bool
  canConnect : Bool
  blockOnWrite : Bool
  blockOnWriteFull : Bool
  blockOnReadEmpty : Bool
  deriving DecidableEq, Repr

/-- `struct file_d`. The pointers `_base` and `_p` are addresses, zero being `NULL`, and
`buf` is the memory around `_base`, by the offset from it. -/
structure File where
  used : Bool
  magic : Int
  file : Int
  object : ObjectType
  socket : Option Nat
  socketBufferFull : Bool
  base : Int
  buf : Int → UInt8
  p : Int
  r : Int
  w : Int
  lbfsize : Int
  fsize : Int
  cnt : Int
  flags : BitVec 16
  sync : Sync
  tidWaiting : Int
  pipeInfo : Option PipeInfo

def File.Valid (f : File) : Prop :=
  f.used = true ∧ f.magic = 1234

instance (f : File) : Decidable f.Valid :=
  inferInstanceAs (Decidable (_ ∧ _))

def zeroFile : File where
  used := false
  magic := 0
  file := 0
  object := .null
  socket := none
  socketBufferFull := false
  base := 0
  buf := fun _ => 0
  p := 0
  r := 0
  w := 0
  lbfsize := 0
  fsize := 0
  cnt := 0
  flags := 0
  sync :=
    { action := 0, canRead := false, canWrite := false, canAccept := false,
      canConnect := false, blockOnWrite := false, blockOnWriteFull := false,
      blockOnReadEmpty := false }
  tidWaiting := 0
  pipeInfo := none

/-- The result of a call and the bytes that it stored in the caller's buffer. -/
structure Outcome where
  result : Int
  bytes : List UInt8
  deriving DecidableEq, Repr

def readBytes (buf : Int → UInt8) (start : Int) (len : Nat) : List UInt8 :=
  (List.range len).map fun i : Nat => buf (start + i)

def writeBytes (buf : Int → UInt8) (start : Int) (src : Nat → UInt8) (len : Nat) :
    Int → UInt8 :=
  fun i => if start ≤ i ∧ i < start + len then src (i - start).toNat else buf i

@[simp] theorem readBytes_length (buf : Int → UInt8) (start : Int) (len : Nat) :
    (readBytes buf start len).length = len := by
  rw [readBytes, List.length_map, List.length_range]

variable {len n : Nat}

theorem readBytes_writeBytes (buf : Int → UInt8) (start : Int) (src : Nat → UInt8) (h : n ≤ len) :
    readBytes (writeBytes buf start src len) start n = (List.range n).map src := by
  apply List.map_congr_left
  intro i hi
  have hlt := List.mem_range.mp hi
  rw [writeBytes, if_pos ⟨by omega, by omega⟩]
  congr 1
  omega

theorem take_readBytes (buf : Int → UInt8) (start : Int) (h : n ≤ len) :
    (readBytes buf start len).take n = readBytes buf start n := by
  rw [readBytes, readBytes, ← List.map_take, List.take_range, Nat.min_eq_left h]

end Gramado.Io.FileObject
