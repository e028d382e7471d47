import Gramado.Library.ByteMemory
import Mathlib.Data.List.GetD

/-! The buffers in which requests and responses of the display server travel. -/

namespace Gramado.Ds.Protocol

open Library.ByteMemory

def MSG_BUFFER_SIZE : Nat := 512

def REQUEST_SIZE : Nat := 368

def SERVER_PACKET_TYPE_REPLY : UInt64 := 1001
def SERVER_PACKET_TYPE_EVENT : UInt64 := 1002
def SERVER_PACKET_TYPE_ERROR : UInt64 := 1003

def clean : Memory := fun _ => 0

/-- The element `i` of a buffer that is taken as an array of `unsigned long`. -/
def word (buffer : Memory) (i : Nat) : UInt64 := .ofNat (load buffer (8 * i) 8)

def setWord (buffer : Memory) (i : Nat) (v : UInt64) : Memory :=
  store buffer (8 * i) 8 v.toNat

def setWords (buffer : Memory) : List (Nat × UInt64) → Memory
  | [] => buffer
  | (i, v) :: rest => setWords (setWord buffer i v) rest

def bytes (buffer : Memory) (n : Nat) : List UInt8 := (List.range n).map buffer

def toInt (v : UInt64) : Int32 := v.toUInt32.toInt32

def toLong (v : Int32) : UInt64 := v.toInt64.toUInt64

def cString (buffer : List UInt8) : List UInt8 := buffer.takeWhile (· ≠ 0)

theorem word_setWord (buffer : Memory) (i : Nat) (v : UInt64) :
    word (setWord buffer i v) i = v := by
  rw [word, setWord, load_store buffer (by exact v.toNat_lt)]
  exact UInt64.ofNat_toNat

variable {i k n : Nat} {buffer buffer' : Memory}

theorem word_setWord_of_ne (buffer : Memory) {j : Nat} (v : UInt64) (h : j ≠ i) :
    word (setWord buffer i v) j = word buffer j := by
  rw [word, setWord, load_store_of_disjoint buffer (by omega)]
  rfl

theorem setWord_of_outside (buffer : Memory) (v : UInt64) (h : k < 8 * i ∨ 8 * i + 8 ≤ k) :
    setWord buffer i v k = buffer k :=
  store_of_outside buffer h

theorem word_congr (h : ∀ k, 8 * i ≤ k → k < 8 * i + 8 → buffer' k = buffer k) :
    word buffer' i = word buffer i := by
  rw [word, load_congr h (Nat.le_refl _) (Nat.le_refl _)]
  rfl

theorem setWord_of_inside (buffer buffer' : Memory) (v : UInt64) (hlow : 8 * i ≤ k)
    (hhigh : k < 8 * i + 8) : setWord buffer i v k = setWord buffer' i v k :=
  store_inside buffer buffer' hlow hhigh

theorem setWidth_signExtend (x : BitVec 32) : (x.signExtend 64).setWidth 32 = x := by
  ext i hi
  rw [BitVec.getElem_setWidth, BitVec.getLsbD_signExtend]
  simp [hi, show i < 64 by omega]

theorem toInt_toLong (v : Int32) : toInt (toLong v) = v :=
  Int32.toBitVec_inj.mp (setWidth_signExtend v.toBitVec)

theorem toInt_and (v m : UInt64) : toInt (v &&& m) = toInt v &&& toInt m := by
  rw [toInt, UInt64.toUInt32_and]
  rfl

theorem cString_eq {buffer name : List UInt8} (hname : ∀ c ∈ name, c ≠ 0)
    (htake : buffer.take name.length = name) (hend : buffer[name.length]? = some 0) :
    cString buffer = name := by
  obtain ⟨hlt, hzero⟩ := List.getElem?_eq_some_iff.mp hend
  have hsplit : buffer = name ++ 0 :: buffer.drop (name.length + 1) := by
    calc
      buffer = buffer.take name.length ++ buffer.drop name.length :=
        (List.take_append_drop _ _).symm
      _ = name ++ 0 :: buffer.drop (name.length + 1) := by
        rw [htake, List.drop_eq_getElem_cons hlt, hzero]
  rw [cString, hsplit, List.takeWhile_append_of_pos (by simpa using hname)]
  simp

theorem bytes_length (buffer : Memory) (n : Nat) : (bytes buffer n).length = n := by
  rw [bytes, List.length_map, List.length_range]

theorem getD_bytes (buffer : Memory) (h : i < n) : (bytes buffer n).getD i 0 = buffer i := by
  rw [List.getD_eq_getElem _ _ (by rw [bytes_length]; exact h)]
  simp only [bytes, List.getElem_map, List.getElem_range]

theorem bytes_eq_iff : bytes buffer n = bytes buffer' n ↔ ∀ i < n, buffer i = buffer' i := by
  rw [bytes, bytes, List.map_inj_left]
  simp only [List.mem_range]

end Gramado.Ds.Protocol
