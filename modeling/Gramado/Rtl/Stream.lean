import Mathlib.Tactic.Common

namespace Gramado.Rtl.Stream

def BUFSIZ : Int := 1024
def EOF : Int := -1

/-- Why a routine does not return: a byte outside the buffer of the stream, or `exit`. -/
inductive Stop where
  | outside
  | exit (status : Int)
  deriving DecidableEq, Repr

/-- The fields of `FILE` that the routines use. `p` is the distance of `_p` from `_base`, and
`base` the bytes behind `_base`. -/
structure FILE where
  base : Int → UInt8
  p : Int
  r : Int
  w : Int
  lbfsize : Int
  fsize : Int
  cnt : Int
  eof : Bool
  have_ungotten : Bool
  ungotten : Int

def fopen (base : Int → UInt8) : FILE :=
  ⟨base, 0, 0, 0, BUFSIZ, 0, BUFSIZ, false, false, 0⟩

def stdioInitialize (base : Int → UInt8) : FILE :=
  ⟨base, 0, 0, 0, BUFSIZ, 0, 0, false, false, 0⟩

def store (base : Int → UInt8) (at_ : Int) (bytes : List UInt8) : Int → UInt8 := fun i =>
  if at_ ≤ i ∧ i < at_ + bytes.length then bytes.getD (i - at_).toNat 0 else base i

def between (base : Int → UInt8) (low high : Int) : List UInt8 :=
  (List.range (high - low).toNat).map fun i : Nat => base (low + i)

variable {base : Int → UInt8} {low high : Int}

theorem between_of_le (h : high ≤ low) : between base low high = [] := by
  rw [between, Int.toNat_eq_zero.mpr (by omega)]
  rfl

theorem between_cons (h : low < high) :
    between base low high = base low :: between base (low + 1) high := by
  have hlen : (high - low).toNat = (high - (low + 1)).toNat + 1 := by
    omega
  rw [between, hlen, List.range_succ_eq_map, List.map_cons, List.map_map]
  congr 1
  · rw [Int.natCast_zero, Int.add_zero]
  · refine List.map_congr_left fun i _ => ?_
    change base (low + ((i + 1 : Nat) : Int)) = base (low + 1 + i)
    congr 1
    omega

theorem between_snoc (h : low ≤ high) :
    between base low (high + 1) = between base low high ++ [base high] := by
  have hlen : (high + 1 - low).toNat = (high - low).toNat + 1 := by
    omega
  rw [between, hlen, List.range_succ, List.map_append, List.map_singleton]
  congr 2
  congr 1
  omega

theorem between_congr {base' : Int → UInt8} (h : ∀ i, low ≤ i → i < high → base' i = base i) :
    between base' low high = between base low high := by
  refine List.map_congr_left fun i hi => ?_
  rw [List.mem_range] at hi
  exact h _ (by omega) (by omega)

theorem between_store (base : Int → UInt8) (low : Int) (bytes : List UInt8) :
    between (store base low bytes) low (low + bytes.length) = bytes := by
  have hlen : (low + bytes.length - low).toNat = bytes.length := by
    omega
  rw [between, hlen]
  refine List.ext_getElem (by simp) fun i hi hi' => ?_
  rw [List.getElem_map, List.getElem_range, store, if_pos (by omega)]
  have hindex : (low + i - low).toNat = i := by
    omega
  rw [hindex, List.getD_eq_getElem?_getD, List.getElem?_eq_getElem hi', Option.getD_some]

end Gramado.Rtl.Stream
