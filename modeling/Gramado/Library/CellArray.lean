import Gramado.Library.CheckedRead

/-! Arrays of bytes of which some have not been written yet, and what a pointer into one reads
and writes. The cells of a pointer are those of the array from the pointer on. -/

namespace Gramado.Library.CellArray

open Library.CheckedRead

abbrev Cells := List (Option UInt8)

def written (bytes : List UInt8) : Cells := bytes.map some

def stringCells (text : List UInt8) (spare : Cells) : Cells :=
  written text ++ some 0 :: spare

def deref : Cells → Except Fault UInt8
  | some c :: _ => .ok c
  | _ => .error .outside

def readAt (cells : Cells) (i : Nat) : Except Fault UInt8 := deref (cells.drop i)

def put : List UInt8 → Cells → Except Fault Cells
  | [], cells => .ok cells
  | c :: bytes, _ :: cells => do
      let cells ← put bytes cells
      return some c :: cells
  | _ :: _, [] => .error .outside

@[simp] theorem written_nil : written [] = [] := rfl

@[simp] theorem written_cons (c : UInt8) (bytes : List UInt8) :
    written (c :: bytes) = some c :: written bytes :=
  rfl

@[simp] theorem written_append (bytes bytes' : List UInt8) :
    written (bytes ++ bytes') = written bytes ++ written bytes' :=
  List.map_append

@[simp] theorem length_written (bytes : List UInt8) : (written bytes).length = bytes.length :=
  List.length_map _

@[simp] theorem length_stringCells (text : List UInt8) (spare : Cells) :
    (stringCells text spare).length = text.length + 1 + spare.length := by
  simp only [stringCells, List.length_append, length_written, List.length_cons]
  omega

@[simp] theorem stringCells_cons (c : UInt8) (text : List UInt8) (spare : Cells) :
    stringCells (c :: text) spare = some c :: stringCells text spare :=
  rfl

@[simp] theorem stringCells_nil (spare : Cells) : stringCells [] spare = some 0 :: spare := rfl

theorem stringCells_append (text text' : List UInt8) (spare : Cells) :
    stringCells (text ++ text') spare = written text ++ stringCells text' spare := by
  simp [stringCells]

theorem written_injective : Function.Injective written :=
  List.map_injective_iff.mpr fun _ _ => Option.some.inj

@[simp] theorem deref_cons (c : UInt8) (cells : Cells) : deref (some c :: cells) = .ok c := rfl

variable {bytes : List UInt8} {cells : Cells}

theorem readAt_written {i : Nat} (h : bytes.length = i) (c : UInt8) (behind : List UInt8) :
    readAt (written (bytes ++ c :: behind)) i = .ok c := by
  rw [readAt, written_append, List.drop_left' (by simpa using h), written_cons, deref_cons]

theorem put_eq (h : bytes.length ≤ cells.length) :
    put bytes cells = .ok (written bytes ++ cells.drop bytes.length) := by
  induction bytes generalizing cells with
  | nil => rfl
  | cons c bytes ih =>
      cases cells with
      | nil => simp at h
      | cons cell cells =>
          rw [put, ih (by simpa using h)]
          rfl

theorem put_over {bytes' : List UInt8} (h : bytes.length ≤ bytes'.length)
    (hroom : bytes'.length ≤ cells.length) :
    put bytes' (written bytes ++ cells.drop bytes.length) = put bytes' cells := by
  have hlength : bytes'.length ≤ (written bytes ++ cells.drop bytes.length).length := by
    simp
    omega
  rw [put_eq hlength, put_eq hroom, List.drop_append, List.drop_eq_nil_of_le (by simpa using h),
    List.drop_drop, length_written, Nat.add_sub_cancel' h, List.nil_append]

def HoldsString (cells : Cells) (text : List UInt8) : Prop :=
  0 ∉ text ∧ ∃ spare, cells = stringCells text spare

theorem HoldsString.unique {text text' : List UInt8} (h : HoldsString cells text)
    (h' : HoldsString cells text') : text = text' := by
  obtain ⟨hzero, spare, rfl⟩ := h
  obtain ⟨hzero', spare', heq⟩ := h'
  induction text generalizing text' with
  | nil =>
      cases text' with
      | nil => rfl
      | cons d text' =>
          simp only [stringCells_nil, stringCells_cons, List.cons.injEq, Option.some_inj] at heq
          exact absurd (by simp [heq.1]) hzero'
  | cons c text ih =>
      cases text' with
      | nil =>
          simp only [stringCells_nil, stringCells_cons, List.cons.injEq, Option.some_inj] at heq
          exact absurd (by simp [heq.1]) hzero
      | cons d text' =>
          simp only [stringCells_cons, List.cons.injEq, Option.some_inj] at heq
          rw [List.mem_cons, not_or] at hzero hzero'
          rw [heq.1, ih hzero.2 hzero'.2 heq.2]

end Gramado.Library.CellArray
