import Gramado.Library.CheckedRead

/-! Texts that are appended to a buffer of a fixed size, which keeps one place for the end mark. -/

namespace Gramado.Library.BoundedText

open Library.CheckedRead

variable {ε α : Type}

/-- The text of the buffer after one more, or the fault where it does not fit. -/
def append (fault : ε) (size : Nat) (buffer piece : List α) : Except ε (List α) :=
  if buffer.length + piece.length < size then .ok (buffer ++ piece) else .error fault

def appendAll (fault : ε) (size : Nat) (buffer : List α) (pieces : List (List α)) :
    Except ε (List α) :=
  pieces.foldlM (append fault size) buffer

section Rules

variable {fault : ε} {size : Nat} {P : List α → Prop}

@[simp] theorem returns_append (buffer piece : List α) :
    Returns (append fault size buffer piece) P ↔
      buffer.length + piece.length < size ∧ P (buffer ++ piece) := by
  rw [append]
  split
  · simp [*]
  · simp [*]

theorem returns_appendAll (pieces : List (List α)) : ∀ buffer : List α, pieces ≠ [] →
    (Returns (appendAll fault size buffer pieces) P ↔
      buffer.length + pieces.flatten.length < size ∧ P (buffer ++ pieces.flatten)) := by
  induction pieces with
  | nil =>
      intro buffer h
      exact absurd rfl h
  | cons piece pieces ih =>
      intro buffer _
      have hstep : Returns (appendAll fault size buffer (piece :: pieces)) P ↔
          buffer.length + piece.length < size ∧
            Returns (appendAll fault size (buffer ++ piece) pieces) P := by
        rw [appendAll, List.foldlM_cons, returns_bind, returns_append]
        rfl
      rw [hstep, List.flatten_cons, List.length_append, ← Nat.add_assoc, ← List.append_assoc,
        ← List.length_append]
      rcases eq_or_ne pieces [] with rfl | hne
      · rw [appendAll, List.foldlM_nil, returns_pure, List.flatten_nil, List.append_nil,
          List.length_nil, Nat.add_zero]
      · rw [ih _ hne, ← and_assoc]
        exact and_congr_left fun _ => and_iff_right_of_imp fun h =>
          Nat.lt_of_le_of_lt (Nat.le_add_right _ _) h

end Rules

end Gramado.Library.BoundedText
