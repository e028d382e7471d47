import Mathlib.Data.Nat.ModEq

namespace Gramado.Library.Ring

variable {α : Type*}

/-- The `n` slots of a ring of `size` slots that follow position `start`. -/
def window (slots : Nat → α) (size start : Nat) : Nat → List α
  | 0 => []
  | n + 1 => slots (start % size) :: window slots size (start + 1) n

def next (size position : Nat) : Nat :=
  if size ≤ position + 1 then 0 else position + 1

variable {size position start n i : Nat} {slots : Nat → α}

theorem next_eq_mod (h : position < size) : next size position = (position + 1) % size := by
  unfold next
  split
  · have heq : position + 1 = size := by omega
    rw [heq, Nat.mod_self]
  · rw [Nat.mod_eq_of_lt (by omega)]

theorem next_lt (h : position < size) : next size position < size := by
  rw [next_eq_mod h]
  exact Nat.mod_lt _ (by omega)

@[simp] theorem window_zero (slots : Nat → α) (size start : Nat) :
    window slots size start 0 = [] := rfl

theorem window_succ (slots : Nat → α) (size start n : Nat) : window slots size start (n + 1) =
      slots (start % size) :: window slots size (start + 1) n := rfl

@[simp] theorem window_length (slots : Nat → α) (size start n : Nat) :
    (window slots size start n).length = n := by
  induction n generalizing start with
  | zero => rfl
  | succ n ih => rw [window_succ, List.length_cons, ih]

theorem window_congr {slots' : Nat → α}
    (h : ∀ i, i < n → slots ((start + i) % size) = slots' ((start + i) % size)) :
    window slots size start n = window slots' size start n := by
  induction n generalizing start with
  | zero => rfl
  | succ n ih =>
      rw [window_succ, window_succ]
      have hhead := h 0 (by omega)
      rw [Nat.add_zero] at hhead
      rw [hhead, ih]
      intro i hi
      have := h (i + 1) (by omega)
      rwa [show start + (i + 1) = start + 1 + i by omega] at this

theorem window_modEq (slots : Nat → α) (size start start' n : Nat)
    (h : start % size = start' % size) :
    window slots size start n = window slots size start' n := by
  induction n generalizing start start' with
  | zero => rfl
  | succ n ih =>
      have hnext : (start + 1) % size = (start' + 1) % size := Nat.ModEq.add_right 1 h
      rw [window_succ, window_succ, h, ih _ _ hnext]

theorem window_add (slots : Nat → α) (size start m n : Nat) : window slots size start (m + n) =
      window slots size start m ++ window slots size (start + m) n := by
  induction m generalizing start with
  | zero => simp
  | succ m ih =>
      rw [show m + 1 + n = m + n + 1 by omega, window_succ, window_succ, ih,
        List.cons_append, show start + 1 + m = start + (m + 1) by omega]

theorem offset_ne {j : Nat} (hij : i < j) (hj : j < size) :
    (start + i) % size ≠ (start + j) % size := by
  intro h
  have hmod : i ≡ j [MOD size] := Nat.ModEq.add_left_cancel' start h
  have heq := Nat.ModEq.eq_of_lt_of_lt hmod (by omega) hj
  omega

theorem window_update (slots : Nat → α) (v : α) (h : ∀ i, i < n → (start + i) % size ≠ position) :
    window (Function.update slots position v) size start n = window slots size start n := by
  apply window_congr
  intro i hi
  rw [Function.update_of_ne (h i hi)]

theorem window_push (slots : Nat → α) (v : α) (hn : n < size)
    (hposition : position = (start + n) % size) :
    window (Function.update slots position v) size start (n + 1) =
      window slots size start n ++ [v] := by
  rw [window_add, window_update]
  · rw [window_succ, window_zero, hposition, Function.update_self]
  · intro i hi
    rw [hposition]
    exact offset_ne hi hn

theorem window_update_head (slots : Nat → α) (v : α) (hn : n < size)
    (hposition : position = start % size) :
    window (Function.update slots position v) size (start + 1) n =
      window slots size (start + 1) n := by
  apply window_update
  intro i hi
  rw [hposition, show start + 1 + i = start + (i + 1) by omega]
  have hne : (start + 0) % size ≠ (start + (i + 1)) % size := offset_ne (by omega) (by omega)
  exact hne.symm

def offset (size start position : Nat) : Nat :=
  if start ≤ position then position - start else position + size - start

theorem offset_lt (hstart : start < size) (hposition : position < size) :
    offset size start position < size := by
  unfold offset
  split <;> omega

theorem offset_next (hstart : start < size) (hposition : position < size) :
    offset size start (next size position) = if offset size start position + 1 = size then 0
      else offset size start position + 1 := by
  unfold next offset
  rcases Nat.lt_or_ge (position + 1) size with hlt | hge
  · rw [if_neg (Nat.not_le.mpr hlt)]
    split <;> split <;> split <;> omega
  · rw [if_pos hge]
    split <;> split <;> split <;> omega

theorem offset_from_next (hstart : start < size) (hposition : position < size) (hi : i < size) :
    offset size (next size position) i = if offset size start position < offset size start i then
        offset size start i - offset size start position - 1
      else if offset size start position + 1 = size then offset size start i
      else offset size start i + size - offset size start position - 1 := by
  unfold next offset
  rcases Nat.lt_or_ge (position + 1) size with hlt | hge
  · rw [if_neg (Nat.not_le.mpr hlt)]
    split <;> split <;> split <;> (repeat' split) <;> omega
  · rw [if_pos hge]
    split <;> split <;> split <;> (repeat' split) <;> omega

theorem mem_window {v : α} :
    v ∈ window slots size start n ↔ ∃ i, i < n ∧ slots ((start + i) % size) = v := by
  induction n with
  | zero => simp
  | succ n ih =>
      rw [window_add slots size start n 1, List.mem_append, ih]
      simp only [window_succ, window_zero, List.mem_singleton]
      constructor
      · rintro (⟨i, hi, rfl⟩ | rfl)
        · exact ⟨i, by omega, rfl⟩
        · exact ⟨n, by omega, rfl⟩
      · rintro ⟨i, hi, rfl⟩
        rcases Nat.lt_or_eq_of_le (Nat.lt_succ_iff.mp hi) with hlt | rfl
        · exact .inl ⟨i, hlt, rfl⟩
        · exact .inr rfl

theorem add_mod_eq (hstart : start < size) (hi : i < size) :
    (start + i) % size = if start + i < size then start + i else start + i - size := by
  split
  · rename_i h
    exact Nat.mod_eq_of_lt h
  · rw [Nat.mod_eq_sub_mod (by omega), Nat.mod_eq_of_lt (by omega)]

theorem mem_window_id (hstart : start < size) (hn : n ≤ size) : position ∈ window id size start n ↔
      position < size ∧ offset size start position < n := by
  simp only [mem_window, id_eq, offset]
  constructor
  · rintro ⟨i, hi, rfl⟩
    rw [add_mod_eq hstart (by omega)]
    split <;> split <;> omega
  · rintro ⟨hposition, hoffset⟩
    refine ⟨offset size start position, hoffset, ?_⟩
    have hlt := offset_lt hstart hposition
    rw [add_mod_eq hstart hlt]
    unfold offset
    split <;> split <;> omega

theorem window_id_disjoint {m : Nat} (h : m + n ≤ size) (hi : i ∈ window id size start m) :
    i ∉ window id size (start + m) n := by
  intro hi'
  obtain ⟨j, hj, rfl⟩ := mem_window.mp hi
  obtain ⟨j', hj', heq⟩ := mem_window.mp hi'
  rw [id_eq, id_eq, Nat.add_assoc] at heq
  exact offset_ne (show j < m + j' by omega) (by omega) heq.symm

theorem window_turn (slots : Nat → α) {k : Nat} (hk : k ≤ size) :
    window slots size (start + k) size =
      window slots size (start + k) (size - k) ++ window slots size start k := by
  have hsplit := window_add slots size (start + k) (size - k) k
  rw [Nat.sub_add_cancel hk, show start + k + (size - k) = start + size by omega] at hsplit
  rw [hsplit]
  congr 1
  apply window_modEq
  exact Nat.add_mod_right start size

theorem append_comm_iff {l l' : List α} (h : ∀ v ∈ l, v ∉ l') :
    l' ++ l = l ++ l' ↔ l = [] ∨ l' = [] := by
  constructor
  · intro heq
    rcases l with _ | ⟨v, l⟩
    · exact .inl rfl
    rcases l' with _ | ⟨w, l'⟩
    · exact .inr rfl
    have hhead : w = v := (List.cons.inj heq).1
    exact absurd List.mem_cons_self (hhead ▸ h v List.mem_cons_self)
  · rintro (rfl | rfl) <;> simp

theorem filter_window_iff {start' : Nat} (hstart : start < size) (hstart' : start' < size)
    (keep : Nat → Bool) :
    (window id size start' size).filter keep = (window id size start size).filter keep ↔
      (∀ i, i < size → keep i = true → offset size start start' ≤ offset size start i) ∨
        ∀ i, i < size → keep i = true → offset size start i < offset size start start' := by
  have hk : offset size start start' < size := offset_lt hstart hstart'
  generalize hoffset : offset size start start' = k at hk ⊢
  have hmod : start' % size = (start + k) % size := by
    rw [Nat.mod_eq_of_lt hstart', add_mod_eq hstart hk, ← hoffset]
    unfold offset
    split <;> split <;> omega
  have hsplit := window_add id size start k (size - k)
  rw [Nat.add_sub_cancel' hk.le] at hsplit
  have hdisjoint : ∀ i ∈ (window id size start k).filter keep,
      i ∉ (window id size (start + k) (size - k)).filter keep := by
    intro i hi hi'
    exact window_id_disjoint (Nat.add_sub_cancel' hk.le).le (List.mem_filter.mp hi).1
      (List.mem_filter.mp hi').1
  rw [window_modEq id size start' (start + k) size hmod, window_turn id hk.le, hsplit,
    List.filter_append, List.filter_append, append_comm_iff hdisjoint]
  simp only [List.filter_eq_nil_iff]
  apply or_congr
  · constructor
    · intro hnone i hi hkeep
      by_contra hlt
      exact hnone i ((mem_window_id hstart hk.le).mpr ⟨hi, by omega⟩) hkeep
    · intro hall i hi hkeep
      obtain ⟨hisize, hlt⟩ := (mem_window_id hstart hk.le).mp hi
      have := hall i hisize hkeep
      omega
  · constructor
    · intro hnone i hi hkeep
      by_contra hlt
      have hmem : i ∈ window id size start size :=
        (mem_window_id hstart le_rfl).mpr ⟨hi, offset_lt hstart hi⟩
      rw [hsplit, List.mem_append] at hmem
      rcases hmem with hfirst | hlast
      · exact hlt ((mem_window_id hstart hk.le).mp hfirst).2
      · exact hnone i hlast hkeep
    · intro hall i hi hkeep
      obtain ⟨j, hj, rfl⟩ := mem_window.mp hi
      have hposition : id ((start + k + j) % size) < size := Nat.mod_lt _ (by omega)
      have hlt := hall _ hposition hkeep
      have hfirst := (mem_window_id hstart hk.le).mpr ⟨hposition, hlt⟩
      exact hdisjoint _ (List.mem_filter.mpr ⟨hfirst, hkeep⟩)
        (List.mem_filter.mpr ⟨hi, hkeep⟩)

end Gramado.Library.Ring
