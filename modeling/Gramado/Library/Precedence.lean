import Mathlib.Data.List.Basic

/-! Values of expressions whose operators have levels of precedence and associate to the left. -/

namespace Gramado.Library.Precedence

variable {ω α : Type*} {level : ω → Nat} {apply : ω → α → α → α}

/-- The grammar. An expression of a level is one of the level below, or an expression of the level,
an operator and an expression of the level below. Those of level `0` are single operands. -/
inductive Value (level : ω → Nat) (apply : ω → α → α → α) : Nat → α → List (ω × α) → α → Prop where
  | operand (x : α) : Value level apply 0 x [] x
  | lift {p : Nat} {x v : α} {es : List (ω × α)} :
      Value level apply p x es v → Value level apply (p + 1) x es v
  | binary {p : Nat} {x y v w : α} {es fs : List (ω × α)} {op : ω} :
      Value level apply (p + 1) x es v → level op = p → Value level apply p y fs w →
        Value level apply (p + 1) x (es ++ (op, y) :: fs) (apply op v w)

def reduce (level : ω → Nat) (apply : ω → α → α → α) (p : Nat) : α → List (ω × α) → α × List (ω × α)
  | x, [] => (x, [])
  | x, (op, y) :: es =>
      if level op = p then reduce level apply p (apply op x y) es
      else (x, (op, (reduce level apply p y es).1) :: (reduce level apply p y es).2)

def evaluate (level : ω → Nat) (apply : ω → α → α → α) : Nat → α → List (ω × α) → α × List (ω × α)
  | 0, x, es => (x, es)
  | p + 1, x, es =>
      reduce level apply p (evaluate level apply p x es).1 (evaluate level apply p x es).2

section

variable {p : Nat} {x y v w : α} {es fs : List (ω × α)} {op : ω}

theorem reduce_split (hop : level op ≠ p) : reduce level apply p x (es ++ (op, y) :: fs) =
      ((reduce level apply p x es).1, (reduce level apply p x es).2 ++
          (op, (reduce level apply p y fs).1) :: (reduce level apply p y fs).2) := by
  induction es generalizing x with
  | nil => simp only [List.nil_append, reduce, if_neg hop]
  | cons e es ih =>
      obtain ⟨op', y'⟩ := e
      rw [List.cons_append, reduce, reduce]
      split_ifs
      · exact ih
      · rw [ih, List.cons_append]

theorem reduce_last (hop : level op = p) (h : reduce level apply p x es = (v, [])) :
    reduce level apply p x (es ++ [(op, w)]) = (apply op v w, []) := by
  induction es generalizing x with
  | nil =>
      obtain ⟨rfl, -⟩ := Prod.mk.inj h
      rw [List.nil_append, reduce, if_pos hop, reduce]
  | cons e es ih =>
      obtain ⟨op', y'⟩ := e
      rw [reduce] at h
      rw [List.cons_append, reduce]
      split_ifs at h ⊢
      · exact ih h
      · cases h

theorem evaluate_split (hop : p ≤ level op) : evaluate level apply p x (es ++ (op, y) :: fs) =
      ((evaluate level apply p x es).1, (evaluate level apply p x es).2 ++
          (op, (evaluate level apply p y fs).1) :: (evaluate level apply p y fs).2) := by
  induction p with
  | zero => rfl
  | succ p ih =>
      have hne : level op ≠ p := by omega
      rw [evaluate, ih (by omega)]
      exact reduce_split hne

theorem evaluate_value (h : Value level apply p x es v) :
    evaluate level apply p x es = (v, []) := by
  induction h with
  | operand x => rfl
  | lift _ ih => rw [evaluate, ih, reduce]
  | binary _ hop _ ih ih' =>
      rw [evaluate] at ih ⊢
      rw [evaluate_split (Nat.le_of_eq hop.symm), ih']
      exact reduce_last hop ih

theorem exists_last (p : Nat) (es : List (ω × α)) : (∀ e ∈ es, level e.1 ≠ p) ∨
      ∃ front op y fs, es = front ++ (op, y) :: fs ∧ level op = p ∧ ∀ e ∈ fs, level e.1 ≠ p := by
  induction es with
  | nil => exact .inl (by simp)
  | cons e es ih =>
      rcases ih with hnone | ⟨front, op, y, fs, rfl, hop, hfs⟩
      · by_cases he : level e.1 = p
        · exact .inr ⟨[], e.1, e.2, es, rfl, he, hnone⟩
        · exact .inl (List.forall_mem_cons.mpr ⟨he, hnone⟩)
      · exact .inr ⟨e :: front, op, y, fs, rfl, hop, hfs⟩

theorem exists_value (h : ∀ e ∈ es, level e.1 < p) : ∃ v, Value level apply p x es v := by
  induction p generalizing x es with
  | zero =>
      cases es with
      | nil => exact ⟨x, .operand x⟩
      | cons e es => exact absurd (h e List.mem_cons_self) (Nat.not_lt_zero _)
  | succ p ih =>
      induction hlength : es.length using Nat.strongRecOn generalizing es with
      | ind n ihn =>
          have hbelow (fs : List (ω × α)) (hsub : ∀ e ∈ fs, e ∈ es)
              (hfs : ∀ e ∈ fs, level e.1 ≠ p) : ∀ e ∈ fs, level e.1 < p := by
            intro e he
            have hlt := h e (hsub e he)
            have hne := hfs e he
            omega
          rcases @exists_last ω α level p es with hnone | ⟨front, op, y, fs, rfl, hop, hfs⟩
          · obtain ⟨v, hv⟩ := @ih x es (hbelow es (fun _ he => he) hnone)
            exact ⟨v, .lift hv⟩
          · have hshort : front.length < n := by
              rw [← hlength, List.length_append, List.length_cons]
              omega
            obtain ⟨v, hv⟩ := ihn front.length hshort
              (fun e he => h e (List.mem_append_left _ he)) rfl
            obtain ⟨w, hw⟩ := @ih y fs
              (hbelow fs (fun e he => List.mem_append_right _ (List.mem_cons_of_mem _ he)) hfs)
            exact ⟨apply op v w, .binary hv hop hw⟩

theorem value_iff (h : ∀ e ∈ es, level e.1 < p) :
    Value level apply p x es v ↔ (evaluate level apply p x es).1 = v := by
  constructor
  · intro hv
    rw [evaluate_value hv]
  · rintro rfl
    obtain ⟨v, hv⟩ := @exists_value ω α level apply p x es h
    rw [evaluate_value hv]
    exact hv

end

end Gramado.Library.Precedence
