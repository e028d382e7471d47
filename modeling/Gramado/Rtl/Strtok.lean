import Gramado.Library.Separated

/-! `strtok` of the library of ring 3. -/

namespace Gramado.Rtl.Strtok

open Library.Separated

/-- A call of `strtok` at a place of a string: the token, and the place for the next call, which
is behind the delimiter that it overwrites. -/
def strtok (isDelim : UInt8 → Bool) (s : List UInt8) : Option (List UInt8 × List UInt8) :=
  match s.dropWhile isDelim with
  | [] => none
  | c :: rest =>
      some ((c :: rest).takeWhile fun c => !isDelim c,
        ((c :: rest).dropWhile fun c => !isDelim c).drop 1)

variable {s rest : List UInt8}

section

variable {isDelim : UInt8 → Bool}

theorem fields_of_strtok_none (h : strtok isDelim s = none) : fields isDelim s = [] := by
  rw [strtok] at h
  split at h
  · rename_i hdrop
    exact fields_of_all (List.dropWhile_eq_nil_iff.mp hdrop)
  · cases h

theorem fields_of_strtok_some {token : List UInt8} (h : strtok isDelim s = some (token, rest)) :
    fields isDelim s = token :: fields isDelim rest := by
  rw [strtok] at h
  split at h
  · cases h
  · rename_i c tail hdrop
    have hc : isDelim c = false := by
      have hne : s.dropWhile isDelim ≠ [] := by simp [hdrop]
      have hhead := List.head_dropWhile_not isDelim hne
      simpa [hdrop] using hhead
    have hs : s = s.takeWhile isDelim ++ (c :: tail) := by
      rw [← hdrop, List.takeWhile_append_dropWhile]
    have hfree : ∀ x ∈ (c :: tail).takeWhile (fun c => !isDelim c), isDelim x = false := by
      intro x hx
      simpa using List.mem_takeWhile_imp hx
    have hne : (c :: tail).takeWhile (fun c => !isDelim c) ≠ [] := by
      rw [List.takeWhile_cons_of_pos (by simp [hc])]
      exact List.cons_ne_nil c _
    obtain ⟨rfl, rfl⟩ := Prod.mk.inj (Option.some.inj h)
    rw [hs, fields_all_append fun x hx => List.mem_takeWhile_imp hx]
    conv_lhs => rw [← List.takeWhile_append_dropWhile (p := fun c => !isDelim c) (l := c :: tail)]
    cases hbehind : (c :: tail).dropWhile (fun c => !isDelim c) with
    | nil => rw [List.append_nil, fields_singleton hne hfree, List.drop_nil, fields_nil]
    | cons d behind =>
        have hd : isDelim d = true := by
          have hne : (c :: tail).dropWhile (fun c => !isDelim c) ≠ [] := by simp [hbehind]
          have hhead := List.head_dropWhile_not (fun c => !isDelim c) hne
          simpa [hbehind] using hhead
        rw [fields_field_cons hne hfree hd, List.drop_succ_cons, List.drop_zero]

theorem strtok_word {w : List UInt8} (hne : w ≠ []) (hfree : ∀ c ∈ w, isDelim c = false)
    (hrest : ∀ c, rest.head? = some c → isDelim c = true) :
    strtok isDelim (w ++ rest) = some (w, rest.drop 1) := by
  obtain ⟨c, tail, rfl⟩ := List.exists_cons_of_ne_nil hne
  have hstop : ∀ x ∈ c :: tail, (!isDelim x) = true := fun x hx => by simp [hfree x hx]
  have hbehind : rest.takeWhile (fun c => !isDelim c) = [] ∧
      rest.dropWhile (fun c => !isDelim c) = rest := by
    cases rest with
    | nil => exact ⟨rfl, rfl⟩
    | cons d rest => simp [hrest d rfl]
  have hfirst : ((c :: tail) ++ rest).dropWhile isDelim = c :: (tail ++ rest) :=
    List.dropWhile_cons_of_neg (by simp [hfree c (by simp)])
  rw [strtok, hfirst]
  dsimp only
  rw [← List.cons_append, List.takeWhile_append_of_pos hstop, List.dropWhile_append_of_pos hstop,
    hbehind.1, hbehind.2, List.append_nil]

end

end Gramado.Rtl.Strtok
