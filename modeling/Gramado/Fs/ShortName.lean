import Gramado.Fs.NameLookup
import Gramado.Library.CellArray

/-! `fs_fntos` and `fs_fntos2`, which convert a name in place to the eleven characters of a
directory entry. -/

namespace Gramado.Fs.ShortName

open Fs.NameLookup Library.CheckedRead Library.CellArray

/-- The loop over the name up to a dot or the end of the string: the cells that it has passed,
and those of its pointer. -/
def upperName : Cells → Except Fault (Cells × Cells)
  | some c :: cells =>
      if c = 0 ∨ c = dot then .ok ([], some c :: cells)
      else do
        let (front, cells) ← upperName cells
        return (some (upper c) :: front, cells)
  | _ => .error .outside

/-- What `ext` gets for a character of the extension: zero for one that is not saved. -/
def savedChar (c : UInt8) : UInt8 :=
  if 97 ≤ c ∧ c ≤ 122 then c - 32
  else if isSpecial c = true ∨ (48 ≤ c ∧ c ≤ 57) then c
  else 0

/-- The loop over the extension, with the rest of `ext` and the cells behind the dot. -/
def saveExtension : Nat → Cells → Except Fault (List UInt8 × Cells)
  | 0, cells => .ok ([], cells)
  | n + 1, some c :: cells =>
      if c = 0 then .ok (List.replicate (n + 1) 0, some c :: cells)
      else do
        let (ext, cells) ← saveExtension n cells
        return (savedChar c :: ext, some (upper c) :: cells)
  | _ + 1, _ => .error .outside

def spaceForZero (c : UInt8) : UInt8 := if c = 0 then space else c

/-- From the label `CompleteName8WithSpaces` on, with the pointer behind `ns` characters. -/
def completeName (ns : Nat) (ext : List UInt8) (cells : Cells) : Except Fault Cells :=
  put (List.replicate (8 - ns) space ++ ext.map spaceForZero ++ [0]) cells

/-- The body that both routines share: they differ in the extension that a name without one
gets. -/
def fntos (newExt : List UInt8) (name : Cells) : Except Fault Cells := do
  let c ← deref name
  if c = 0 then return name
  else
    let (front, cells) ← upperName name
    let c ← deref cells
    if c = 0 ∧ front.length ≤ 8 then
      let cells ← completeName front.length newExt cells
      return front ++ cells
    else
      let (ext, behind) ← saveExtension 3 (cells.drop 1)
      let cells ← completeName front.length ext (cells.take 1 ++ behind)
      return front ++ cells

/-- A name without an extension gets the extension `BIN`. -/
def fsFntos (name : Cells) : Except Fault Cells := fntos [66, 73, 78] name

def fsFntos2 (name : Cells) : Except Fault Cells := fntos [space, space, space] name

def padTo (n : Nat) (text : List UInt8) : List UInt8 :=
  text ++ List.replicate (n - text.length) space

def entryName (stem extension : List UInt8) : List UInt8 :=
  padTo 8 (stem.map upper) ++ padTo 3 (extension.map upper)

def Saved (c : UInt8) : Prop :=
  (97 ≤ c ∧ c ≤ 122) ∨ (48 ≤ c ∧ c ≤ 57) ∨ isSpecial c = true

instance (c : UInt8) : Decidable (Saved c) := inferInstanceAs (Decidable (_ ∨ _))

/-- A name of one to eight characters in front of its dot. -/
structure ValidStem (stem : List UInt8) : Prop where
  nonempty : stem ≠ []
  short : stem.length ≤ 8
  chars : ∀ c ∈ stem, c ≠ 0 ∧ c ≠ dot

structure SavedExtension (extension : List UInt8) : Prop where
  nonempty : extension ≠ []
  short : extension.length ≤ 3
  chars : ∀ c ∈ extension, Saved c

variable {c : UInt8} {stem extension text : List UInt8} {n : Nat}

theorem savedChar_of_saved (h : Saved c) : savedChar c = upper c := by
  rw [savedChar, upper]
  split
  · rfl
  · rename_i hlower
    rcases h with h | h
    · exact absurd h hlower
    · rw [if_pos h.symm]

theorem ne_zero_of_saved (h : Saved c) : c ≠ 0 := by
  rintro rfl
  exact absurd h (by decide)

theorem upper_ne_zero (h : c ≠ 0) : upper c ≠ 0 := by
  rw [upper]
  split
  · rename_i hlower
    rintro heq
    have hc : c = 32 := by
      rw [← UInt8.sub_add_cancel c 32, heq]
      rfl
    rw [hc] at hlower
    exact absurd hlower (by decide)
  · exact h

theorem upperName_append (h : ∀ c ∈ stem, c ≠ 0 ∧ c ≠ dot) (hc : c = 0 ∨ c = dot) (rest : Cells) :
    upperName (written stem ++ some c :: rest) =
      .ok (written (stem.map upper), some c :: rest) := by
  induction stem with
  | nil => exact if_pos hc
  | cons d stem ih =>
      have hd : ¬ (d = 0 ∨ d = dot) := not_or.mpr (h d (by simp))
      rw [written_cons, List.cons_append, upperName, if_neg hd, ih fun e he => h e (by simp [he])]
      rfl

theorem saveExtension_append (h : ∀ c ∈ extension, Saved c) (hn : extension.length ≤ n)
    (rest : Cells) :
    saveExtension n (stringCells extension rest) =
      .ok (extension.map upper ++ List.replicate (n - extension.length) 0,
        stringCells (extension.map upper) rest) := by
  induction extension generalizing n with
  | nil =>
      cases n with
      | zero => rfl
      | succ n => exact if_pos rfl
  | cons c extension ih =>
      obtain ⟨n, rfl⟩ : ∃ m, n = m + 1 := ⟨n - 1, by simp at hn; omega⟩
      have hc := h c (by simp)
      rw [stringCells_cons, saveExtension, if_neg (ne_zero_of_saved hc),
        ih (fun d hd => h d (by simp [hd])) (by simpa using hn), savedChar_of_saved hc]
      simp [ok_bind, Pure.pure, Except.pure]

theorem map_spaceForZero (h : ∀ c ∈ extension, Saved c) (k : Nat) :
    (extension.map upper ++ List.replicate k 0).map spaceForZero =
      extension.map upper ++ List.replicate k space := by
  have hchars : ∀ c ∈ extension.map upper, spaceForZero c = c := by
    intro c hc
    obtain ⟨d, hd, rfl⟩ := List.mem_map.mp hc
    exact if_neg (upper_ne_zero (ne_zero_of_saved (h d hd)))
  rw [List.map_append, List.map_replicate, List.map_congr_left hchars, List.map_id']
  rfl

theorem completeName_eq {ns : Nat} {ext : List UInt8} {cells : Cells} (hns : ns ≤ 8)
    (hext : ext.length = 3) (hroom : 12 ≤ ns + cells.length) :
    completeName ns ext cells =
      .ok (stringCells (List.replicate (8 - ns) space ++ ext.map spaceForZero)
        (cells.drop (12 - ns))) := by
  have hlength : (List.replicate (8 - ns) space ++ ext.map spaceForZero ++ [0]).length =
      12 - ns := by
    simp [hext]
    omega
  rw [completeName, put_eq (by omega), hlength]
  simp [stringCells]

theorem drop_stringCells (h : text.length ≤ n) (spare : Cells) :
    (stringCells text spare).drop n = (some 0 :: spare).drop (n - text.length) := by
  rw [stringCells, List.drop_append, List.drop_eq_nil_of_le (by simpa using h), length_written,
    List.nil_append]

def converted (name : Cells) (text : List UInt8) : Cells :=
  stringCells text (name.drop 12)

theorem deref_stem (h : ValidStem stem) (cells : Cells) :
    ∃ c, c ≠ 0 ∧ deref (written stem ++ cells) = .ok c := by
  obtain ⟨c, rest, rfl⟩ := List.exists_cons_of_ne_nil h.nonempty
  exact ⟨c, (h.chars c (by simp)).1, rfl⟩

theorem fntos_extension (newExt : List UInt8) (spare : Cells) (hstem : ValidStem stem)
    (hext : SavedExtension extension)
    (hroom : 12 ≤ (stringCells (stem ++ dot :: extension) spare).length) :
    fntos newExt (stringCells (stem ++ dot :: extension) spare) =
      .ok (converted (stringCells (stem ++ dot :: extension) spare)
        (entryName stem extension)) := by
  have hshort := hstem.short
  have hext3 := hext.short
  obtain ⟨c, hc, hderef⟩ := deref_stem hstem (some dot :: stringCells extension spare)
  rw [length_stringCells, List.length_append, List.length_cons] at hroom
  have hcomplete : completeName stem.length
      (extension.map upper ++ List.replicate (3 - extension.length) 0)
      (some dot :: stringCells (extension.map upper) spare) = .ok (stringCells _ _) :=
    completeName_eq hshort (by simp; omega) (by simp; omega)
  have hdrop : (some dot :: stringCells (extension.map upper) spare).drop (12 - stem.length) =
      (stringCells (stem ++ dot :: extension) spare).drop 12 := by
    have hfour : 12 - stem.length = (11 - stem.length) + 1 := by omega
    rw [hfour, List.drop_succ_cons, drop_stringCells (by simp; omega),
      drop_stringCells (by simp; omega)]
    congr 1
    simp
    omega
  rw [fntos, stringCells_append, stringCells_cons, hderef, ok_bind, if_neg hc,
    upperName_append hstem.chars (.inr rfl), ok_bind]
  dsimp only
  rw [deref_cons, ok_bind, if_neg (fun h => absurd h.1 (by decide)), List.drop_succ_cons,
    List.drop_zero, saveExtension_append hext.chars hext3, ok_bind]
  dsimp only
  rw [List.take_succ_cons, List.take_zero, List.singleton_append, length_written, List.length_map,
    hcomplete, hdrop, map_spaceForZero hext.chars, converted, entryName, padTo, padTo]
  simp [stringCells, ok_bind, Pure.pure, Except.pure]

theorem fntos_stem {newExt : List UInt8} (spare : Cells) (hstem : ValidStem stem)
    (hnew : newExt.length = 3) (hzero : 0 ∉ newExt) (hroom : 12 ≤ (stringCells stem spare).length) :
    fntos newExt (stringCells stem spare) =
      .ok (converted (stringCells stem spare) (padTo 8 (stem.map upper) ++ newExt)) := by
  have hshort := hstem.short
  obtain ⟨c, hc, hderef⟩ := deref_stem hstem (some 0 :: spare)
  rw [length_stringCells] at hroom
  have hcomplete : completeName stem.length newExt (some 0 :: spare) = .ok (stringCells _ _) :=
    completeName_eq hshort hnew (by simp; omega)
  have hkeep : newExt.map spaceForZero = newExt := by
    have hchars : ∀ c ∈ newExt, spaceForZero c = c := by
      rintro c hmem
      exact if_neg fun heq : c = 0 => hzero (heq ▸ hmem)
    rw [List.map_congr_left hchars, List.map_id']
  rw [fntos, stringCells, hderef, ok_bind, if_neg hc,
    upperName_append hstem.chars (.inl rfl), ok_bind]
  dsimp only
  rw [deref_cons, ok_bind, length_written, List.length_map, if_pos ⟨rfl, hshort⟩, hcomplete,
    ← drop_stringCells (by omega), hkeep, converted, padTo]
  simp [stringCells, ok_bind, Pure.pure, Except.pure]

theorem length_padTo (h : text.length ≤ n) : (padTo n text).length = n := by
  simp [padTo]
  omega

/-- The two conversions agree on a name with an extension that is saved; they differ on a name
without an extension. They stay inside the string and the twelve cells of the result. -/
theorem fntos_entryName {stem : List UInt8} (hstem : ValidStem stem) (spare : Cells) :
    (∀ extension, SavedExtension extension →
      12 ≤ (stringCells (stem ++ dot :: extension) spare).length →
        fsFntos (stringCells (stem ++ dot :: extension) spare) =
            .ok (converted (stringCells (stem ++ dot :: extension) spare)
              (entryName stem extension)) ∧
          fsFntos2 (stringCells (stem ++ dot :: extension) spare) =
            .ok (converted (stringCells (stem ++ dot :: extension) spare)
              (entryName stem extension))) ∧
      (12 ≤ (stringCells stem spare).length →
        fsFntos (stringCells stem spare) =
            .ok (converted (stringCells stem spare) (padTo 8 (stem.map upper) ++ [66, 73, 78])) ∧
          fsFntos2 (stringCells stem spare) =
            .ok (converted (stringCells stem spare) (entryName stem []))) := by
  constructor
  · intro extension hext hroom
    exact ⟨fntos_extension _ spare hstem hext hroom, fntos_extension _ spare hstem hext hroom⟩
  · intro hroom
    exact ⟨fntos_stem spare hstem rfl (by decide) hroom,
      fntos_stem spare hstem rfl (by decide) hroom⟩

theorem validStem_a : ValidStem [97] where
  nonempty := by simp
  short := by decide
  chars c hc := by
    rw [List.mem_singleton.mp hc]
    decide

theorem savedExtension_b : SavedExtension [98] where
  nonempty := by simp
  short := by decide
  chars c hc := by
    rw [List.mem_singleton.mp hc]
    decide

/-- The name `a.b`, and the name `a`, in arrays of twelve cells. -/
theorem fntos_entryName_example :
    fsFntos (stringCells ([97] ++ dot :: [98]) (List.replicate 8 none)) =
        .ok (converted (stringCells ([97] ++ dot :: [98]) (List.replicate 8 none))
          (entryName [97] [98])) ∧
      fsFntos2 (stringCells [97] (List.replicate 10 none)) =
        .ok (converted (stringCells [97] (List.replicate 10 none)) (entryName [97] [])) :=
  ⟨((fntos_entryName validStem_a (List.replicate 8 none)).1 [98] savedExtension_b (by decide)).1,
    ((fntos_entryName validStem_a (List.replicate 10 none)).2 (by decide)).2⟩

/-- The name `a` without an extension becomes a name with the extension `BIN` in one of the
routines only, and in both of them the name `A.B` loses its extension. -/
theorem conversions_of_a :
    fsFntos (stringCells [97] (List.replicate 10 none)) =
        .ok (stringCells ([65] ++ List.replicate 7 space ++ [66, 73, 78]) []) ∧
      fsFntos (stringCells [97] (List.replicate 10 none)) ≠
          fsFntos2 (stringCells [97] (List.replicate 10 none)) ∧
        fsFntos (stringCells [65, dot, 66] (List.replicate 8 none)) =
            .ok (stringCells ([65] ++ List.replicate 10 space) []) ∧
          fsFntos2 (stringCells [65, dot, 66] (List.replicate 8 none)) =
            .ok (stringCells ([65] ++ List.replicate 10 space) []) := by
  refine ⟨rfl, ?_, rfl, rfl⟩
  intro heq
  have hcells := Except.ok.inj heq
  simp [upper, space, spaceForZero] at hcells

end Gramado.Fs.ShortName
