import Gramado.Fs.ShortName

/-! `stdio_fntos`, the conversion of a file name in the user library, beside the one of the
kernel. -/

namespace Gramado.Rtl.FileName

open Fs.NameLookup (dot space upper)
open Fs.ShortName Library.CheckedRead Library.CellArray

def Small (c : UInt8) : Prop := 97 ≤ c ∧ c ≤ 122

instance (c : UInt8) : Decidable (Small c) := inferInstanceAs (Decidable (_ ∧ _))

def letter (c : UInt8) : UInt8 := if Small c then c - 32 else 0

/-- The loop over the extension, with the rest of `ext` and the cells behind the dot. -/
def saveLetters : Nat → Cells → Except Fault (List UInt8 × Cells)
  | 0, cells => .ok ([], cells)
  | n + 1, some c :: cells =>
      if c = 0 then .ok (List.replicate (n + 1) 0, some c :: cells)
      else do
        let (ext, cells) ← saveLetters n cells
        return (letter c :: ext, some (if Small c then c - 32 else c) :: cells)
  | _ + 1, _ => .error .outside

def stdioFntos (name : Cells) : Except Fault Cells := do
  let (front, cells) ← upperName name
  let (ext, behind) ← saveLetters 3 (cells.drop 1)
  let cells ← put (List.replicate (8 - front.length) space ++ ext ++ [0]) (cells.take 1 ++ behind)
  return front ++ cells

structure ValidExtension (extension : List UInt8) : Prop where
  nonempty : extension ≠ []
  short : extension.length ≤ 3
  chars : ∀ c ∈ extension, c ≠ 0 ∧ c ≠ dot

def fileName (stem : List UInt8) : Option (List UInt8) → List UInt8
  | none => stem
  | some extension => stem ++ dot :: extension

/-- Both conversions turn the name into the same eleven characters, in every array with room for
them; also in one where nothing can be read behind the name. -/
def Agree (name : List UInt8) : Prop :=
  ∀ spare, 12 ≤ (stringCells name spare).length →
    ∃ text, text.length = 11 ∧ 0 ∉ text ∧
      stdioFntos (stringCells name spare) = .ok (converted (stringCells name spare) text) ∧
        fsFntos (stringCells name spare) = .ok (converted (stringCells name spare) text)

section Names

variable {stem extension : List UInt8}

theorem upper_eq (c : UInt8) : (if Small c then c - 32 else c) = upper c := rfl

theorem saveLetters_append (h : ∀ c ∈ extension, c ≠ 0) {n : Nat} (hn : extension.length ≤ n)
    (rest : Cells) :
    saveLetters n (stringCells extension rest) =
      .ok (extension.map letter ++ List.replicate (n - extension.length) 0,
        stringCells (extension.map upper) rest) := by
  induction extension generalizing n with
  | nil =>
      cases n with
      | zero => rfl
      | succ n => exact if_pos rfl
  | cons c extension ih =>
      obtain ⟨n, rfl⟩ : ∃ m, n = m + 1 := ⟨n - 1, by simp at hn; omega⟩
      rw [stringCells_cons, saveLetters, if_neg (h c (by simp)),
        ih (fun d hd => h d (by simp [hd])) (by simpa using hn), upper_eq]
      simp [ok_bind, Pure.pure, Except.pure]

def stdioText (stem extension : List UInt8) : List UInt8 :=
  padTo 8 (stem.map upper) ++
    (extension.map letter ++ List.replicate (3 - extension.length) 0)

theorem stdioFntos_extension (hstem : ValidStem stem) (hext : ValidExtension extension)
    (spare : Cells) (hroom : 12 ≤ (stringCells (stem ++ dot :: extension) spare).length) :
    stdioFntos (stringCells (stem ++ dot :: extension) spare) =
      .ok (converted (stringCells (stem ++ dot :: extension) spare)
        (stdioText stem extension)) := by
  have hshort := hstem.short
  have hext3 := hext.short
  rw [length_stringCells, List.length_append, List.length_cons] at hroom
  have hfill : (List.replicate (8 - stem.length) space ++
      (extension.map letter ++ List.replicate (3 - extension.length) 0) ++ [0]).length =
        12 - stem.length := by
    simp
    omega
  have hput : put (List.replicate (8 - stem.length) space ++
      (extension.map letter ++ List.replicate (3 - extension.length) 0) ++ [0])
        (some dot :: stringCells (extension.map upper) spare) = .ok _ :=
    put_eq (by rw [hfill]; simp; omega)
  have hdrop : (some dot :: stringCells (extension.map upper) spare).drop (12 - stem.length) =
      (stringCells (stem ++ dot :: extension) spare).drop 12 := by
    have hbehind : 12 - stem.length = (11 - stem.length) + 1 := by omega
    rw [hbehind, List.drop_succ_cons, drop_stringCells (by simp; omega),
      drop_stringCells (by simp; omega)]
    congr 1
    simp
    omega
  rw [stdioFntos, stringCells_append, stringCells_cons, upperName_append hstem.chars (.inr rfl),
    ok_bind]
  dsimp only
  rw [List.drop_succ_cons, List.drop_zero, saveLetters_append (fun c hc => (hext.chars c hc).1)
    hext3, ok_bind]
  dsimp only
  rw [List.take_succ_cons, List.take_zero, List.singleton_append, length_written, List.length_map,
    hput, hfill, hdrop, converted, stdioText, padTo]
  simp [stringCells, ok_bind, Pure.pure, Except.pure]

theorem stdioFntos_outside (hstem : ValidStem stem) (n : Nat) :
    stdioFntos (stringCells stem (List.replicate n none)) = .error .outside := by
  rw [stdioFntos, stringCells, upperName_append hstem.chars (.inl rfl), ok_bind]
  cases n with
  | zero => rfl
  | succ n => rfl

theorem letter_ne_zero_iff (c : UInt8) : letter c ≠ 0 ↔ Small c := by
  unfold letter
  split
  · rename_i hsmall
    refine iff_of_true ?_ hsmall
    have hupper := upper_ne_zero (c := c) fun hc => by
      rw [hc] at hsmall
      exact absurd hsmall (by decide)
    rwa [← upper_eq, if_pos hsmall] at hupper
  · rename_i hother
    exact iff_of_false (fun h => h rfl) hother

theorem stdioText_zero_iff (hstem : ValidStem stem) (hshort : extension.length ≤ 3) :
    0 ∉ stdioText stem extension ↔ extension.length = 3 ∧ ∀ c ∈ extension, Small c := by
  have hname : 0 ∉ padTo 8 (stem.map upper) := by
    rw [padTo, List.mem_append, not_or]
    refine ⟨fun h => ?_, fun h => absurd (List.eq_of_mem_replicate h) (by decide)⟩
    obtain ⟨c, hc, hzero⟩ := List.mem_map.mp h
    exact upper_ne_zero (hstem.chars c hc).1 hzero
  have hspare : 0 ∉ List.replicate (3 - extension.length) (0 : UInt8) ↔ extension.length = 3 := by
    have hcount : 3 - extension.length = 0 ↔ extension.length = 3 := by omega
    simpa [List.mem_replicate] using hcount
  have hletters : 0 ∉ extension.map letter ↔ ∀ c ∈ extension, Small c := by
    simp only [List.mem_map, not_exists, not_and, ← letter_ne_zero_iff]
  rw [stdioText, List.mem_append, List.mem_append, not_or, not_or, hletters, hspare]
  exact ⟨fun h => ⟨h.2.2, h.2.1⟩, fun h => ⟨hname, h.2, h.1⟩⟩

theorem converted_inj {name : Cells} {text text' : List UInt8}
    (hlength : text.length = text'.length)
    (h : converted name text = converted name text') : text = text' := by
  have hcells := List.append_inj_left h (by simpa using hlength)
  exact written_injective hcells

theorem stdioText_length (hstem : ValidStem stem) (hshort : extension.length ≤ 3) :
    (stdioText stem extension).length = 11 := by
  have hname : (padTo 8 (stem.map upper)).length = 8 := length_padTo (by simpa using hstem.short)
  rw [stdioText, List.length_append, hname]
  simp
  omega

theorem stdioText_small (h : extension.length = 3) (hsmall : ∀ c ∈ extension, Small c) :
    stdioText stem extension = entryName stem extension := by
  have hletters : extension.map letter = extension.map upper :=
    List.map_congr_left fun c hc => by rw [letter, if_pos (hsmall c hc), ← upper_eq,
      if_pos (hsmall c hc)]
  rw [stdioText, hletters, entryName]
  simp [padTo, h]

end Names

/-- The conversions agree on the names with an extension of three small letters. -/
theorem conversions_agree_iff (stem : List UInt8) (extension : Option (List UInt8))
    (hstem : ValidStem stem) (hext : ∀ e ∈ extension, ValidExtension e) :
    Agree (fileName stem extension) ↔
      ∃ e, extension = some e ∧ e.length = 3 ∧ ∀ c ∈ e, Small c := by
  constructor
  · intro hagree
    cases extension with
    | none =>
        obtain ⟨text, -, -, hstdio, -⟩ := hagree (List.replicate 12 none) (by simp)
        rw [fileName, stdioFntos_outside hstem] at hstdio
        cases hstdio
    | some e =>
        have hvalid := hext e rfl
        have hroom : 12 ≤ (stringCells (stem ++ dot :: e) (List.replicate 12 none)).length := by
          simp
        obtain ⟨text, hlength, hzero, hstdio, -⟩ := hagree (List.replicate 12 none) hroom
        rw [fileName, stdioFntos_extension hstem hvalid _ hroom] at hstdio
        have htext : stdioText stem e = text :=
          converted_inj (by rw [stdioText_length hstem hvalid.short, hlength])
            (Except.ok.inj hstdio)
        rw [← htext, stdioText_zero_iff hstem hvalid.short] at hzero
        exact ⟨e, rfl, hzero⟩
  · rintro ⟨e, rfl, hlength, hsmall⟩ spare hroom
    have hvalid := hext e rfl
    have hsaved : SavedExtension e :=
      ⟨hvalid.nonempty, hvalid.short, fun c hc => .inl (hsmall c hc)⟩
    refine ⟨stdioText stem e, stdioText_length hstem hvalid.short, ?_, ?_, ?_⟩
    · exact (stdioText_zero_iff hstem hvalid.short).mpr ⟨hlength, hsmall⟩
    · exact stdioFntos_extension hstem hvalid spare hroom
    · rw [stdioText_small hlength hsmall]
      exact fntos_extension _ spare hstem hsaved hroom

theorem validExtension_txt : ValidExtension [116, 120, 116] where
  nonempty := by simp
  short := by decide
  chars := by simp [dot]

/-- The name `a.txt`. -/
theorem agree_on_a_txt : Agree [97, 46, 116, 120, 116] :=
  (conversions_agree_iff [97] (some [116, 120, 116]) validStem_a
    fun _ h => Option.some.inj h ▸ validExtension_txt).mpr ⟨_, rfl, rfl, by simp [Small]⟩

/-- The names `a.c`, `A.TXT` and `a` become different strings. -/
theorem disagree : ¬ Agree [97, 46, 99] ∧ ¬ Agree [65, 46, 84, 88, 84] ∧ ¬ Agree [97] := by
  have hdiffer : ∀ name, stdioFntos (stringCells name (List.replicate 12 none)) ≠
      fsFntos (stringCells name (List.replicate 12 none)) → ¬ Agree name := by
    intro name hne hagree
    obtain ⟨text, -, -, hstdio, hfs⟩ := hagree (List.replicate 12 none) (by simp)
    exact hne (hstdio.trans hfs.symm)
  refine ⟨hdiffer _ ?_, hdiffer _ ?_, hdiffer _ ?_⟩
  · decide
  · decide
  · decide

end Gramado.Rtl.FileName
