import Gramado.Fs.ShortName

/-! `to_FAT_name` and `from_FAT_name`, which convert between a string and the eleven characters of
a directory entry. -/

namespace Gramado.Fs.FatName

open Fs.NameLookup
open Fs.ShortName (padTo)
open Library.CheckedRead Library.CellArray

def strcmpEqual : Cells → List UInt8 → Except Fault Bool
  | some c :: cells, d :: text =>
      if c ≠ d then .ok false
      else strcmpEqual cells text
  | some c :: _, [] => .ok (c = 0)
  | _, _ => .error .outside

/-- The characters that the loop over the name copies, at most `n`, and the cells of its
pointer. -/
def copyName : Nat → Cells → Except Fault (List UInt8 × Cells)
  | 0, src => .ok ([], src)
  | n + 1, some c :: src =>
      if c = 0 ∨ c = dot then .ok ([], some c :: src)
      else do
        let (name, src) ← copyName n src
        return (c :: name, src)
  | _ + 1, _ => .error .outside

def copyExtension : Nat → Cells → Except Fault (List UInt8)
  | 0, _ => .ok []
  | n + 1, some c :: src =>
      if c = 0 then .ok []
      else do
        let extension ← copyExtension n src
        return c :: extension
  | _ + 1, _ => .error .outside

def toFATName (src dst : Cells) : Except Fault Cells := do
  if ← strcmpEqual src [dot, dot] then
    -- `strcpy`, and spaces over its null character
    let dst ← put [dot, dot, 0] dst
    put ([dot, dot] ++ List.replicate 9 space) dst
  else if ← strcmpEqual src [dot] then
    let dst ← put [dot, 0] dst
    put ([dot] ++ List.replicate 10 space) dst
  else
    let (name, ptr) ← copyName 8 src
    let c ← deref ptr
    let extension ← copyExtension 3 (if c = dot then ptr.drop 1 else ptr)
    put (padTo 8 name ++ padTo 3 extension) dst

/-- The loop that passes over the spaces at the end of the `n` characters from `first` on: how
many are left. -/
def withoutSpaces (src : Cells) (first : Nat) : Nat → Except Fault Nat
  | 0 => .ok 0
  | n + 1 => do
      let c ← readAt src (first + n)
      if c = space then withoutSpaces src first n else return n + 1

def copyFrom (src : Cells) (first : Nat) : Nat → Except Fault (List UInt8)
  | 0 => .ok []
  | n + 1 => do
      let c ← readAt src first
      let text ← copyFrom src (first + 1) n
      return c :: text

/-- `from_FAT_name`, which returns at once if the destination is an empty string. -/
def fromFATName (src dst : Cells) : Except Fault Cells := do
  let first ← deref src
  if first = 0 then return dst
  else
    let old ← deref dst
    if old = 0 then return dst
    else
      let nameLength ← withoutSpaces src 0 8
      let name ← copyFrom src 0 nameLength
      let text := if first = dot then name else name ++ [dot]
      let dst ← put text dst
      let extensionLength ← withoutSpaces src 8 3
      if extensionLength = 0 then
        let k := text.length
        if k = 1 then return dst.take k ++ (← put [0] (dst.drop k))
        else if (← deref dst) = dot then return dst.take k ++ (← put [0] (dst.drop k))
        else return dst.take (k - 1) ++ (← put [0] (dst.drop (k - 1)))
      else
        let extension ← copyFrom src 8 extensionLength
        return dst.take text.length ++ (← put (extension ++ [0]) (dst.drop text.length))

/-- A name of one to eight characters and an extension of at most three. -/
structure ValidName (stem extension : List UInt8) : Prop where
  nonempty : stem ≠ []
  short : stem.length ≤ 8
  shortExtension : extension.length ≤ 3
  chars : ∀ c ∈ stem ++ extension, c ≠ 0 ∧ c ≠ space ∧ c ≠ dot

def nameText (stem extension : List UInt8) : List UInt8 :=
  if extension = [] then stem else stem ++ dot :: extension

def diskName (stem extension : List UInt8) : List UInt8 :=
  padTo 8 stem ++ padTo 3 extension

variable {stem extension text decoded : List UInt8} {n : Nat} {c d : UInt8} {out : Cells}

theorem length_diskName (hstem : stem.length ≤ 8) (hext : extension.length ≤ 3) :
    (diskName stem extension).length = 11 := by
  rw [diskName, List.length_append, ShortName.length_padTo hstem, ShortName.length_padTo hext]

theorem copyName_append (h : ∀ c ∈ stem, c ≠ 0 ∧ c ≠ dot) (hn : stem.length ≤ n)
    (hc : c = 0 ∨ c = dot) (rest : Cells) :
    copyName n (written stem ++ some c :: rest) = .ok (stem, some c :: rest) := by
  induction stem generalizing n with
  | nil =>
      cases n with
      | zero => rfl
      | succ n => exact if_pos hc
  | cons d stem ih =>
      obtain ⟨n, rfl⟩ : ∃ m, n = m + 1 := ⟨n - 1, by simp at hn; omega⟩
      have hd : ¬ (d = 0 ∨ d = dot) := not_or.mpr (h d (by simp))
      rw [written_cons, List.cons_append, copyName, if_neg hd,
        ih (fun e he => h e (by simp [he])) (by simpa using hn)]
      rfl

theorem copyExtension_string (h : ∀ c ∈ extension, c ≠ 0) (hn : extension.length ≤ n)
    (rest : Cells) :
    copyExtension n (stringCells extension rest) = .ok extension := by
  induction extension generalizing n with
  | nil =>
      cases n with
      | zero => rfl
      | succ n => exact if_pos rfl
  | cons c extension ih =>
      obtain ⟨n, rfl⟩ : ∃ m, n = m + 1 := ⟨n - 1, by simp at hn; omega⟩
      rw [stringCells_cons, copyExtension, if_neg (h c (by simp)),
        ih (fun d hd => h d (by simp [hd])) (by simpa using hn)]
      rfl

theorem strcmpEqual_ne (h : c ≠ d) (cells : Cells) (text : List UInt8) :
    strcmpEqual (some c :: cells) (d :: text) = .ok false :=
  if_pos h

theorem toFATName_split {src : Cells} (c : UInt8) (ptr dst : Cells)
    (hfirst : ∃ d rest, d ≠ dot ∧ src = some d :: rest)
    (hname : copyName 8 src = .ok (stem, some c :: ptr))
    (hext : copyExtension 3 (if c = dot then ptr else some c :: ptr) = .ok extension) :
    toFATName src dst = put (diskName stem extension) dst := by
  obtain ⟨d, rest, hd, rfl⟩ := hfirst
  rw [toFATName, strcmpEqual_ne hd, strcmpEqual_ne hd]
  simp only [ok_bind, Bool.false_eq_true, if_false]
  rw [hname, ok_bind]
  dsimp only
  rw [deref_cons, ok_bind, List.drop_succ_cons, List.drop_zero, hext]
  rfl

theorem toFATName_nameText (h : ValidName stem extension) (spare dst : Cells) :
    toFATName (stringCells (nameText stem extension) spare) dst =
      put (diskName stem extension) dst := by
  have hstem : ∀ c ∈ stem, c ≠ 0 ∧ c ≠ dot := fun c hc =>
    ⟨(h.chars c (by simp [hc])).1, (h.chars c (by simp [hc])).2.2⟩
  have hext : ∀ c ∈ extension, c ≠ 0 := fun c hc => (h.chars c (by simp [hc])).1
  obtain ⟨d, rest, hstemEq⟩ := List.exists_cons_of_ne_nil h.nonempty
  have hd : d ≠ dot := (hstem d (by simp [hstemEq])).2
  rw [nameText]
  split
  · rename_i hnone
    refine toFATName_split 0 spare dst ⟨d, stringCells rest spare, hd, by rw [hstemEq]; rfl⟩
      (copyName_append hstem h.short (.inl rfl) spare) ?_
    rw [hnone, if_neg (by decide)]
    rfl
  · refine toFATName_split dot (stringCells extension spare) dst
      ⟨d, stringCells (rest ++ dot :: extension) spare, hd, by rw [hstemEq]; rfl⟩ ?_ ?_
    · rw [stringCells_append]
      exact copyName_append hstem h.short (.inr rfl) (stringCells extension spare)
    · rw [if_pos rfl]
      exact copyExtension_string hext h.shortExtension spare

theorem withoutSpaces_eq {core : List UInt8} (h : ∀ c ∈ core, c ≠ space) (before : List UInt8)
    (m : Nat) (behind : List UInt8) :
    withoutSpaces (written (before ++ core ++ List.replicate m space ++ behind)) before.length
      (core.length + m) = .ok core.length := by
  induction m generalizing behind with
  | zero =>
      rcases List.eq_nil_or_concat core with rfl | ⟨init, c, rfl⟩
      · rfl
      · have hread : readAt (written (before ++ (init ++ [c]) ++ List.replicate 0 space ++ behind))
            (before.length + init.length) = .ok c := by
          rw [List.replicate_zero, List.append_nil, ← List.append_assoc, List.append_assoc]
          exact readAt_written List.length_append c behind
        rw [List.concat_eq_append, List.length_append, List.length_singleton, Nat.add_zero,
          withoutSpaces, hread, ok_bind, if_neg (h c (by simp))]
        rfl
  | succ m ih =>
      have hcells : written (before ++ core ++ List.replicate (m + 1) space ++ behind) =
          written (before ++ core ++ List.replicate m space ++ (space :: behind)) := by
        rw [List.replicate_succ', List.append_assoc, List.append_assoc, List.append_assoc,
          List.append_assoc]
        simp
      have hread : readAt (written (before ++ core ++ List.replicate m space ++ (space :: behind)))
          (before.length + (core.length + m)) = .ok space :=
        readAt_written (by simp) space behind
      rw [← Nat.add_assoc, withoutSpaces, hcells, hread, ok_bind, if_pos rfl]
      exact ih (space :: behind)

theorem copyFrom_eq (before text behind : List UInt8) :
    copyFrom (written (before ++ text ++ behind)) before.length text.length = .ok text := by
  induction text generalizing before with
  | nil => rfl
  | cons c text ih =>
      have hread : readAt (written (before ++ c :: text ++ behind)) before.length = .ok c := by
        rw [List.append_assoc, List.cons_append]
        exact readAt_written rfl c (text ++ behind)
      have hrest := ih (before ++ [c])
      rw [List.length_append, List.length_singleton, List.append_assoc, List.append_assoc] at hrest
      rw [List.length_cons, copyFrom, hread, ok_bind, List.append_assoc]
      have hcells : written (before ++ (c :: text ++ behind)) =
          written (before ++ ([c] ++ (text ++ behind))) := by simp
      rw [hcells, hrest]
      rfl

section Fields

variable {stem extension : List UInt8} (hstem : ∀ c ∈ stem, c ≠ space) (hshort : stem.length ≤ 8)
  (hext : ∀ c ∈ extension, c ≠ space) (hshortExt : extension.length ≤ 3)

include hstem hshort in
theorem nameLength_diskName (extension : List UInt8) :
    withoutSpaces (written (diskName stem extension)) 0 8 = .ok stem.length := by
  have hlength := withoutSpaces_eq hstem [] (8 - stem.length) (padTo 3 extension)
  rwa [Nat.add_sub_cancel' hshort] at hlength

theorem name_diskName (stem extension : List UInt8) :
    copyFrom (written (diskName stem extension)) 0 stem.length = .ok stem := by
  have hname := copyFrom_eq [] stem (List.replicate (8 - stem.length) space ++ padTo 3 extension)
  rwa [List.nil_append, ← List.append_assoc] at hname

include hshort hext hshortExt in
theorem extensionLength_diskName :
    withoutSpaces (written (diskName stem extension)) 8 3 = .ok extension.length := by
  have hlength := withoutSpaces_eq hext (padTo 8 stem) (3 - extension.length) []
  rwa [Nat.add_sub_cancel' hshortExt, ShortName.length_padTo hshort, List.append_nil,
    List.append_assoc] at hlength

include hshort in
theorem extension_diskName (extension : List UInt8) :
    copyFrom (written (diskName stem extension)) 8 extension.length = .ok extension := by
  have hname := copyFrom_eq (padTo 8 stem) extension
    (List.replicate (3 - extension.length) space)
  rwa [ShortName.length_padTo hshort, List.append_assoc] at hname

end Fields

theorem fromFATName_diskName (h : ValidName stem extension) (hd : d ≠ 0)
    (hroom : (nameText stem extension).length ≤ out.length) :
    ∃ spare, fromFATName (written (diskName stem extension)) (some d :: out) =
      .ok (stringCells (nameText stem extension) spare) := by
  have hstem : ∀ c ∈ stem, c ≠ space := fun c hc => (h.chars c (by simp [hc])).2.1
  have hext : ∀ c ∈ extension, c ≠ space := fun c hc => (h.chars c (by simp [hc])).2.1
  obtain ⟨c, rest, hstemEq⟩ := List.exists_cons_of_ne_nil h.nonempty
  obtain ⟨hzero, -, hdot⟩ := h.chars c (by simp [hstemEq])
  have hfirst : deref (written (diskName stem extension)) = .ok c := by
    rw [hstemEq]
    rfl
  have hput : put (stem ++ [dot]) (some d :: out) =
      .ok (written (stem ++ [dot]) ++ out.drop stem.length) := by
    rw [put_eq]
    · simp
    · rw [nameText] at hroom
      split at hroom
      · simpa using hroom
      · simp at hroom ⊢
        omega
  rw [fromFATName, hfirst, ok_bind, if_neg hzero, deref_cons, ok_bind, if_neg hd,
    nameLength_diskName hstem h.short, ok_bind, name_diskName, ok_bind]
  dsimp only
  rw [if_neg hdot, hput, ok_bind, extensionLength_diskName h.short hext h.shortExtension, ok_bind]
  rw [nameText] at hroom ⊢
  by_cases hnone : extension = []
  · rw [if_pos hnone]
    have htake : (written (stem ++ [dot]) ++ out.drop stem.length).take stem.length =
        written stem := by
      simp
    have hdrop : (written (stem ++ [dot]) ++ out.drop stem.length).drop stem.length =
        some dot :: out.drop stem.length := by
      simp
    have hderef : deref (written (stem ++ [dot]) ++ out.drop stem.length) = .ok c := by
      rw [hstemEq]
      rfl
    refine ⟨out.drop stem.length, ?_⟩
    rw [if_pos (by simp [hnone]), if_neg (by simp [h.nonempty]), hderef, ok_bind, if_neg hdot,
      List.length_append, List.length_singleton, Nat.add_sub_cancel, htake, hdrop]
    rfl
  · rw [if_neg hnone] at hroom ⊢
    have htail : put (extension ++ [0]) (out.drop stem.length) =
        .ok (written (extension ++ [0]) ++ (out.drop stem.length).drop (extension ++ [0]).length) := by
      simp at hroom
      refine put_eq ?_
      simp
      omega
    refine ⟨(out.drop stem.length).drop (extension ++ [0]).length, ?_⟩
    rw [if_neg (by simpa using hnone), extension_diskName h.short, ok_bind,
      List.take_left' (length_written _), List.drop_left' (length_written _), htail]
    simp [stringCells, ok_bind, Pure.pure, Except.pure]

theorem fromFATName_empty (hc : c ≠ 0) (src out : Cells) :
    fromFATName (some c :: src) (some 0 :: out) = .ok (some 0 :: out) := by
  rw [fromFATName, deref_cons, ok_bind, if_neg hc, deref_cons, ok_bind, if_pos rfl]
  rfl

def IsDots (text : List UInt8) : Prop := text = [dot] ∨ text = [dot, dot]

theorem toFATName_dots (h : IsDots text) (spare : Cells) {dst : Cells} (hdst : 11 ≤ dst.length) :
    toFATName (stringCells text spare) dst = put (diskName text []) dst := by
  rcases h with rfl | rfl
  · have hfirst : put [dot, 0] dst = .ok (written [dot, 0] ++ dst.drop 2) :=
      put_eq (Nat.le_trans (by decide) hdst)
    have hequal : strcmpEqual (stringCells [dot] spare) [dot, dot] = .ok false := rfl
    have hequal' : strcmpEqual (stringCells [dot] spare) [dot] = .ok true := rfl
    rw [toFATName, hequal, ok_bind, if_neg (by decide), hequal', ok_bind, if_pos rfl, hfirst,
      ok_bind]
    exact put_over (by decide) (Nat.le_trans (by decide) hdst)
  · have hfirst : put [dot, dot, 0] dst = .ok (written [dot, dot, 0] ++ dst.drop 3) :=
      put_eq (Nat.le_trans (by decide) hdst)
    have hequal : strcmpEqual (stringCells [dot, dot] spare) [dot, dot] = .ok true := rfl
    rw [toFATName, hequal, ok_bind, if_pos rfl, hfirst, ok_bind]
    exact put_over (by decide) (Nat.le_trans (by decide) hdst)

theorem fromFATName_dots (h : IsDots text) (hd : d ≠ 0) (hroom : 2 ≤ out.length) :
    ∃ spare, fromFATName (written (diskName text [])) (some d :: out) =
      .ok (stringCells text spare) := by
  obtain ⟨a, b, rest, rfl⟩ : ∃ a b rest, out = a :: b :: rest := by
    rcases out with _ | ⟨a, _ | ⟨b, rest⟩⟩
    · simp at hroom
    · simp at hroom
    · exact ⟨a, b, rest, rfl⟩
  have hfirst : deref (written (diskName text [])) = .ok dot := by
    rcases h with rfl | rfl
    · rfl
    · rfl
  rw [fromFATName, hfirst, ok_bind, if_neg (by decide), deref_cons, ok_bind, if_neg hd]
  rcases h with rfl | rfl
  · exact ⟨b :: rest, rfl⟩
  · exact ⟨rest, rfl⟩

def Decodes (text : List UInt8) (spare dst out : Cells) (decoded : List UInt8) : Prop :=
  ∃ x cells, toFATName (stringCells text spare) dst = .ok x ∧ fromFATName x out = .ok cells ∧
    HoldsString cells decoded

def Encodes (x : List UInt8) (out dst : Cells) : Prop :=
  ∃ cells, fromFATName (written x) out = .ok cells ∧ toFATName cells dst = .ok (written x)

def OnDisk (x : List UInt8) : Prop :=
  (∃ stem extension, ValidName stem extension ∧ x = diskName stem extension) ∨
    ∃ text, IsDots text ∧ x = diskName text []

def HasLower (text : List UInt8) : Prop := ∃ c ∈ text, 97 ≤ c ∧ c ≤ 122

theorem map_upper_eq_iff (text : List UInt8) : text.map upper = text ↔ ¬ HasLower text := by
  have hchar : ∀ c, upper c = c ↔ ¬ (97 ≤ c ∧ c ≤ 122) := by
    intro c
    rw [upper]
    split
    · rename_i hlower
      refine iff_of_false ?_ (not_not_intro hlower)
      intro heq
      have hlow : (32 : UInt8) ≤ c := UInt8.le_trans (by decide) hlower.1
      have hsub := UInt8.toNat_sub_of_le c 32 hlow
      rw [heq] at hsub
      have hle := UInt8.le_iff_toNat_le.mp hlow
      have h32 : (32 : UInt8).toNat = 32 := rfl
      omega
    · rename_i hlower
      exact iff_of_true rfl hlower
  have hmap : text.map upper = text ↔ ∀ c ∈ text, upper c = c := by
    constructor
    · intro heq c hc
      have hid : text.map upper = text.map id := by rw [heq, List.map_id]
      exact List.map_inj_left.mp hid c hc
    · intro hall
      rw [List.map_congr_left hall, List.map_id']
  rw [hmap]
  simp [HasLower, hchar]

theorem nameText_ne_nil (h : ValidName stem extension) : nameText stem extension ≠ [] := by
  rw [nameText]
  split
  · exact h.nonempty
  · simp

theorem zero_notMem_nameText (h : ValidName stem extension) : 0 ∉ nameText stem extension := by
  have hzero : 0 ∉ stem ++ extension := fun hmem => (h.chars 0 hmem).1 rfl
  rw [List.mem_append, not_or] at hzero
  rw [nameText]
  split
  · exact hzero.1
  · simp only [List.mem_append, List.mem_cons, not_or]
    exact ⟨hzero.1, by decide, hzero.2⟩

theorem length_nameText_le (h : ValidName stem extension) :
    (nameText stem extension).length ≤ 12 := by
  have hshort := h.short
  have hext := h.shortExtension
  rw [nameText]
  split
  · omega
  · simp
    omega

theorem diskName_head (hne : stem ≠ []) (hchars : ∀ c ∈ stem, c ≠ 0 ∧ c ≠ space)
    (extension : List UInt8) :
    ∃ c rest, c ≠ 0 ∧ c ≠ space ∧ diskName stem extension = c :: rest := by
  obtain ⟨c, rest, rfl⟩ := List.exists_cons_of_ne_nil hne
  exact ⟨c, _, (hchars c (by simp)).1, (hchars c (by simp)).2, rfl⟩

theorem ValidName.head (h : ValidName stem extension) :
    ∃ c rest, c ≠ 0 ∧ c ≠ space ∧ diskName stem extension = c :: rest :=
  diskName_head h.nonempty (fun c hc =>
    ⟨(h.chars c (by simp [hc])).1, (h.chars c (by simp [hc])).2.1⟩) extension

theorem IsDots.head (h : IsDots text) :
    ∃ c rest, c ≠ 0 ∧ c ≠ space ∧ diskName text [] = c :: rest := by
  rcases h with rfl | rfl
  · exact ⟨dot, _, by decide, by decide, rfl⟩
  · exact ⟨dot, _, by decide, by decide, rfl⟩

section RoundTrips

variable {dst out spare : Cells} {text x : List UInt8} {d : UInt8}

theorem put_diskName (hstem : stem.length ≤ 8) (hext : extension.length ≤ 3)
    (hdst : dst.length = 11) :
    put (diskName stem extension) dst = .ok (written (diskName stem extension)) := by
  have hlength := length_diskName hstem hext
  rw [put_eq (by omega), List.drop_eq_nil_of_le (by omega), List.append_nil]

theorem not_decodes_empty (hne : decoded ≠ []) (hhead : ∃ c rest, c ≠ 0 ∧ c ≠ space ∧ x = c :: rest)
    (hencode : toFATName (stringCells text spare) dst = .ok (written x)) :
    ¬ Decodes text spare dst (some 0 :: out) decoded := by
  rintro ⟨y, cells, hy, hcells, hstring⟩
  obtain ⟨c, rest, hc, -, rfl⟩ := hhead
  obtain rfl := Except.ok.inj (hencode.symm.trans hy)
  rw [written_cons, fromFATName_empty hc] at hcells
  obtain rfl := Except.ok.inj hcells
  have hempty : HoldsString (some 0 :: out) [] := ⟨by simp, out, rfl⟩
  exact hne (hstring.unique hempty)

theorem decodes_iff_eq (hzero : 0 ∉ text)
    (hencode : toFATName (stringCells text spare) dst = .ok (written x))
    (hdecode : ∃ spare', fromFATName (written x) out = .ok (stringCells text spare')) :
    Decodes text spare dst out decoded ↔ decoded = text := by
  obtain ⟨spare', hdecode⟩ := hdecode
  have hholds : HoldsString (stringCells text spare') text := ⟨hzero, spare', rfl⟩
  constructor
  · rintro ⟨y, cells, hy, hcells, hstring⟩
    obtain rfl := Except.ok.inj (hencode.symm.trans hy)
    obtain rfl := Except.ok.inj (hdecode.symm.trans hcells)
    exact hstring.unique hholds
  · rintro rfl
    exact ⟨_, _, hencode, hdecode, hholds⟩

theorem not_encodes_empty (hhead : ∃ c rest, c ≠ 0 ∧ c ≠ space ∧ x = c :: rest)
    (hdst : dst.length = 11) : ¬ Encodes x (some 0 :: out) dst := by
  rintro ⟨cells, hcells, hencode⟩
  obtain ⟨c, rest, hc, hspace, rfl⟩ := hhead
  rw [written_cons, fromFATName_empty hc] at hcells
  obtain rfl := Except.ok.inj hcells
  have hsplit : toFATName (some 0 :: out) dst = put (diskName [] []) dst :=
    toFATName_split 0 out dst ⟨0, out, by decide, rfl⟩ rfl rfl
  rw [hsplit, put_diskName (by decide) (by decide) hdst] at hencode
  have hspaces := written_injective (Except.ok.inj hencode)
  exact hspace (List.cons.inj hspaces).1.symm

theorem encodes_of (hencode : ∀ spare, toFATName (stringCells text spare) dst = .ok (written x))
    (hdecode : ∃ spare', fromFATName (written x) out = .ok (stringCells text spare')) :
    Encodes x out dst := by
  obtain ⟨spare', hdecode⟩ := hdecode
  exact ⟨_, hdecode, hencode spare'⟩

theorem toFATName_valid (h : ValidName stem extension) (spare : Cells) (hdst : dst.length = 11) :
    toFATName (stringCells (nameText stem extension) spare) dst =
      .ok (written (diskName stem extension)) := by
  rw [toFATName_nameText h, put_diskName h.short h.shortExtension hdst]

theorem toFATName_isDots (h : IsDots text) (spare : Cells) (hdst : dst.length = 11) :
    toFATName (stringCells text spare) dst = .ok (written (diskName text [])) := by
  have hshort : text.length ≤ 8 := by
    rcases h with rfl | rfl
    · decide
    · decide
  rw [toFATName_dots h spare (by omega), put_diskName hshort (by decide) hdst]

theorem decodes_upper_iff (h : ValidName stem extension) (hdst : dst.length = 11)
    (hroom : 12 ≤ out.length) :
    Decodes (nameText stem extension) spare dst (some d :: out)
        ((nameText stem extension).map upper) ↔
      d ≠ 0 ∧ ¬ HasLower (nameText stem extension) := by
  have hencode := toFATName_valid h spare hdst
  rcases eq_or_ne d 0 with rfl | hd
  · have hne : (nameText stem extension).map upper ≠ [] := by simpa using nameText_ne_nil h
    exact iff_of_false (not_decodes_empty hne h.head hencode) fun hcond => hcond.1 rfl
  · rw [decodes_iff_eq (zero_notMem_nameText h) hencode
      (fromFATName_diskName h hd (Nat.le_trans (length_nameText_le h) hroom)),
      map_upper_eq_iff, and_iff_right hd]

theorem decodes_dots_iff (h : IsDots text) (hdst : dst.length = 11) (hroom : 12 ≤ out.length) :
    Decodes text spare dst (some d :: out) text ↔ d ≠ 0 := by
  have hencode := toFATName_isDots h spare hdst
  have hchars : text ≠ [] ∧ 0 ∉ text := by
    rcases h with rfl | rfl
    · decide
    · decide
  rcases eq_or_ne d 0 with rfl | hd
  · exact iff_of_false (not_decodes_empty hchars.1 h.head hencode) fun hne => hne rfl
  · rw [decodes_iff_eq hchars.2 hencode (fromFATName_dots h hd (by omega))]
    exact iff_of_true rfl hd

theorem encodes_iff (h : OnDisk x) (hdst : dst.length = 11) (hroom : 12 ≤ out.length) :
    Encodes x (some d :: out) dst ↔ d ≠ 0 := by
  have hhead : ∃ c rest, c ≠ 0 ∧ c ≠ space ∧ x = c :: rest := by
    rcases h with ⟨stem, extension, hvalid, rfl⟩ | ⟨text, hdots, rfl⟩
    · exact hvalid.head
    · exact hdots.head
  rcases eq_or_ne d 0 with rfl | hd
  · exact iff_of_false (not_encodes_empty hhead hdst) fun hne => hne rfl
  · refine iff_of_true ?_ hd
    rcases h with ⟨stem, extension, hvalid, rfl⟩ | ⟨text, hdots, rfl⟩
    · exact encodes_of (fun spare => toFATName_valid hvalid spare hdst)
        (fromFATName_diskName hvalid hd (Nat.le_trans (length_nameText_le hvalid) hroom))
    · exact encodes_of (fun spare => toFATName_isDots hdots spare hdst)
        (fromFATName_dots hdots hd (by omega))

end RoundTrips

/-- The codec makes its round trips exactly if the destination of `from_FAT_name` does not begin
with a null character and, for upper case, the name has no lower case letter. -/
theorem codec_iff {dst out : Cells} (spare : Cells) (d : UInt8) (hdst : dst.length = 11)
    (hroom : 12 ≤ out.length) :
    (∀ stem extension, ValidName stem extension →
      (Decodes (nameText stem extension) spare dst (some d :: out)
          ((nameText stem extension).map upper) ↔
        d ≠ 0 ∧ ¬ HasLower (nameText stem extension))) ∧
      (∀ text, IsDots text → (Decodes text spare dst (some d :: out) text ↔ d ≠ 0)) ∧
        ∀ x, OnDisk x → (Encodes x (some d :: out) dst ↔ d ≠ 0) :=
  ⟨fun _ _ h => decodes_upper_iff h hdst hroom, fun _ h => decodes_dots_iff h hdst hroom,
    fun _ h => encodes_iff h hdst hroom⟩

theorem validName_ab : ValidName [65] [66] where
  nonempty := by simp
  short := by decide
  shortExtension := by decide
  chars c hc := by
    simp only [List.singleton_append, List.mem_cons, List.not_mem_nil, or_false] at hc
    rcases hc with rfl | rfl
    · decide
    · decide

/-- The name `A.B`, with a destination that holds another name. -/
theorem codec_iff_example :
    Decodes (nameText [65] [66]) [] (List.replicate 11 none)
        (some 88 :: List.replicate 12 none) ((nameText [65] [66]).map upper) ↔
      (88 : UInt8) ≠ 0 ∧ ¬ HasLower (nameText [65] [66]) :=
  (codec_iff [] 88 (List.length_replicate ..) (by decide)).1 [65] [66] validName_ab

/-- The name `A.B` is lost in a destination of zeros, and the name `a` is not changed to upper
case. -/
theorem codec_of_names :
    ¬ Decodes (nameText [65] [66]) [] (List.replicate 11 none) (List.replicate 13 (some 0))
        ((nameText [65] [66]).map upper) ∧
      ¬ Encodes (diskName [65] [66]) (List.replicate 13 (some 0)) (List.replicate 11 none) ∧
        ¬ Decodes (nameText [97] []) [] (List.replicate 11 none)
          (List.replicate 13 (some 88)) ((nameText [97] []).map upper) := by
  have hvalid : ValidName [97] [] :=
    ⟨by simp, by decide, by decide, fun c hc => by
      rw [List.append_nil, List.mem_singleton] at hc
      subst hc
      decide⟩
  refine ⟨?_, ?_, ?_⟩
  · intro hdecodes
    exact ((decodes_upper_iff validName_ab (d := 0) (List.length_replicate ..)
      (List.length_replicate ..).ge).mp hdecodes).1 rfl
  · intro hencodes
    exact (encodes_iff (d := 0) (.inl ⟨_, _, validName_ab, rfl⟩) (List.length_replicate ..)
      (List.length_replicate ..).ge).mp hencodes rfl
  · intro hdecodes
    exact ((decodes_upper_iff hvalid (d := 88) (List.length_replicate ..)
      (List.length_replicate ..).ge).mp hdecodes).2 ⟨97, by simp [nameText], by decide⟩

end Gramado.Fs.FatName
