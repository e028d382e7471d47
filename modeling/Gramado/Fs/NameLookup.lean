import Gramado.Fs.LoadFile
import Mathlib.Data.List.Find
import Mathlib.Data.List.GetD
import Mathlib.Data.List.TakeWhile

/-! The three searches of a directory that opening a file makes: `search_in_dir`,
`fsGetFileSize` and `fsLoadFile`, and the conversion of the name before them. -/

namespace Gramado.Fs.NameLookup

open Fs.Fat16 Fs.LoadFile

def FAT_DIRECTORY_ENTRY_FREE : UInt8 := 0xE5
def dot : UInt8 := 46
def slash : UInt8 := 47
def space : UInt8 := 32

def chars (name : List UInt8) (k : Nat) : UInt8 := name.getD k 0

def upper (c : UInt8) : UInt8 :=
  if 97 ≤ c ∧ c ≤ 122 then c - 32 else c

/-- The characters that an extension keeps besides letters and digits: `$%-_(){}`. -/
def isSpecial (c : UInt8) : Bool :=
  c = 36 ∨ c = 37 ∨ c = 45 ∨ c = 95 ∨ c = 40 ∨ c = 41 ∨ c = 123 ∨ c = 125

/-- What is saved of a character of the extension, and a space for one that is not saved. -/
def extChar (c : UInt8) : UInt8 :=
  if 97 ≤ c ∧ c ≤ 122 then c - 32
  else if isSpecial c = true ∨ (48 ≤ c ∧ c ≤ 57) then c
  else space

/-- `fs_fntos2`: the name in upper case, filled up to eight characters, and the extension. -/
def fsFntos2 (name : List UInt8) : List UInt8 :=
  if name = [] then []
  else
    let front := (name.takeWhile (· ≠ dot)).map upper
    let extension := ((name.dropWhile (· ≠ dot)).drop 1).map extChar
    front ++ List.replicate (8 - front.length) space ++
      (extension ++ List.replicate 3 space).take 3

/-- `kstrncmp` from a position on, with so many characters left. -/
def kstrncmp (s1 s2 : Nat → UInt8) : Nat → Nat → Int
  | 0, i => if s1 i ≠ 0 ∨ s2 i ≠ 0 then 2 else 0
  | n + 1, i => if s1 i ≠ s2 i then 1 else kstrncmp s1 s2 n (i + 1)

def entryCopy (dir : Nat → UInt8) (i n k : Nat) : UInt8 :=
  if k < n then dir (FAT16_ENTRY_SIZE * i + k) else 0

/-- `Name_Desired`, which `strncpy` has filled up with null characters. -/
def nameDesired (name : List UInt8) (k : Nat) : UInt8 :=
  if k < 11 then chars name k else 0

def searchInDir (dir : Nat → UInt8) (name : List UInt8) : Option Nat :=
  if chars name 0 = 0 then none
  else if 11 < name.length then none
  else if chars name 0 = slash then none
  else
    (List.range 512).find? fun i =>
      dir (FAT16_ENTRY_SIZE * i) ≠ FAT_DIRECTORY_ENTRY_FREE ∧ dir (FAT16_ENTRY_SIZE * i) ≠ dot ∧
        dir (FAT16_ENTRY_SIZE * i) ≠ 0 ∧
          kstrncmp (nameDesired name) (entryCopy dir i 11) 11 0 = 0

/-- The comparison that the other two make with an entry that does not begin with two null
characters. -/
def comparesEqual (dir : Nat → UInt8) (name : List UInt8) (n i : Nat) : Bool :=
  littleEndian (dir (FAT16_ENTRY_SIZE * i)) (dir (FAT16_ENTRY_SIZE * i + 1)) ≠ 0 ∧
    kstrncmp (chars name) (entryCopy dir i n) n 0 = 0

def sizeEntry (dir : Nat → UInt8) (name : List UInt8) (max : Nat) : Option Nat :=
  if chars name 0 = 0 then none
  else (List.range max).find? (comparesEqual dir name (min name.length 11))

def loadEntry (dir : Nat → UInt8) (name : List UInt8) : Option Nat :=
  if chars name 0 = 0 then none
  else if 11 < name.length then none
  else (List.range FAT16_ROOT_ENTRIES).find? (comparesEqual dir name name.length)

variable {k : Nat} {c : UInt8} {name : List UInt8} {dir : Nat → UInt8}

theorem kstrncmp_eq_zero {s1 s2 : Nat → UInt8} {n i : Nat} : kstrncmp s1 s2 n i = 0 ↔
      (∀ k < n, s1 (i + k) = s2 (i + k)) ∧ s1 (i + n) = 0 ∧ s2 (i + n) = 0 := by
  induction n generalizing i with
  | zero =>
      rw [kstrncmp, Nat.add_zero]
      by_cases h : s1 i ≠ 0 ∨ s2 i ≠ 0
      · rw [if_pos h]
        rcases h with h | h
        · simp [h]
        · simp [h]
      · rw [if_neg h]
        rw [not_or, not_not, not_not] at h
        simp [h]
  | succ n ih =>
      rw [kstrncmp]
      by_cases h : s1 i ≠ s2 i
      · rw [if_pos h]
        simp only [one_ne_zero, false_iff, not_and]
        intro hall
        exact absurd (hall 0 (Nat.succ_pos n)) h
      · rw [if_neg h, ih]
        rw [not_not] at h
        have hshift : ∀ k, i + 1 + k = i + (k + 1) := fun k => by omega
        simp only [hshift]
        apply and_congr_left
        intro _
        constructor
        · rintro hall (_ | k) hk
          · exact h
          · exact hall k (Nat.lt_of_succ_lt_succ hk)
        · intro hall k hk
          exact hall (k + 1) (Nat.succ_lt_succ hk)

def characters (name : CString) : List UInt8 :=
  (List.range name.length).map name.chars

def IsName (dir : Nat → UInt8) (name : List UInt8) (i : Nat) : Prop :=
  name.length = 11 ∧ ∀ k < 11, dir (FAT16_ENTRY_SIZE * i + k) = chars name k

instance (dir : Nat → UInt8) (name : List UInt8) (i : Nat) : Decidable (IsName dir name i) :=
  inferInstanceAs (Decidable (_ ∧ _))

structure Converted (name : List UInt8) : Prop where
  nonzero : ∀ c ∈ name, c ≠ 0
  head : chars name 0 ≠ dot
  length : name = [] ∨ 11 ≤ name.length

theorem toNat_upper (h : 97 ≤ c ∧ c ≤ 122) : 65 ≤ (c - 32).toNat := by
  have hlow : 97 ≤ c.toNat := UInt8.le_iff_toNat_le.mp h.1
  have hle : (32 : UInt8) ≤ c := UInt8.le_iff_toNat_le.mpr (by change 32 ≤ c.toNat; omega)
  rw [UInt8.toNat_sub_of_le _ _ hle]
  change 65 ≤ c.toNat - 32
  omega

theorem ne_of_letter {d : UInt8} (h : 97 ≤ c ∧ c ≤ 122) (hd : d.toNat < 65) : c - 32 ≠ d := by
  have hletter := toNat_upper h
  rintro rfl
  omega

theorem upper_ne (h : c ≠ 0) (hdot : c ≠ dot) : upper c ≠ 0 ∧ upper c ≠ dot := by
  unfold upper
  split
  · rename_i hletter
    exact ⟨ne_of_letter hletter (by decide), ne_of_letter hletter (by decide)⟩
  · exact ⟨h, hdot⟩

theorem extChar_ne (c : UInt8) : extChar c ≠ 0 := by
  unfold extChar
  split
  · rename_i hletter
    exact ne_of_letter hletter (by decide)
  split
  · rename_i hkept
    rintro rfl
    exact absurd hkept (by decide)
  · decide

theorem converted_fsFntos2 {path : List UInt8} (h : ∀ c ∈ path, c ≠ 0) :
    Converted (fsFntos2 path) := by
  by_cases hpath : path = []
  · rw [hpath]
    exact ⟨by simp [fsFntos2], by decide, .inl rfl⟩
  have hfront : ∀ c ∈ (path.takeWhile (· ≠ dot)).map upper, c ≠ 0 ∧ c ≠ dot := by
    intro c hc
    obtain ⟨b, hb, rfl⟩ := List.mem_map.mp hc
    have hdot := List.mem_takeWhile_imp hb
    rw [decide_eq_true_eq] at hdot
    exact upper_ne (h b ((List.takeWhile_sublist _).subset hb)) hdot
  have hextension : ∀ c ∈ ((path.dropWhile (· ≠ dot)).drop 1).map extChar, c ≠ 0 := by
    intro c hc
    obtain ⟨b, _, rfl⟩ := List.mem_map.mp hc
    exact extChar_ne b
  rw [fsFntos2, if_neg hpath]
  dsimp only
  generalize (path.takeWhile (· ≠ dot)).map upper = front at hfront
  generalize ((path.dropWhile (· ≠ dot)).drop 1).map extChar = extension at hextension
  refine ⟨?_, ?_, .inr ?_⟩
  · intro c hc
    simp only [List.mem_append, List.mem_replicate] at hc
    rcases hc with (hc | ⟨_, rfl⟩) | hc
    · exact (hfront c hc).1
    · decide
    · have hmem := List.mem_of_mem_take hc
      rw [List.mem_append, List.mem_replicate] at hmem
      rcases hmem with hmem | ⟨_, rfl⟩
      · exact hextension c hmem
      · decide
  · rcases front with _ | ⟨c, front⟩
    · have hspace : space ≠ dot := by decide
      exact hspace
    · exact (hfront c List.mem_cons_self).2
  · simp only [List.length_append, List.length_replicate, List.length_take]
    omega

theorem chars_ne (h : ∀ c ∈ name, c ≠ 0) (hk : k < name.length) : chars name k ≠ 0 := by
  rw [chars, List.getD_eq_getElem _ _ hk]
  exact h _ (List.getElem_mem hk)

theorem chars_length (name : List UInt8) : chars name name.length = 0 :=
  List.getD_eq_default _ _ (Nat.le_refl _)

theorem littleEndian_ne {low high : UInt8} (h : low ≠ 0) : littleEndian low high ≠ 0 := by
  intro heq
  apply h
  have hnat := congrArg UInt16.toNat heq
  have hlow := low.toNat_lt
  have hhigh := high.toNat_lt
  rw [littleEndian, UInt16.toNat_ofNat'] at hnat
  apply UInt8.toNat_inj.mp
  change low.toNat = 0
  change _ = 0 at hnat
  omega

theorem comparesEqual_iff (h : ∀ c ∈ name, c ≠ 0) (hlength : name.length = 11) (i : Nat) :
    comparesEqual dir name 11 i = true ↔ IsName dir name i := by
  have hend : chars name 11 = 0 := hlength ▸ chars_length name
  rw [comparesEqual, decide_eq_true_eq, kstrncmp_eq_zero]
  simp only [Nat.zero_add]
  constructor
  · rintro ⟨_, hall, _⟩
    refine ⟨hlength, fun k hk => ?_⟩
    rw [hall k hk, entryCopy, if_pos hk]
  · rintro ⟨_, hall⟩
    refine ⟨?_, fun k hk => ?_, hend, if_neg (by omega)⟩
    · have hfirst := hall 0 (by omega)
      rw [Nat.add_zero] at hfirst
      rw [hfirst]
      exact littleEndian_ne (chars_ne h (by omega))
    · rw [entryCopy, if_pos hk, hall k hk]

theorem searchInDir_eq (h : Converted name) (hlength : name.length = 11)
    (hslash : chars name 0 ≠ slash) (hfree : chars name 0 ≠ FAT_DIRECTORY_ENTRY_FREE) :
    searchInDir dir name = (List.range 512).find? fun i => IsName dir name i := by
  have hfirst : chars name 0 ≠ 0 := chars_ne h.nonzero (by omega)
  rw [searchInDir, if_neg hfirst, if_neg (by omega), if_neg hslash]
  apply List.find?_congr
  intro i _
  rw [decide_eq_decide, kstrncmp_eq_zero]
  simp only [Nat.zero_add]
  have hdesired : ∀ k < 11, nameDesired name k = chars name k := fun k hk => if_pos hk
  constructor
  · rintro ⟨_, _, _, hall, _⟩
    refine ⟨hlength, fun k hk => ?_⟩
    rw [← hdesired k hk, hall k hk, entryCopy, if_pos hk]
  · rintro ⟨_, hall⟩
    have hsame := hall 0 (by omega)
    rw [Nat.add_zero] at hsame
    rw [hsame]
    refine ⟨hfree, h.head, hfirst, fun k hk => ?_, if_neg (by omega), if_neg (by omega)⟩
    rw [hdesired k hk, entryCopy, if_pos hk, hall k hk]

theorem searchInDir_none (h : chars name 0 = slash ∨ chars name 0 = FAT_DIRECTORY_ENTRY_FREE) :
    searchInDir dir name = none := by
  unfold searchInDir
  split
  · rfl
  split
  · rfl
  split
  · rfl
  rename_i hslash
  rw [List.find?_eq_none]
  intro i _ hfound
  rw [decide_eq_true_eq, kstrncmp_eq_zero] at hfound
  obtain ⟨hfree, _, _, hall, _⟩ := hfound
  have hfirst := hall 0 (by omega)
  rw [nameDesired, if_pos (by omega), entryCopy, if_pos (by omega)] at hfirst
  rcases h with h | h
  · exact hslash h
  · exact hfree (hfirst.symm.trans h)

def Agree (dir : Nat → UInt8) (name : List UInt8) : Prop :=
  searchInDir dir name = sizeEntry dir name FAT16_ROOT_ENTRIES ∧
    sizeEntry dir name FAT16_ROOT_ENTRIES = loadEntry dir name

/-- An entry that one of the searches finds has the name, not only its beginning. -/
def Whole (dir : Nat → UInt8) (name : List UInt8) : Prop :=
  ∀ i, searchInDir dir name = some i ∨ sizeEntry dir name FAT16_ROOT_ENTRIES = some i ∨
    loadEntry dir name = some i → IsName dir name i

theorem none_of_length (dir : Nat → UInt8) (h : Converted name) (hlength : name.length ≠ 11) :
    searchInDir dir name = none ∧ sizeEntry dir name FAT16_ROOT_ENTRIES = none ∧
      loadEntry dir name = none := by
  rcases h.length with rfl | hlong
  · exact ⟨rfl, rfl, rfl⟩
  have hfirst : chars name 0 ≠ 0 := chars_ne h.nonzero (by omega)
  have hmin : min name.length 11 = 11 := by omega
  refine ⟨?_, ?_, ?_⟩
  · rw [searchInDir, if_neg hfirst, if_pos (by omega)]
  · -- The name is cut for the copy but not for the comparison.
    rw [sizeEntry, if_neg hfirst, hmin, List.find?_eq_none]
    intro i _ hfound
    rw [comparesEqual, decide_eq_true_eq, kstrncmp_eq_zero] at hfound
    exact chars_ne h.nonzero (by omega) hfound.2.2.1
  · rw [loadEntry, if_neg hfirst, if_pos (by omega)]

theorem sizeEntry_eq (dir : Nat → UInt8) (h : Converted name) (hlength : name.length = 11) :
    sizeEntry dir name FAT16_ROOT_ENTRIES =
      (List.range FAT16_ROOT_ENTRIES).find? fun i => IsName dir name i := by
  have hmin : min name.length 11 = 11 := by omega
  rw [sizeEntry, if_neg (chars_ne h.nonzero (by omega)), hmin]
  apply List.find?_congr
  intro i _
  rw [Bool.eq_iff_iff, comparesEqual_iff h.nonzero hlength, decide_eq_true_eq]

theorem loadEntry_eq (dir : Nat → UInt8) (h : Converted name) (hlength : name.length = 11) :
    loadEntry dir name = (List.range FAT16_ROOT_ENTRIES).find? fun i => IsName dir name i := by
  have hmin : min name.length 11 = name.length := by omega
  rw [← sizeEntry_eq dir h hlength, loadEntry, sizeEntry, hmin,
    if_neg (chars_ne h.nonzero (by omega)), if_neg (chars_ne h.nonzero (by omega)),
    if_neg (by omega)]

/-- Opening a path makes the three searches agree on an entry of that whole name, unless the
name begins with the mark of a free entry, or with a slash, and an entry has that name. -/
theorem lookups_agree_iff {dir : Nat → UInt8} {path : List UInt8} (h : ∀ c ∈ path, c ≠ 0) :
    Agree dir (fsFntos2 path) ∧ Whole dir (fsFntos2 path) ↔
      (chars (fsFntos2 path) 0 ≠ FAT_DIRECTORY_ENTRY_FREE ∧ chars (fsFntos2 path) 0 ≠ slash) ∨
        ∀ i < FAT16_ROOT_ENTRIES, ¬IsName dir (fsFntos2 path) i := by
  have hname := converted_fsFntos2 h
  generalize fsFntos2 path = name at hname ⊢
  by_cases hlength : name.length = 11
  · have hsize := sizeEntry_eq dir hname hlength
    have hload := loadEntry_eq dir hname hlength
    have hfound : ∀ i, (List.range FAT16_ROOT_ENTRIES).find? (fun i => IsName dir name i) =
        some i → IsName dir name i := by
      intro i hi
      have hname := List.find?_some hi
      rwa [decide_eq_true_eq] at hname
    rw [Agree, Whole, hsize, hload]
    by_cases hhead : chars name 0 = slash ∨ chars name 0 = FAT_DIRECTORY_ENTRY_FREE
    · rw [searchInDir_none hhead]
      constructor
      · rintro ⟨⟨hnone, _⟩, _⟩
        right
        intro i hi
        have hall := List.find?_eq_none.mp hnone.symm i (List.mem_range.mpr hi)
        rwa [decide_eq_true_eq] at hall
      · rintro (⟨hfree, hslash⟩ | hno)
        · exact absurd hhead (by simp [hfree, hslash])
        · have hnone : (List.range FAT16_ROOT_ENTRIES).find? (fun i => IsName dir name i) =
              none := by
            rw [List.find?_eq_none]
            intro i hi
            rw [decide_eq_true_eq]
            exact hno i (List.mem_range.mp hi)
          rw [hnone]
          exact ⟨⟨rfl, rfl⟩, by simp⟩
    · rw [not_or] at hhead
      rw [searchInDir_eq hname hlength hhead.1 hhead.2]
      refine ⟨fun _ => .inl ⟨hhead.2, hhead.1⟩, fun _ => ⟨⟨rfl, rfl⟩, ?_⟩⟩
      rintro i (hi | hi | hi)
      · exact hfound i hi
      · exact hfound i hi
      · exact hfound i hi
  · obtain ⟨hsearch, hsize, hload⟩ := none_of_length dir hname hlength
    rw [Agree, Whole, hsearch, hsize, hload]
    refine ⟨fun _ => .inr fun i _ hi => hlength hi.1, fun _ => ⟨⟨rfl, rfl⟩, by simp⟩⟩

/-- A directory whose first entry has the name, and whose other entries are empty. -/
def oneEntry (name : List UInt8) (k : Nat) : UInt8 :=
  chars name k

def readme : List UInt8 := [114, 101, 97, 100, 109, 101, 46, 116, 120, 116]

theorem readme_ne : ∀ c ∈ readme, c ≠ 0 := by
  simp [readme]

theorem lookups_agree_readme :
    Agree (oneEntry (fsFntos2 readme)) (fsFntos2 readme) ∧
      Whole (oneEntry (fsFntos2 readme)) (fsFntos2 readme) :=
  (lookups_agree_iff readme_ne).mpr (.inl ⟨by decide, by decide⟩)

/-- A deleted file, which `search_in_dir` skips and the other two find. -/
theorem deleted_entry_found :
    let name := fsFntos2 [0xE5, 101, 97, 100, 109, 101, 46, 116, 120, 116]
    searchInDir (oneEntry name) name = none ∧
      sizeEntry (oneEntry name) name FAT16_ROOT_ENTRIES = some 0 ∧
        loadEntry (oneEntry name) name = some 0 := by
  refine ⟨searchInDir_none (.inr (by decide)), ?_, ?_⟩
  · decide +kernel
  · decide +kernel

end Gramado.Fs.NameLookup
