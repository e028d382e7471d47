import Gramado.Fs.Fat16
import Gramado.Library.LinkedList

/-! `fsSaveFile`: the search for free clusters, the directory entry and the loop that writes the
clusters and links them in the FAT. -/

namespace Gramado.Fs.SaveFile

open Fs.Fat16

def CLUSTERS_TO_SAVE_MAX : Nat := 32 * 1024
def MaxFileSizeInSectors : Nat := 16
def END_OF_FILE : UInt16 := 0xFFF8
def FLAG_DIRECTORY : UInt8 := 0x10

/-- The arguments of `fsSaveFile`, of which the last is the memory at `file_address`. A file
name is the memory that it points to. -/
structure SaveArgs where
  fatAddress : Nat
  dirAddress : Nat
  dirEntries : Int
  fileName : Option (Nat → UInt8)
  fileSize : Nat
  sizeInBytes : Nat
  flag : UInt8
  data : Nat → UInt8

/-- The loop over the FAT: the free clusters go to the list, and a last one that is free too
makes place for the mark that ends it. The result says whether it was found. -/
def searchClusters (fat : Nat → UInt16) :
    Nat → Nat → Nat → Nat → (Nat → UInt16) → Bool × (Nat → UInt16)
  | 0, _, _, _, list => (false, list)
  | k + 1, c, j, fileSize, list =>
      if fat c = 0 then
        if fileSize = 0 then (true, Function.update list j END_OF_FILE)
        else
          searchClusters fat k (c + 1) (j + 1) (fileSize - 1)
            (Function.update list j (UInt16.ofNat c))
      else searchClusters fat k (c + 1) j fileSize list

def dirEntry (name : Nat → UInt8) (flag : UInt8) (cluster : UInt16) (sizeInBytes : Nat)
    (offset : Nat) : UInt8 :=
  match offset with
  | 8 | 9 | 10 => if flag = FLAG_DIRECTORY then 0x20 else name offset
  | 11 => flag
  | 12 => 0
  | 13 => 0x97
  | 14 | 22 => 0xD3
  | 15 | 23 => 0xBA
  | 16 | 18 | 24 => 0xE2
  | 17 | 19 | 25 => 0x58
  | 20 | 21 => 0
  | 26 => UInt8.ofNat cluster.toNat
  | 27 => UInt8.ofNat (cluster.toNat / 256)
  | 28 => if flag = FLAG_DIRECTORY then 0 else UInt8.ofNat sizeInBytes
  | 29 => if flag = FLAG_DIRECTORY then 0 else UInt8.ofNat (sizeInBytes / 2 ^ 8)
  | 30 => if flag = FLAG_DIRECTORY then 0 else UInt8.ofNat (sizeInBytes / 2 ^ 16)
  | 31 => if flag = FLAG_DIRECTORY then 0 else UInt8.ofNat (sizeInBytes / 2 ^ 24)
  | _ => name offset

def storeEntry (dir : Nat → UInt8) (index : Nat) (entry : Nat → UInt8) (offset : Nat) : UInt8 :=
  if FAT16_ENTRY_SIZE * index ≤ offset ∧ offset < FAT16_ENTRY_SIZE * index + FAT16_ENTRY_SIZE then
    entry (offset - FAT16_ENTRY_SIZE * index)
  else dir offset

def putEntry (v : Volume) (dirAddress index : Nat) (entry : Nat → UInt8) : Volume :=
  { v with
    dirs := Function.update v.dirs dirAddress (storeEntry (v.dirs dirAddress) index entry) }

/-- The label `do_save_dir_and_fat`: the FAT waits in its cache. -/
def saveDirAndFat (v : Volume) : Except String (Int × Volume) :=
  match fsSaveRootdir v with
  | .error e => .error e
  | .ok v => .ok (0, { v with fatCacheSaved := false })

def saveClusters (data : Nat → UInt8) : Nat → Nat → Volume → Except String (Int × Volume)
  | 0, _, v => .ok (1, v)
  | turns + 1, i, v =>
      let next := v.clustersToSave i
      if next = END_OF_FILE then
        let last := if i = 0 then v.beforeList else v.clustersToSave (i - 1)
        saveDirAndFat (v.setFat last END_OF_FILE)
      else
        match
          writeSector (v.setFat next (v.clustersToSave (i + 1))) (clusterLba next)
            fun offset => data (SECTOR_SIZE * i + offset) with
        | .error e => .error e
        | .ok v => saveClusters data turns (i + 1) v

def saveFile (v : Volume) (a : SaveArgs) (name : Nat → UInt8) : Except String (Int × Volume) :=
  match findEmptyDirectoryEntry (v.dirs a.dirAddress) a.dirEntries with
  | none => .ok (1, v)
  | some index =>
      saveClusters a.data (MaxFileSizeInSectors + 1) 0
        (putEntry v a.dirAddress index
          (dirEntry name a.flag (v.clustersToSave 0) a.sizeInBytes))

def setList (v : Volume) (list : Nat → UInt16) : Volume :=
  { v with clustersToSave := list }

def searchAndSave (v : Volume) (a : SaveArgs) (name : Nat → UInt8) :
    Except String (Int × Volume) :=
  match mount v with
  | .error e => .error e
  | .ok v =>
      match searchClusters v.fat CLUSTERS_TO_SAVE_MAX 3 0 a.fileSize v.clustersToSave with
      | (false, list) => .ok (1, setList v list)
      | (true, list) => saveFile (setList v list) a name

def fsSaveFile (v : Volume) (a : SaveArgs) : Except String (Int × Volume) :=
  if a.fatAddress = 0 then .error "fsSaveFile: fat_address\n"
  else if a.dirAddress = 0 then .error "fsSaveFile: dir_address\n"
  else if a.fatAddress ≠ VOLUME1_FAT_ADDRESS then .error "fsSaveFile: fat_address\n"
  else
    match a.fileName with
    | none => .ok (1, v)
    | some name =>
        if name 0 = 0 then .ok (1, v)
        else if a.dirEntries = 0 ∨ FAT16_ROOT_ENTRIES < a.dirEntries then
          .error "fsSaveFile: [FAIL] max dir entries"
        else if MaxFileSizeInSectors < a.fileSize then .ok (1, v)
        else searchAndSave v a name

def Lists (list : Nat → UInt16) : Nat → List UInt16 → Prop
  | _, [] => True
  | j, x :: xs => list j = x ∧ Lists list (j + 1) xs

variable {c low high lba turns i : Nat} {fat list : Nat → UInt16} {v w u : Volume}
  {data name : Nat → UInt8} {rc : Int} {x : UInt16} {rest : List UInt16} {a : SaveArgs}

theorem ofNat_toNat (h : c < 65536) : (UInt16.ofNat c).toNat = c := Nat.mod_eq_of_lt h

structure FreeCells (fat : Nat → UInt16) (low high : Nat) (cells : List UInt16) : Prop where
  sorted : cells.Pairwise (· < ·)
  free : ∀ x ∈ cells, low ≤ x.toNat ∧ x.toNat < high ∧ fat x.toNat = 0

theorem FreeCells.mono {low' : Nat} {cells : List UInt16} (h : FreeCells fat low high cells)
    (hlow : low' ≤ low) : FreeCells fat low' high cells := by
  refine ⟨h.sorted, ?_⟩
  intro x hx
  obtain ⟨hl, hh, hfree⟩ := h.free x hx
  exact ⟨by omega, hh, hfree⟩

theorem searchClusters_ok {k j fileSize : Nat} {list' : Nat → UInt16} (hc : c + k ≤ 65536)
    (h : searchClusters fat k c j fileSize list = (true, list')) :
    ∃ cells, cells.length = fileSize ∧ FreeCells fat c (c + k) cells ∧
      Lists list' j (cells ++ [END_OF_FILE]) ∧ ∀ m < j, list' m = list m := by
  induction k generalizing c j fileSize list with
  | zero => cases h
  | succ k ih =>
      rw [searchClusters] at h
      split at h
      · rename_i hfree
        split at h
        · rename_i hzero
          cases h
          refine ⟨[], hzero.symm, ⟨List.Pairwise.nil, by simp⟩, ?_, ?_⟩
          · exact ⟨Function.update_self .., trivial⟩
          · intro m hm
            exact Function.update_of_ne (by omega) ..
        · rename_i hsize
          obtain ⟨cells, hlength, hcells, hlists, hframe⟩ := ih (by omega) h
          have htoNat : (UInt16.ofNat c).toNat = c := ofNat_toNat (by omega)
          refine ⟨UInt16.ofNat c :: cells, ?_, ⟨?_, ?_⟩, ⟨?_, hlists⟩, ?_⟩
          · rw [List.length_cons, hlength]
            omega
          · rw [List.pairwise_cons]
            refine ⟨?_, hcells.sorted⟩
            intro x hx
            have := (hcells.free x hx).1
            rw [UInt16.lt_iff_toNat_lt, htoNat]
            omega
          · intro x hx
            rcases List.mem_cons.mp hx with rfl | hx
            · rw [htoNat]
              exact ⟨by omega, by omega, hfree⟩
            · obtain ⟨hlow, hhigh, hx⟩ := hcells.free x hx
              exact ⟨by omega, by omega, hx⟩
          · rw [hframe j (by omega), Function.update_self]
          · intro m hm
            rw [hframe m (by omega), Function.update_of_ne (by omega)]
      · obtain ⟨cells, hlength, hcells, hlists, hframe⟩ := ih (by omega) h
        refine ⟨cells, hlength, ?_, hlists, hframe⟩
        have := hcells.mono (Nat.le_succ c)
        rw [show c + (k + 1) = c + 1 + k by omega]
        exact this

def linkCells : List UInt16 → (Nat → UInt16) → Nat → UInt16
  | [], fat => fat
  | x :: rest, fat =>
      linkCells rest (Function.update fat x.toNat (rest.headD END_OF_FILE))

/-- Write the sectors of the file from the sector `i` on to the clusters. -/
def writeCells (data : Nat → UInt8) :
    Nat → List UInt16 → (Nat → Nat → UInt8) → Nat → Nat → UInt8
  | _, [], disk => disk
  | i, x :: rest, disk =>
      writeCells data (i + 1) rest
        (Function.update disk (clusterLba x) fun offset => data (SECTOR_SIZE * i + offset))

theorem writeSector_ok (h : writeSector v lba data = .ok w) :
    w = { v with disk := Function.update v.disk lba data } := by
  unfold writeSector at h
  split at h
  · cases h
  split at h
  · cases h
  · cases h
    rfl

theorem saveDirAndFat_ok (h : saveDirAndFat v = .ok (rc, w)) :
    rc = 0 ∧ w = { v.withSavedRootdir with fatCacheSaved := false } := by
  unfold saveDirAndFat fsSaveRootdir at h
  split at h
  · cases h
  · rename_i v' hsave
    cases h
    split at hsave
    · cases hsave
    split at hsave
    · cases hsave
    · cases hsave
      exact ⟨rfl, rfl⟩

/-- What the loop leaves: the clusters written and linked, and the root directory saved. -/
def savedVolume (v : Volume) (fat : Nat → UInt16) (disk : Nat → Nat → UInt8) : Volume :=
  { { v with fat := fat, disk := disk }.withSavedRootdir with fatCacheSaved := false }

def putCluster (v : Volume) (x next : UInt16) (sector : Nat → UInt8) : Volume :=
  { v with
    fat := Function.update v.fat x.toNat next
    disk := Function.update v.disk (clusterLba x) sector }

theorem saveClusters_cons (hx : x ≠ END_OF_FILE)
    (hlist : Lists v.clustersToSave i (x :: (rest ++ [END_OF_FILE])))
    (h : saveClusters data (turns + 1) i v = .ok (rc, w)) :
    saveClusters data turns (i + 1)
      (putCluster v x (rest.headD END_OF_FILE) fun offset => data (SECTOR_SIZE * i + offset)) =
        .ok (rc, w) := by
  obtain ⟨hhead, htail⟩ := hlist
  have hnext : v.clustersToSave (i + 1) = rest.headD END_OF_FILE := by
    cases rest with
    | nil => exact htail.1
    | cons y rest => exact htail.1
  rw [saveClusters] at h
  dsimp only at h
  rw [hhead, if_neg hx, hnext] at h
  split at h
  · cases h
  · rename_i v' hwrite
    rw [writeSector_ok hwrite] at h
    exact h

theorem saveClusters_ok {cells : List UInt16} (hcells : END_OF_FILE ∉ cells)
    (hlist : Lists v.clustersToSave i (cells ++ [END_OF_FILE])) (hturns : cells.length < turns)
    (hlast : cells = [] → i ≠ 0 ∧ v.fat (v.clustersToSave (i - 1)).toNat = END_OF_FILE)
    (h : saveClusters data turns i v = .ok (rc, w)) :
    rc = 0 ∧ w = savedVolume v (linkCells cells v.fat) (writeCells data i cells v.disk) := by
  induction cells generalizing turns i v with
  | nil =>
      obtain ⟨turns, rfl⟩ : ∃ k, turns = k + 1 := ⟨turns - 1, by simp at hturns; omega⟩
      rw [saveClusters] at h
      dsimp only at h
      rw [hlist.1, if_pos rfl, if_neg (hlast rfl).1, Volume.setFat,
        Function.update_eq_self_iff.mpr (hlast rfl).2.symm] at h
      exact saveDirAndFat_ok h
  | cons x rest ih =>
      obtain ⟨turns, rfl⟩ : ∃ k, turns = k + 1 := ⟨turns - 1, by omega⟩
      rw [List.mem_cons, not_or] at hcells
      have hrest := saveClusters_cons (Ne.symm hcells.1) hlist h
      refine ih (v := putCluster v x (rest.headD END_OF_FILE) _) hcells.2 hlist.2
        (by simpa using hturns) ?_ hrest
      rintro rfl
      have hx : v.clustersToSave i = x := hlist.1
      refine ⟨Nat.succ_ne_zero i, ?_⟩
      change (putCluster v x _ _).fat (v.clustersToSave (i + 1 - 1)).toNat = _
      rw [Nat.add_sub_cancel, hx]
      exact Function.update_self ..

theorem linkCells_not_mem {cells : List UInt16} (h : ∀ x ∈ cells, x.toNat ≠ c) :
    linkCells cells fat c = fat c := by
  induction cells generalizing fat with
  | nil => rfl
  | cons x rest ih =>
      rw [linkCells, ih fun y hy => h y (List.mem_cons_of_mem _ hy)]
      exact Function.update_of_ne (Ne.symm (h x List.mem_cons_self)) ..

theorem linkCells_head (h : x ∉ rest) :
    linkCells (x :: rest) fat x.toNat = rest.headD END_OF_FILE := by
  rw [linkCells, linkCells_not_mem, Function.update_self]
  rintro y hy heq
  rw [UInt16.toNat_inj.mp heq] at hy
  exact h hy

def nextCell (fat : Nat → UInt16) (c : UInt16) : Option UInt16 :=
  if END_OF_FILE ≤ fat c.toNat then none else some (fat c.toNat)

theorem linkCells_follows {cells : List UInt16} (hnodup : cells.Nodup)
    (hlt : ∀ x ∈ cells, x < END_OF_FILE) :
    Library.LinkedList.Follows (nextCell (linkCells cells fat)) cells.head? cells := by
  induction cells generalizing fat with
  | nil => exact .nil
  | cons x rest ih =>
      obtain ⟨hx, hrest⟩ := List.nodup_cons.mp hnodup
      have hfollows : Library.LinkedList.Follows (nextCell (linkCells (x :: rest) fat))
          rest.head? rest := ih hrest fun y hy => hlt y (List.mem_cons_of_mem _ hy)
      apply Library.LinkedList.Follows.cons
      have hnext : nextCell (linkCells (x :: rest) fat) x = rest.head? := by
        rw [nextCell, linkCells_head hx]
        cases rest with
        | nil => exact if_pos (UInt16.le_refl _)
        | cons y rest =>
            apply if_neg
            rw [UInt16.not_le]
            exact hlt y (by simp)
      rw [hnext]
      exact hfollows

theorem writeCells_not_mem {cells : List UInt16} {disk : Nat → Nat → UInt8}
    (h : ∀ x ∈ cells, clusterLba x ≠ lba) :
    writeCells data i cells disk lba = disk lba := by
  induction cells generalizing i disk with
  | nil => rfl
  | cons x rest ih =>
      rw [writeCells, ih fun y hy => h y (List.mem_cons_of_mem _ hy)]
      exact Function.update_of_ne (Ne.symm (h x List.mem_cons_self)) ..

/-- The checks that a call passes, and what it loads and searches. -/
structure Searched (v : Volume) (a : SaveArgs) (name : Nat → UInt8) (u : Volume) (found : Bool)
    (list : Nat → UInt16) : Prop where
  fatAddress : a.fatAddress = VOLUME1_FAT_ADDRESS
  dirAddress : a.dirAddress ≠ 0
  fileName : a.fileName = some name
  named : name 0 ≠ 0
  dirEntries : a.dirEntries ≠ 0 ∧ a.dirEntries ≤ FAT16_ROOT_ENTRIES
  fileSize : a.fileSize ≤ MaxFileSizeInSectors
  mounted : mount v = .ok u
  search : searchClusters u.fat CLUSTERS_TO_SAVE_MAX 3 0 a.fileSize u.clustersToSave =
    (found, list)

def enteredVolume (u : Volume) (a : SaveArgs) (name : Nat → UInt8) (list : Nat → UInt16)
    (index : Nat) : Volume :=
  putEntry (setList u list) a.dirAddress index (dirEntry name a.flag (list 0) a.sizeInBytes)

theorem fsSaveFile_cases (h : fsSaveFile v a = .ok (rc, w)) :
    (rc = 1 ∧ w = v) ∨ ∃ name u found list, Searched v a name u found list ∧
      ((rc = 1 ∧ w = setList u list ∧
          (found = true → findEmptyDirectoryEntry (u.dirs a.dirAddress) a.dirEntries = none)) ∨
        ∃ index, found = true ∧
          findEmptyDirectoryEntry (u.dirs a.dirAddress) a.dirEntries = some index ∧
          saveClusters a.data (MaxFileSizeInSectors + 1) 0 (enteredVolume u a name list index) =
            .ok (rc, w)) := by
  unfold fsSaveFile at h
  split at h
  · cases h
  rename_i hfat0
  split at h
  · cases h
  rename_i hdir
  split at h
  · cases h
  rename_i hfat
  split at h
  · cases h
    exact .inl ⟨rfl, rfl⟩
  rename_i name hname
  split at h
  · cases h
    exact .inl ⟨rfl, rfl⟩
  rename_i hnamed
  split at h
  · cases h
  rename_i hentries
  split at h
  · cases h
    exact .inl ⟨rfl, rfl⟩
  rename_i hsize
  unfold searchAndSave at h
  split at h
  · cases h
  rename_i u hmount
  have hsearched : ∀ found list,
      searchClusters u.fat CLUSTERS_TO_SAVE_MAX 3 0 a.fileSize u.clustersToSave =
        (found, list) → Searched v a name u found list := by
    intro found list hsearch
    exact ⟨not_not.mp hfat, hdir, hname, hnamed, by omega, by omega, hmount, hsearch⟩
  split at h
  · rename_i list hsearch
    cases h
    exact .inr ⟨name, u, false, list, hsearched _ _ hsearch,
      .inl ⟨rfl, rfl, fun hfound => by cases hfound⟩⟩
  · rename_i list hsearch
    refine .inr ⟨name, u, true, list, hsearched _ _ hsearch, ?_⟩
    unfold saveFile at h
    split at h
    · rename_i hempty
      cases h
      exact .inl ⟨rfl, rfl, fun _ => hempty⟩
    · rename_i index hempty
      exact .inr ⟨index, rfl, hempty, h⟩

theorem Searched.cells (h : Searched v a name u true list) :
    ∃ cells, cells.length = a.fileSize ∧ FreeCells u.fat 3 32771 cells ∧
      Lists list 0 (cells ++ [END_OF_FILE]) := by
  obtain ⟨cells, hlength, hfree, hlists, _⟩ := searchClusters_ok (by decide) h.search
  exact ⟨cells, hlength, hfree, hlists⟩

theorem FreeCells.lt {cells : List UInt16} (h : FreeCells fat low 32771 cells) (hx : x ∈ cells) :
    x < END_OF_FILE := by
  have := (h.free x hx).2.1
  rw [UInt16.lt_iff_toNat_lt]
  exact Nat.lt_trans this (by decide)

theorem FreeCells.nodup {cells : List UInt16} (h : FreeCells fat low high cells) : cells.Nodup := by
  apply h.sorted.imp
  rintro x y hlt rfl
  exact absurd hlt (UInt16.lt_irrefl x)

theorem Searched.saved
    {cells : List UInt16} {index : Nat}
    (h : Searched v a name u true list) (hlength : cells.length = a.fileSize)
    (hfree : FreeCells u.fat 3 32771 cells) (hlists : Lists list 0 (cells ++ [END_OF_FILE]))
    (hsize : a.fileSize ≠ 0)
    (hloop : saveClusters a.data (MaxFileSizeInSectors + 1) 0
      (enteredVolume u a name list index) = .ok (rc, w)) :
    rc = 0 ∧ w = savedVolume (enteredVolume u a name list index) (linkCells cells u.fat)
      (writeCells a.data 0 cells u.disk) := by
  have hmark : END_OF_FILE ∉ cells := fun hmem => absurd (hfree.lt hmem) (UInt16.lt_irrefl _)
  have hturns : cells.length < MaxFileSizeInSectors + 1 := by
    have := h.fileSize
    omega
  have hne : cells ≠ [] := by
    rintro rfl
    exact hsize hlength.symm
  exact saveClusters_ok (v := enteredVolume u a name list index) hmark hlists hturns
    (fun hnil => absurd hnil hne) hloop

end Gramado.Fs.SaveFile
