import Gramado.Fs.FatIntegrity
import Gramado.Fs.LoadBounds
import Mathlib.Tactic.IntervalCases

/-! A file that has been saved and is loaded again. -/

namespace Gramado.Fs.RoundTrip

open Fs.Fat16 Fs.SaveFile Fs.LoadFile Fs.FatIntegrity Fs.LoadBounds

/-- Each cluster has the next one in its cell of the FAT, and the last one the mark. -/
def Links (fat : Nat → UInt16) : List UInt16 → Prop
  | [] => True
  | x :: rest => fat x.toNat = rest.headD END_OF_FILE ∧ Links fat rest

variable {cells rest : List UInt16} {fat list : Nat → UInt16} {v w u : Volume}
  {x cluster c : UInt16} {buffer n fuel i lba turns j size : Nat} {data name dir : Nat → UInt8}
  {a : SaveArgs} {flag : UInt8} {l : LoadArgs}

theorem linkCells_links (hnodup : cells.Nodup) : Links (linkCells cells fat) cells := by
  induction cells generalizing fat with
  | nil => trivial
  | cons x rest ih =>
      obtain ⟨hx, hrest⟩ := List.nodup_cons.mp hnodup
      exact ⟨linkCells_head hx, ih hrest⟩

def Readable (v : Volume) : Nat → List UInt16 → Prop
  | _, [] => True
  | buffer, x :: rest => ReadsCluster v buffer x ∧ Readable v (buffer + SECTOR_SIZE) rest

theorem readsSector_iff (hlinks : Links v.fat (x :: rest))
    (hreadable : Readable v buffer (x :: rest)) (hlow : ∀ c ∈ x :: rest, c.toNat < 32771) :
    ReadsSector v n buffer x ↔ n < (x :: rest).length := by
  induction rest generalizing x buffer n with
  | nil =>
      obtain ⟨hmark, _⟩ := hlinks
      cases n with
      | zero => exact ⟨fun _ => by simp, fun _ => hreadable.1⟩
      | succ n =>
          constructor
          · rintro ⟨_, ⟨_, _, hend⟩, _⟩
            exact absurd hmark hend
          · intro hlt
            simp at hlt
  | cons y rest ih =>
      obtain ⟨hlink, hlinks⟩ := hlinks
      obtain ⟨hread, hreadable⟩ := hreadable
      cases n with
      | zero => exact ⟨fun _ => by simp, fun _ => hread⟩
      | succ n =>
          have hnext : v.fat x.toNat = y := hlink
          have hy := hlow y (by simp)
          have hgoes : GoesOn v.fat x := by
            rw [GoesOn, hnext]
            refine ⟨?_, ?_, ?_⟩ <;> rintro rfl <;> exact absurd hy (by decide)
          rw [ReadsSector, hnext, ih hlinks hreadable fun c hc => hlow c (List.mem_cons_of_mem x hc)]
          simp only [List.length_cons, Nat.add_lt_add_iff_right]
          exact ⟨fun h => h.2.2, fun h => ⟨hread, hgoes, h⟩⟩

theorem clusterAt_eq (hlinks : Links fat (x :: rest)) (hn : n < (x :: rest).length) :
    clusterAt fat x n = (x :: rest)[n] := by
  induction rest generalizing x n with
  | nil =>
      obtain rfl : n = 0 := by simpa using hn
      rfl
  | cons y rest ih =>
      cases n with
      | zero => rfl
      | succ n =>
          have hnext : fat x.toNat = y := hlinks.1
          rw [clusterAt, hnext, ih hlinks.2 (by simpa using hn)]
          rfl

theorem loadClusters_result {nreads : Nat} {memory : Nat → UInt8} (hlinks : Links v.fat (x :: rest))
    (hreadable : Readable v buffer (x :: rest)) (hlow : ∀ c ∈ x :: rest, c.toNat < 32771)
    (hbits : v.fatBits = 16) (hbuffer : buffer ≠ 0) (hfuel : (x :: rest).length ≤ fuel)
    (hreads : nreads + (x :: rest).length ≤ 2 * CONFIG_IMAGESIZE_LIMIT_IN_KB) :
    (loadClusters v fuel nreads x buffer memory).1 = .ok 0 := by
  induction rest generalizing x fuel nreads buffer memory with
  | nil =>
      obtain ⟨fuel, rfl⟩ : ∃ m, fuel = m + 1 := ⟨fuel - 1, by simp at hfuel; omega⟩
      obtain ⟨m, hread, _⟩ := readLba_read memory hbits hbuffer hreadable.1.2.2.2
      have hmark : v.fat x.toNat = 0xFFF8 := hlinks.1
      rw [List.length_singleton] at hreads
      rw [loadClusters_turn hreadable.1 hread, hmark, if_neg (by decide), if_pos (by decide),
        if_neg (by omega)]
  | cons y rest ih =>
      rw [List.length_cons] at hfuel hreads
      obtain ⟨fuel, rfl⟩ : ∃ m, fuel = m + 1 := ⟨fuel - 1, by omega⟩
      obtain ⟨m, hread, _⟩ := readLba_read memory hbits hbuffer hreadable.1.2.2.2
      have hnext : v.fat x.toNat = y := hlinks.1
      have hy := hlow y (by simp)
      rw [loadClusters_turn hreadable.1 hread, hnext, if_neg, if_neg]
      · exact ih hlinks.2 hreadable.2 (fun c hc => hlow c (List.mem_cons_of_mem x hc))
          (by omega) (by omega) (by omega)
      · rintro (rfl | rfl) <;> exact absurd hy (by decide)
      · rintro rfl
        exact absurd hy (by decide)

theorem readable_of_addresses (hbits : v.fatBits = 16) (hsectors : v.sectors ≠ 0)
    (hbuffer : ∀ k < cells.length, checkAddressValidation (buffer + SECTOR_SIZE * k) = true)
    (hcells : ∀ c ∈ cells, 3 ≤ c.toNat ∧ c.toNat < 32771 ∧ clusterLba c < v.sectors) :
    Readable v buffer cells := by
  induction cells generalizing buffer with
  | nil => trivial
  | cons x rest ih =>
      obtain ⟨hlow, hhigh, hlba⟩ := hcells x List.mem_cons_self
      refine ⟨⟨hbuffer 0 (by simp), ?_, ?_, .inr (.inr (.inr ⟨hbits, hsectors, hlba⟩))⟩, ?_⟩
      · rintro rfl
        exact absurd hlow (by decide)
      · rw [UInt16.le_iff_toNat_le]
        exact Nat.le_trans (Nat.le_of_lt hhigh) (by decide)
      · apply ih _ fun c hc => hcells c (List.mem_cons_of_mem x hc)
        intro k hk
        have hvalid := hbuffer (k + 1) (by simpa using hk)
        rw [sector_succ] at hvalid
        exact hvalid

theorem writeCells_getElem {disk : Nat → Nat → UInt8} (hnodup : cells.Nodup)
    (hlow : ∀ c ∈ cells, 3 ≤ c.toNat) (hn : n < cells.length) :
    writeCells data i cells disk (clusterLba cells[n]) =
      fun offset => data (SECTOR_SIZE * (i + n) + offset) := by
  induction cells generalizing i n disk with
  | nil => simp at hn
  | cons x rest ih =>
      obtain ⟨hx, hrest⟩ := List.nodup_cons.mp hnodup
      cases n with
      | zero =>
          rw [writeCells, List.getElem_cons_zero, writeCells_not_mem, Function.update_self,
            Nat.add_zero]
          intro y hy hlba
          have hylow := hlow y (List.mem_cons_of_mem x hy)
          have hxlow := hlow x List.mem_cons_self
          have hyx : y.toNat = x.toNat := by
            unfold clusterLba at hlba
            omega
          rw [UInt16.toNat_inj.mp hyx] at hy
          exact hx hy
      | succ n =>
          rw [writeCells, List.getElem_cons_succ, ih hrest
            (fun c hc => hlow c (List.mem_cons_of_mem x hc)) (by simpa using hn), Nat.succ_add]
          rfl

structure Room (v : Volume) (cells : List UInt16) : Prop where
  sectors : v.sectors ≠ 0
  rootdir : VOLUME1_ROOTDIR_LBA + VOLUME1_ROOTDIR_SIZE ≤ v.sectors
  clusters : ∀ c ∈ cells, clusterLba c < v.sectors

theorem saveDirAndFat_iff : (∃ w, saveDirAndFat v = .ok (0, w)) ↔ Room v [] := by
  have hroom : Room v [] ↔ v.sectors ≠ 0 ∧ VOLUME1_ROOTDIR_LBA + VOLUME1_ROOTDIR_SIZE ≤ v.sectors :=
    ⟨fun h => ⟨h.sectors, h.rootdir⟩, fun h => ⟨h.1, h.2, by simp⟩⟩
  rw [hroom, saveDirAndFat, fsSaveRootdir]
  by_cases hsectors : v.sectors = 0
  · simp [hsectors]
  by_cases hroot : v.sectors < VOLUME1_ROOTDIR_LBA + VOLUME1_ROOTDIR_SIZE
  · simp [hsectors, hroot]
  · simp [hsectors, hroot, not_lt.mp hroot]

theorem room_cons {y next : UInt16} {sector : Nat → UInt8} : Room v (x :: cells) ↔
      (v.sectors ≠ 0 ∧ clusterLba x < v.sectors) ∧ Room (putCluster v y next sector) cells := by
  constructor
  · intro h
    exact ⟨⟨h.sectors, h.clusters x List.mem_cons_self⟩, h.sectors, h.rootdir,
      fun c hc => h.clusters c (List.mem_cons_of_mem x hc)⟩
  · rintro ⟨⟨hsectors, hx⟩, h⟩
    exact ⟨hsectors, h.rootdir, List.forall_mem_cons.mpr ⟨hx, h.clusters⟩⟩

/-- The loop over the clusters succeeds exactly if all of them lie on the disk. -/
theorem saveClusters_iff (data : Nat → UInt8) (hcells : END_OF_FILE ∉ cells)
    (hlist : Lists v.clustersToSave i (cells ++ [END_OF_FILE])) (hturns : cells.length < turns) :
    (∃ w, saveClusters data turns i v = .ok (0, w)) ↔ Room v cells := by
  induction cells generalizing turns i v with
  | nil =>
      obtain ⟨turns, rfl⟩ : ∃ k, turns = k + 1 := ⟨turns - 1, by simp at hturns; omega⟩
      rw [saveClusters]
      dsimp only
      rw [hlist.1, if_pos rfl, saveDirAndFat_iff]
      exact ⟨fun h => ⟨h.sectors, h.rootdir, h.clusters⟩,
        fun h => ⟨h.sectors, h.rootdir, h.clusters⟩⟩
  | cons x rest ih =>
      obtain ⟨turns, rfl⟩ : ∃ k, turns = k + 1 := ⟨turns - 1, by omega⟩
      rw [List.mem_cons, not_or] at hcells
      have hrest := ih (v := putCluster v x (v.clustersToSave (i + 1))
        fun offset => data (SECTOR_SIZE * i + offset)) hcells.2 hlist.2 (by simpa using hturns)
      rw [room_cons, ← hrest, saveClusters]
      dsimp only
      rw [hlist.1, if_neg (Ne.symm hcells.1), writeSector]
      by_cases hsectors : v.sectors = 0
      · simp [Volume.setFat, hsectors]
      by_cases hlba : v.sectors ≤ clusterLba x
      · simp [Volume.setFat, hsectors, hlba]
      · simp [Volume.setFat, putCluster, hsectors, hlba, not_le.mp hlba]

def withData (a : SaveArgs) (data : Nat → UInt8) : SaveArgs :=
  { a with data := data }

theorem searched_withData {found : Bool} (h : Searched v a name u found list) (data : Nat → UInt8) :
    Searched v (withData a data) name u found list :=
  ⟨h.fatAddress, h.dirAddress, h.fileName, h.named, h.dirEntries, h.fileSize, h.mounted, h.search⟩

theorem fsSaveFile_of_searched {index : Nat} (h : Searched v a name u true list)
    (hindex : findEmptyDirectoryEntry (u.dirs a.dirAddress) a.dirEntries = some index) :
    fsSaveFile v a = saveClusters a.data (MaxFileSizeInSectors + 1) 0
      (enteredVolume u a name list index) := by
  have hfat : a.fatAddress ≠ 0 := by
    rw [h.fatAddress]
    decide
  rw [fsSaveFile, if_neg hfat, if_neg h.dirAddress, if_neg (not_not.mpr h.fatAddress), h.fileName]
  dsimp only
  rw [if_neg h.named, if_neg (by have := h.dirEntries; omega), if_neg (not_lt.mpr h.fileSize),
    searchAndSave, h.mounted]
  dsimp only
  rw [h.search]
  dsimp only
  rw [saveFile]
  have hdir : findEmptyDirectoryEntry ((setList u list).dirs a.dirAddress) a.dirEntries =
      some index := hindex
  rw [hdir]
  rfl

/-- What a save of at least one sector that succeeds leaves, for these data and any others. -/
structure Saved (v : Volume) (a : SaveArgs) (name : Nat → UInt8) (list : Nat → UInt16)
    (index : Nat) (cells : List UInt16) : Prop where
  searched : Searched v a name v.mounted true list
  length : cells.length = a.fileSize
  free : FreeCells v.mounted.fat 3 32771 cells
  lists : Lists list 0 (cells ++ [END_OF_FILE])
  empty : findEmptyDirectoryEntry (v.mounted.dirs a.dirAddress) a.dirEntries = some index
  room : Room v cells
  volume : ∀ data, fsSaveFile v (withData a data) =
    .ok (0, savedVolume (enteredVolume v.mounted a name list index)
      (linkCells cells v.mounted.fat) (writeCells data 0 cells v.disk))

theorem saved_of_fsSaveFile (hsize : a.fileSize ≠ 0) (h : fsSaveFile v a = .ok (0, w)) :
    ∃ name list index cells, Saved v a name list index cells := by
  rcases fsSaveFile_cases h with
    ⟨hrc, _⟩ | ⟨name, u, found, list, hsearched, ⟨hrc, _, _⟩ | ⟨index, rfl, hindex, hloop⟩⟩
  · cases hrc
  · cases hrc
  · obtain rfl := mount_ok hsearched.mounted
    obtain ⟨cells, hlength, hfree, hlists⟩ := hsearched.cells
    have hmark : END_OF_FILE ∉ cells := fun hmem => absurd (hfree.lt hmem) (UInt16.lt_irrefl _)
    have hturns : cells.length < MaxFileSizeInSectors + 1 := by
      have := hsearched.fileSize
      omega
    have hroom : Room (enteredVolume v.mounted a name list index) cells :=
      (saveClusters_iff a.data hmark hlists hturns).mp ⟨w, hloop⟩
    refine ⟨name, list, index, cells, hsearched, hlength, hfree, hlists, hindex, ?_, ?_⟩
    · have hsectors : (enteredVolume v.mounted a name list index).sectors = v.sectors :=
        mounted_sectors v
      obtain ⟨hne, hrootdir, hclusters⟩ := hroom
      rw [hsectors] at hne hrootdir hclusters
      exact ⟨hne, hrootdir, hclusters⟩
    · intro data
      have hcall : fsSaveFile v (withData a data) = saveClusters data (MaxFileSizeInSectors + 1) 0
          (enteredVolume v.mounted a name list index) :=
        fsSaveFile_of_searched (searched_withData hsearched data) hindex
      obtain ⟨w', hloop'⟩ := (saveClusters_iff data hmark hlists hturns).mpr hroom
      have hsaved := (searched_withData hsearched data).saved hlength hfree hlists hsize hloop'
      rw [hcall, hloop', hsaved.2, mounted_disk]
      rfl

/-- The entry keeps the name: that of a directory gets blanks for its extension. -/
def KeepsName (name : Nat → UInt8) (flag : UInt8) : Prop :=
  flag = FLAG_DIRECTORY → name 8 = 0x20 ∧ name 9 = 0x20 ∧ name 10 = 0x20

def recordedSize (flag : UInt8) (sizeInBytes : Nat) : Nat :=
  if flag = FLAG_DIRECTORY then 0 else sizeInBytes % 2 ^ 32

theorem matchesName_storeEntry_of_ne {entry : Nat → UInt8} {name : CString}
    (hlength : name.length ≤ 11) (hij : j ≠ i) :
    matchesName (storeEntry dir i entry) name j = matchesName dir name j := by
  have hbytes : ∀ k < FAT16_ENTRY_SIZE, storeEntry dir i entry (FAT16_ENTRY_SIZE * j + k) =
      dir (FAT16_ENTRY_SIZE * j + k) := fun k hk => storeEntry_of_ne hk hij
  have hfirst := hbytes 0 (by decide)
  rw [Nat.add_zero] at hfirst
  have hchars : ((List.range name.length).all fun k =>
        decide (name.chars k = storeEntry dir i entry (FAT16_ENTRY_SIZE * j + k))) =
      (List.range name.length).all fun k =>
        decide (name.chars k = dir (FAT16_ENTRY_SIZE * j + k)) := by
    rw [Bool.eq_iff_iff]
    simp only [List.all_eq_true, List.mem_range, decide_eq_true_eq]
    apply forall₂_congr
    intro k hk
    rw [hbytes k (Nat.lt_of_lt_of_le hk (hlength.trans (by decide)))]
  rw [matchesName, matchesName, hfirst, hbytes 1 (by decide), hchars]

theorem littleEndian_ne_zero {low high : UInt8} (h : low ≠ 0) : littleEndian low high ≠ 0 := by
  have hlow := low.toNat_lt
  have hhigh := high.toNat_lt
  intro hzero
  rw [littleEndian, ← UInt16.toNat_inj, UInt16.toNat_ofNat'] at hzero
  apply h
  rw [← UInt8.toNat_inj]
  change (low.toNat + 256 * high.toNat) % 2 ^ 16 = 0 at hzero
  change low.toNat = 0
  omega

theorem dirEntry_name (cluster : UInt16) (size : Nat) :
    (∀ k < 11, name k = dirEntry name flag cluster size k) ↔ KeepsName name flag := by
  constructor
  · intro h hflag
    have h8 := h 8 (by decide)
    have h9 := h 9 (by decide)
    have h10 := h 10 (by decide)
    simp only [dirEntry, if_pos hflag] at h8 h9 h10
    exact ⟨h8, h9, h10⟩
  · intro h k hk
    by_cases hflag : flag = FLAG_DIRECTORY
    · obtain ⟨h8, h9, h10⟩ := h hflag
      interval_cases k <;> simp [dirEntry, hflag, h8, h9, h10]
    · interval_cases k <;> simp [dirEntry, hflag]

theorem matchesName_self {name : CString} (hlength : name.length = 11) (hnamed : name.chars 0 ≠ 0) :
    matchesName (storeEntry dir i (dirEntry name.chars flag cluster size)) name i = true ↔
      KeepsName name.chars flag := by
  have hfirst : storeEntry dir i (dirEntry name.chars flag cluster size) (FAT16_ENTRY_SIZE * i) =
      name.chars 0 := storeEntry_self (k := 0) (by decide)
  rw [← dirEntry_name cluster size]
  simp only [matchesName, hfirst, hlength, ne_eq, littleEndian_ne_zero hnamed, not_false_eq_true,
    true_and, List.all_eq_true, List.mem_range, decide_eq_true_eq]
  constructor
  · intro h k hk
    rw [h k hk, storeEntry_self (Nat.lt_trans hk (by decide))]
  · intro h k hk
    rw [storeEntry_self (Nat.lt_trans hk (by decide)), ← h k hk]

theorem entrySize_self :
    entrySize (storeEntry dir i (dirEntry name flag cluster size)) i = recordedSize flag size := by
  rw [entrySize, storeEntry_self (by decide), storeEntry_self (by decide),
    storeEntry_self (by decide), storeEntry_self (by decide), recordedSize]
  simp only [dirEntry]
  split
  · rfl
  · simp only [UInt8.toNat_ofNat']
    omega

theorem searchEntry_some {name : CString} {max : Nat} :
    searchEntry dir name max = some i ↔ matchesName dir name i = true ∧ i < max ∧
      ∀ j < i, matchesName dir name j = false := by
  rw [searchEntry, List.find?_range_eq_some]
  simp

theorem checkLoad_congr (l : LoadArgs) (h : w.root = v.root) : checkLoad w l = checkLoad v l := by
  unfold checkLoad
  rw [h]

theorem checkLoad_root (h : checkLoad v l = .ok ()) :
    ∃ root, v.root = some root ∧ 0 < root.spc ∧ root.dirEntries = FAT16_ROOT_ENTRIES := by
  unfold checkLoad at h
  dsimp only at h
  iterate 7
    split at h
    · cases h
  split at h
  · cases h
  rename_i root hroot
  split at h
  · cases h
  split at h
  · cases h
  rename_i hspc
  split at h
  · cases h
  rename_i hentries
  exact ⟨root, hroot, not_le.mp hspc, not_not.mp hentries⟩

theorem fsLoadRootdir_synced (h : Synced w) (hsectors : w.sectors ≠ 0)
    (hrootdir : VOLUME1_ROOTDIR_LBA + VOLUME1_ROOTDIR_SIZE ≤ w.sectors) :
    fsLoadRootdir w = .ok w := by
  have hsame : w.withRootdir (w.bytesAt VOLUME1_ROOTDIR_LBA) = w := by
    have hdirs := mounted_dirs_of_saved h.2
    rw [mounted_dirs] at hdirs
    unfold Volume.withRootdir at hdirs ⊢
    dsimp only at hdirs
    rw [hdirs]
  rw [fsLoadRootdir, loadSequentialSectors, if_neg hsectors, if_neg (not_lt.mpr hrootdir)]
  dsimp only
  rw [hsame]

theorem fsGetFileSize_synced {name : CString} {d : Nat} (h : Synced w) (hsectors : w.sectors ≠ 0)
    (hrootdir : VOLUME1_ROOTDIR_LBA + VOLUME1_ROOTDIR_SIZE ≤ w.sectors)
    (hchecked : checkLoad w l = .ok ()) :
    fsGetFileSize w name d =
      .ok ((searchEntry (w.dirs d) name FAT16_ROOT_ENTRIES).elim 0 (entrySize (w.dirs d)), w) := by
  obtain ⟨root, hroot, hspc, hentries⟩ := checkLoad_root hchecked
  have hloaded : (if d = VOLUME1_ROOTDIR_ADDRESS then fsLoadRootdir w else .ok w) = .ok w := by
    split
    · exact fsLoadRootdir_synced h hsectors hrootdir
    · rfl
  have hne : root.dirEntries ≠ 0 := by
    rw [hentries]
    decide
  rw [fsGetFileSize, hloaded]
  dsimp only
  rw [hroot]
  dsimp only
  rw [if_neg (not_le.mpr hspc), if_neg hne, hentries]
  cases searchEntry (w.dirs d) name FAT16_ROOT_ENTRIES <;> rfl

/-- A load of the file that the call saves: the same name of 11 characters and the same
directory, arguments that pass the checks, and a place for every sector. -/
structure Request (v : Volume) (a : SaveArgs) (l : LoadArgs) (name : CString) : Prop where
  fileName : a.fileName = some name.chars
  loadName : l.fileName = some name
  length : name.length = 11
  dirAddress : l.dirAddress = a.dirAddress
  checked : checkLoad v l = .ok ()
  fatBits : v.fatBits = 16
  buffer : ∀ k < a.fileSize, l.buffer + SECTOR_SIZE * k ≠ 0 ∧
    checkAddressValidation (l.buffer + SECTOR_SIZE * k) = true

def EntriesAllocated (v : Volume) (a : SaveArgs) (name : CString) : Prop :=
  ∀ j < FAT16_ROOT_ENTRIES, matchesName (v.mounted.dirs a.dirAddress) name j = true →
    entryCluster (v.mounted.dirs a.dirAddress) j ≠ 0 →
      2 ≤ (entryCluster (v.mounted.dirs a.dirAddress) j).toNat ∧
        v.mounted.fat (entryCluster (v.mounted.dirs a.dirAddress) j).toNat ≠ 0

/-- Whatever the data, the load that follows the save gives the saved bytes and changes no
other byte of the memory. -/
def RoundTrips (v : Volume) (a : SaveArgs) (l : LoadArgs) : Prop :=
  ∀ data w, fsSaveFile v (withData a data) = .ok (0, w) →
    ∀ fuel memory, a.fileSize ≤ fuel →
      (fsLoadFile fuel w memory l).result = .ok 0 ∧
        ∀ x, (fsLoadFile fuel w memory l).memory x =
          if l.buffer ≤ x ∧ x < l.buffer + SECTOR_SIZE * a.fileSize then data (x - l.buffer)
          else memory x

/-- No entry of this name stands in front of the empty one, and the new entry keeps the name
and records a size below the limit of the load. -/
def FoundFirst (v : Volume) (a : SaveArgs) (l : LoadArgs) (name : CString) : Prop :=
  (∀ index, findEmptyDirectoryEntry (v.mounted.dirs a.dirAddress) a.dirEntries = some index →
    ∀ j < index, matchesName (v.mounted.dirs a.dirAddress) name j = false) ∧
      KeepsName name.chars a.flag ∧ recordedSize a.flag a.sizeInBytes < l.limit

/-- A volume on which a load of `l` gets as far as the search for the file. -/
structure Ready (w : Volume) (l : LoadArgs) : Prop where
  synced : Synced w
  sectors : w.sectors ≠ 0
  rootdir : VOLUME1_ROOTDIR_LBA + VOLUME1_ROOTDIR_SIZE ≤ w.sectors
  checked : checkLoad w l = .ok ()

/-- The entry `i` is the first with the name, and its clusters have the bytes. -/
structure Stored (w : Volume) (l : LoadArgs) (name : CString) (i : Nat) (cells : List UInt16)
    (data : Nat → UInt8) : Prop where
  ready : Ready w l
  fatBits : w.fatBits = 16
  found : searchEntry (w.dirs l.dirAddress) name FAT16_ROOT_ENTRIES = some i
  fits : entrySize (w.dirs l.dirAddress) i < l.limit
  head : cells.head? = some (entryCluster (w.dirs l.dirAddress) i)
  links : Links w.fat cells
  clusters : ∀ c ∈ cells, 3 ≤ c.toNat ∧ c.toNat < 32771 ∧ clusterLba c < w.sectors
  allocated : ∀ c ∈ cells, w.fat c.toNat ≠ 0
  bytes : ∀ n, ∀ hn : n < cells.length, ∀ k < SECTOR_SIZE,
    w.disk (clusterLba cells[n]) k = data (SECTOR_SIZE * n + k)

theorem Ready.sized (h : Ready w l) (name : CString) : fsGetFileSize w name l.dirAddress =
      .ok ((searchEntry (w.dirs l.dirAddress) name FAT16_ROOT_ENTRIES).elim 0
        (entrySize (w.dirs l.dirAddress)), w) :=
  fsGetFileSize_synced h.synced h.sectors h.rootdir h.checked

theorem Ready.accepted {name : CString} (h : Ready w l) (hname : l.fileName = some name)
    (hnamed : name.chars 0 ≠ 0) (hlength : name.length = 11)
    (hfound : searchEntry (w.dirs l.dirAddress) name FAT16_ROOT_ENTRIES = some j)
    (hfits : entrySize (w.dirs l.dirAddress) j < l.limit)
    (hvalid : entryCluster (w.dirs l.dirAddress) j ≠ 0 ∧
      entryCluster (w.dirs l.dirAddress) j ≤ 0xFFF0) :
    Accepted w l w (entryCluster (w.dirs l.dirAddress) j) name w
      (entrySize (w.dirs l.dirAddress) j) j := by
  have hsize := h.sized name
  rw [hfound] at hsize
  exact ⟨h.checked, hname, hnamed, hlength.le, hsize, hfits, hfound, rfl, hvalid, if_pos h.synced.1⟩

theorem Ready.found {name name' : CString} {w' : Volume} (h : Ready w l)
    (hname : l.fileName = some name) (haccepted : Accepted w l u c name' w' size j) :
    searchEntry (w.dirs l.dirAddress) name FAT16_ROOT_ENTRIES = some j ∧
      entrySize (w.dirs l.dirAddress) j < l.limit ∧ entryCluster (w.dirs l.dirAddress) j ≠ 0 ∧
          entryCluster (w.dirs l.dirAddress) j ≤ 0xFFF0 := by
  obtain rfl : name = name' := Option.some.inj (hname.symm.trans haccepted.fileName)
  have hsize := (h.sized name).symm.trans haccepted.sized
  injection hsize with hsize
  injection hsize with hsize hvolume
  subst hvolume
  have hfound := haccepted.found
  rw [hfound] at hsize
  have hvalid := haccepted.valid
  rw [haccepted.starts] at hvalid
  refine ⟨hfound, ?_, hvalid⟩
  have hfits := haccepted.fits
  rw [← hsize] at hfits
  exact hfits

def savedAs (v : Volume) (a : SaveArgs) (name : Nat → UInt8) (list : Nat → UInt16)
    (index : Nat) (cells : List UInt16) (data : Nat → UInt8) : Volume :=
  savedVolume (enteredVolume v.mounted a name list index) (linkCells cells v.mounted.fat)
    (writeCells data 0 cells v.disk)

section Saved

variable {v : Volume} {a : SaveArgs} {l : LoadArgs} {name : CString} {list : Nat → UInt16}
  {index : Nat} {cells : List UInt16}

theorem savedAs_dirs (data : Nat → UInt8) :
    (savedAs v a name.chars list index cells data).dirs a.dirAddress =
      storeEntry (v.mounted.dirs a.dirAddress) index
        (dirEntry name.chars a.flag (list 0) a.sizeInBytes) :=
  Function.update_self ..

theorem savedAs_sectors (data : Nat → UInt8) :
    (savedAs v a name.chars list index cells data).sectors = v.sectors :=
  mounted_sectors v

theorem savedAs_disk (data : Nat → UInt8) (hc : 2 ≤ c.toNat) :
    (savedAs v a name.chars list index cells data).disk (clusterLba c) =
      writeCells data 0 cells v.disk (clusterLba c) := by
  funext offset
  apply if_neg
  unfold clusterLba VOLUME1_DATAAREA_LBA VOLUME1_ROOTDIR_LBA VOLUME1_ROOTDIR_SIZE
  omega

theorem savedAs_ready (hsaved : Saved v a name.chars list index cells)
    (hrequest : Request v a l name) (data : Nat → UInt8) :
    Ready (savedAs v a name.chars list index cells data) l := by
  refine ⟨synced_savedVolume (mounted_fatCacheLoaded v), ?_, ?_,
    (checkLoad_congr l (mounted_root v)).trans hrequest.checked⟩
  · rw [savedAs_sectors]
    exact hsaved.room.sectors
  · rw [savedAs_sectors]
    exact hsaved.room.rootdir

theorem savedAs_foreign (hbits : v.fatBits = 16) (hbuffer : buffer ≠ 0) (hlow : 2 ≤ c.toNat)
    (hcells : ∀ x ∈ cells, 3 ≤ x.toNat) (hc : c ∉ cells) (hfuel : 0 < fuel) (data : Nat → UInt8)
    (hw : w = savedAs v a name.chars list index cells data) :
    (loadClusters w fuel 0 c buffer fun _ => v.disk (clusterLba c) 0).2 buffer =
      v.disk (clusterLba c) 0 := by
  have hdisk : w.disk (clusterLba c) = v.disk (clusterLba c) := by
    rw [hw, savedAs_disk data hlow, writeCells_not_mem]
    intro x hx hlba
    have hxlow := hcells x hx
    have hxc : x.toNat = c.toNat := by
      unfold clusterLba at hlba
      omega
    rw [UInt16.toNat_inj.mp hxc] at hx
    exact hc hx
  have hwbits : w.fatBits = 16 := by
    rw [hw]
    exact (mounted_fatBits v).trans hbits
  by_cases hreads : ReadsCluster w buffer c
  · have hsector : ReadsSector w 0 buffer c := hreads
    rw [← hdisk]
    exact loadClusters_sector (n := 0) (k := 0) hwbits hsector hbuffer hfuel (by decide)
  · rw [loadClusters_frame]
    intro n _ hsector _
    cases n with
    | zero => exact absurd hsector hreads
    | succ n => exact absurd hsector.1 hreads

theorem Stored.load {i : Nat} {data : Nat → UInt8} (h : Stored w l name i cells data)
    (hsaved : Saved v a name.chars list index cells) (hrequest : Request v a l name)
    (hsize : a.fileSize ≠ 0) (hfuel : a.fileSize ≤ fuel) (memory : Nat → UInt8) :
    (fsLoadFile fuel w memory l).result = .ok 0 ∧ ∀ x, (fsLoadFile fuel w memory l).memory x =
        if l.buffer ≤ x ∧ x < l.buffer + SECTOR_SIZE * a.fileSize then data (x - l.buffer)
        else memory x := by
  obtain ⟨hsearched, hlength, _, _, _, _, _⟩ := hsaved
  have hmax := hsearched.fileSize
  unfold MaxFileSizeInSectors at hmax
  obtain ⟨hready, hbits, hfound, hfits, hhead, hlinks, hclusters, _, hbytes⟩ := h
  cases cells with
  | nil => cases hhead
  | cons c rest =>
      have hc : entryCluster (w.dirs l.dirAddress) i = c := (Option.some.inj hhead).symm
      have hlow : ∀ x ∈ c :: rest, x.toNat < 32771 := fun x hx => (hclusters x hx).2.1
      have hreadable : Readable w l.buffer (c :: rest) := by
        apply readable_of_addresses hbits hready.sectors _ hclusters
        intro k hk
        rw [hlength] at hk
        exact (hrequest.buffer k hk).2
      have hvalid : c ≠ 0 ∧ c ≤ 0xFFF0 := ⟨hreadable.1.2.1, hreadable.1.2.2.1⟩
      have hbuffer := (hrequest.buffer 0 (Nat.pos_of_ne_zero hsize)).1
      rw [Nat.mul_zero, Nat.add_zero] at hbuffer
      rw [← hc] at hvalid
      rw [fsLoadFile_accepted (hready.accepted hrequest.loadName hsearched.named hrequest.length
        hfound hfits hvalid), hc]
      refine ⟨loadClusters_result hlinks hreadable hlow hbits hbuffer (by omega)
        (by unfold CONFIG_IMAGESIZE_LIMIT_IN_KB; omega), ?_⟩
      intro x
      dsimp only
      split
      · rename_i hx
        obtain ⟨n, k, hn, hk, rfl⟩ : ∃ n k, n < a.fileSize ∧ k < SECTOR_SIZE ∧
            x = l.buffer + SECTOR_SIZE * n + k := by
          refine ⟨(x - l.buffer) / SECTOR_SIZE, (x - l.buffer) % SECTOR_SIZE, ?_,
            Nat.mod_lt _ (by decide), ?_⟩
          · apply Nat.div_lt_of_lt_mul
            omega
          · rw [Nat.add_assoc, Nat.div_add_mod]
            omega
        have hn' : n < (c :: rest).length := by
          rw [hlength]
          exact hn
        rw [loadClusters_sector hbits ((readsSector_iff hlinks hreadable hlow).mpr hn')
          (hrequest.buffer n hn).1 (by omega) hk, clusterAt_eq hlinks hn', hbytes n hn' k hk,
          Nat.add_assoc, Nat.add_sub_cancel_left]
      · rename_i hx
        rw [loadClusters_frame]
        intro n _ hreads _
        have hn := (readsSector_iff hlinks hreadable hlow).mp hreads
        rw [hlength] at hn
        have hle : SECTOR_SIZE * (n + 1) ≤ SECTOR_SIZE * a.fileSize := Nat.mul_le_mul_left _ hn
        have hstart : SECTOR_SIZE * n ≤ SECTOR_SIZE * (n + 1) :=
          Nat.mul_le_mul_left _ (Nat.le_succ n)
        omega

end Saved

section Loaded

variable {v : Volume} {a : SaveArgs} {l : LoadArgs} {name : CString} {list : Nat → UInt16}
  {index : Nat} {cells : List UInt16}

def enteredDir (v : Volume) (a : SaveArgs) (name : CString) (list : Nat → UInt16) (index : Nat) :
    Nat → UInt8 :=
  storeEntry (v.mounted.dirs a.dirAddress) index
    (dirEntry name.chars a.flag (list 0) a.sizeInBytes)

theorem savedAs_enteredDir (hrequest : Request v a l name) (data : Nat → UInt8) :
    (savedAs v a name.chars list index cells data).dirs l.dirAddress =
      enteredDir v a name list index := by
  rw [hrequest.dirAddress]
  exact savedAs_dirs data

theorem RoundTrips.first (htrips : RoundTrips v a l)
    (hsaved : Saved v a name.chars list index cells) (hsize : a.fileSize ≠ 0)
    (data memory : Nat → UInt8) :
    (fsLoadFile a.fileSize (savedAs v a name.chars list index cells data) memory l).memory
      l.buffer = data 0 := by
  have hpos : 0 < SECTOR_SIZE * a.fileSize := Nat.mul_pos (by decide) (Nat.pos_of_ne_zero hsize)
  obtain ⟨_, hmemory⟩ := htrips data _ (hsaved.volume data) a.fileSize memory (Nat.le_refl _)
  have hbyte := hmemory l.buffer
  rw [if_pos ⟨Nat.le_refl l.buffer, Nat.lt_add_of_pos_right hpos⟩, Nat.sub_self] at hbyte
  exact hbyte

theorem RoundTrips.found (htrips : RoundTrips v a l)
    (hsaved : Saved v a name.chars list index cells) (hrequest : Request v a l name)
    (hsize : a.fileSize ≠ 0) :
    ∃ j, searchEntry (enteredDir v a name list index) name FAT16_ROOT_ENTRIES = some j ∧
      entrySize (enteredDir v a name list index) j < l.limit ∧
        entryCluster (enteredDir v a name list index) j ≠ 0 ∧
          entryCluster (enteredDir v a name list index) j ≤ 0xFFF0 := by
  rcases fsLoadFile_cases (savedAs v a name.chars list index cells fun _ => 1) l with
    ⟨u, c, name', w', fileSize, j, haccepted⟩ | hsame
  · have hfound := (savedAs_ready hsaved hrequest _).found hrequest.loadName haccepted
    rw [savedAs_enteredDir hrequest] at hfound
    exact ⟨j, hfound⟩
  · have hone := htrips.first hsaved hsize (fun _ => 1) fun _ => 0
    rw [hsame] at hone
    exact absurd hone (by decide)

theorem RoundTrips.not_foreign (htrips : RoundTrips v a l)
    (hsaved : Saved v a name.chars list index cells) (hrequest : Request v a l name)
    (hsize : a.fileSize ≠ 0) (hentries : EntriesAllocated v a name)
    (hfound : searchEntry (enteredDir v a name list index) name FAT16_ROOT_ENTRIES = some j)
    (hfits : entrySize (enteredDir v a name list index) j < l.limit)
    (hvalid : entryCluster (enteredDir v a name list index) j ≠ 0 ∧
      entryCluster (enteredDir v a name list index) j ≤ 0xFFF0) : j = index := by
  by_contra hij
  obtain ⟨hmatches, hj, _⟩ := searchEntry_some.mp hfound
  have hcluster : entryCluster (enteredDir v a name list index) j =
      entryCluster (v.mounted.dirs a.dirAddress) j := entryCluster_storeEntry_of_ne hij
  rw [enteredDir, matchesName_storeEntry_of_ne hrequest.length.le hij] at hmatches
  obtain ⟨hlow, hallocated⟩ := hentries j hj hmatches (by
    rw [← hcluster]
    exact hvalid.1)
  rw [← hcluster] at hlow hallocated
  generalize hc : entryCluster (enteredDir v a name list index) j = c at hvalid hlow hallocated
  have hforeign : c ∉ cells := fun hmem => hallocated (hsaved.free.free c hmem).2.2
  have hbuffer := (hrequest.buffer 0 (Nat.pos_of_ne_zero hsize)).1
  rw [Nat.mul_zero, Nat.add_zero] at hbuffer
  have hload := htrips.first hsaved hsize (fun _ => v.disk (clusterLba c) 0 + 1)
    (fun _ => v.disk (clusterLba c) 0)
  have haccepted := (savedAs_ready hsaved hrequest fun _ => v.disk (clusterLba c) 0 + 1).accepted
    (j := j) hrequest.loadName hsaved.searched.named hrequest.length
  rw [savedAs_enteredDir hrequest, hc] at haccepted
  rw [fsLoadFile_accepted (haccepted hfound hfits hvalid)] at hload
  dsimp only at hload
  rw [savedAs_foreign hrequest.fatBits hbuffer hlow (fun x hx => (hsaved.free.free x hx).1)
    hforeign (Nat.pos_of_ne_zero hsize) _ rfl] at hload
  exact absurd hload.symm (by simp)

theorem RoundTrips.foundFirst (htrips : RoundTrips v a l)
    (hsaved : Saved v a name.chars list index cells) (hrequest : Request v a l name)
    (hsize : a.fileSize ≠ 0) (hentries : EntriesAllocated v a name) :
    FoundFirst v a l name := by
  obtain ⟨j, hfound, hfits, hvalid⟩ := htrips.found hsaved hrequest hsize
  obtain rfl := htrips.not_foreign hsaved hrequest hsize hentries hfound hfits hvalid
  obtain ⟨hmatches, _, hfirst⟩ := searchEntry_some.mp hfound
  refine ⟨?_, (matchesName_self hrequest.length hsaved.searched.named).mp hmatches, ?_⟩
  · intro i hi k hk
    obtain rfl : j = i := Option.some.inj (hsaved.empty.symm.trans hi)
    rw [← hfirst k hk, enteredDir,
      matchesName_storeEntry_of_ne hrequest.length.le (Nat.ne_of_lt hk)]
  · rw [enteredDir, entrySize_self] at hfits
    exact hfits

theorem FoundFirst.found (h : FoundFirst v a l name)
    (hsaved : Saved v a name.chars list index cells) (hrequest : Request v a l name) :
    searchEntry (enteredDir v a name list index) name FAT16_ROOT_ENTRIES = some index := by
  have hindex : index < FAT16_ROOT_ENTRIES := by
    have hlt := (findEmptyDirectoryEntry_some hsaved.empty).1
    have := hsaved.searched.dirEntries.2
    omega
  refine searchEntry_some.mpr
    ⟨(matchesName_self hrequest.length hsaved.searched.named).mpr h.2.1, hindex, ?_⟩
  intro k hk
  rw [enteredDir, matchesName_storeEntry_of_ne hrequest.length.le (Nat.ne_of_lt hk)]
  exact h.1 index hsaved.empty k hk

theorem FoundFirst.stored (h : FoundFirst v a l name)
    (hsaved : Saved v a name.chars list index cells) (hrequest : Request v a l name)
    (hsize : a.fileSize ≠ 0) (data : Nat → UInt8) :
    Stored (savedAs v a name.chars list index cells data) l name index cells data := by
  have hclusters : ∀ c ∈ cells, 3 ≤ c.toNat ∧ c.toNat < 32771 ∧
      clusterLba c < (savedAs v a name.chars list index cells data).sectors := by
    intro c hc
    obtain ⟨hc3, hc32771, _⟩ := hsaved.free.free c hc
    rw [savedAs_sectors]
    exact ⟨hc3, hc32771, hsaved.room.clusters c hc⟩
  have hhead : cells.head? = some (list 0) := by
    have hlists := hsaved.lists
    cases cells with
    | nil => exact absurd hsaved.length.symm hsize
    | cons c rest => exact congrArg some hlists.1.symm
  refine ⟨savedAs_ready hsaved hrequest data, (mounted_fatBits v).trans hrequest.fatBits, ?_, ?_, ?_,
    linkCells_links hsaved.free.nodup, hclusters, ?_, ?_⟩
  · rw [savedAs_enteredDir hrequest]
    exact h.found hsaved hrequest
  · rw [savedAs_enteredDir hrequest, enteredDir, entrySize_self]
    exact h.2.2
  · rw [savedAs_enteredDir hrequest, enteredDir, entryCluster_dirEntry]
    exact hhead
  · intro c hc
    apply linkCells_ne_zero _ hc
    rintro x hx rfl
    exact absurd (hclusters 0 hx).1 (by decide)
  · intro n hn k _
    have hlow : 3 ≤ cells[n].toNat := (hclusters _ (List.getElem_mem hn)).1
    rw [savedAs_disk data (Nat.le_trans (by decide) hlow),
      writeCells_getElem hsaved.free.nodup (fun c hc => (hclusters c hc).1) hn, Nat.zero_add]

theorem FoundFirst.roundTrips (h : FoundFirst v a l name)
    (hsaved : Saved v a name.chars list index cells) (hrequest : Request v a l name)
    (hsize : a.fileSize ≠ 0) : RoundTrips v a l := by
  intro data w hw fuel memory hfuel
  obtain rfl : savedAs v a name.chars list index cells data = w := by
    have hvolume := (hsaved.volume data).symm.trans hw
    injection hvolume with hvolume
    injection hvolume
  exact (h.stored hsaved hrequest hsize data).load hsaved hrequest hsize hfuel memory

end Loaded

/-- The file is saved and loaded again, whatever the data, exactly if the load finds the new
entry first. -/
theorem roundTrips_iff {v w : Volume} {a : SaveArgs} {l : LoadArgs} {name : CString}
    (hrequest : Request v a l name) (hsize : a.fileSize ≠ 0) (hentries : EntriesAllocated v a name)
    (hsave : fsSaveFile v a = .ok (0, w)) : RoundTrips v a l ↔ FoundFirst v a l name := by
  obtain ⟨chars, list, index, cells, hsaved⟩ := saved_of_fsSaveFile hsize hsave
  obtain rfl : name.chars = chars :=
    Option.some.inj (hrequest.fileName.symm.trans hsaved.searched.fileName)
  constructor
  · intro htrips
    exact htrips.foundFirst hsaved hrequest hsize hentries
  · intro hfound
    exact hfound.roundTrips hsaved hrequest hsize

theorem request_blankVolume : Request blankVolume (saveA 1) loadA fileNameA where
  fileName := rfl
  loadName := rfl
  length := rfl
  dirAddress := rfl
  checked := rfl
  fatBits := rfl
  buffer := by decide

theorem matchesName_blankVolume (hj : j < FAT16_ROOT_ENTRIES) :
    matchesName (blankVolume.mounted.dirs VOLUME1_ROOTDIR_ADDRESS) fileNameA j = false := by
  have hbytes : ∀ k < 2, blankVolume.mounted.dirs VOLUME1_ROOTDIR_ADDRESS
      (FAT16_ENTRY_SIZE * j + k) = 0 := by
    intro k hk
    rw [bytesAt_rootdir]
    · rw [Volume.bytesAt, blankVolume]
      dsimp only
      rw [if_neg]
      unfold VOLUME1_ROOTDIR_LBA VOLUME1_FAT_LBA SECTOR_SIZE
      omega
    · unfold FAT16_ENTRY_SIZE VOLUME1_ROOTDIR_SIZE SECTOR_SIZE
      unfold FAT16_ROOT_ENTRIES at hj
      omega
  have hfirst := hbytes 0 (by decide)
  rw [Nat.add_zero] at hfirst
  rw [matchesName, hfirst, hbytes 1 (by decide)]
  rfl

def savedOnce : Volume :=
  afterSave blankVolume (saveA 1)

def saveAgain : SaveArgs :=
  withData (saveA 1) fun _ => 9

theorem saveResult_twice : saveResult blankVolume (saveA 1) = some 0 ∧
    saveResult savedOnce saveAgain = some 0 ∧
      (fsLoadFile 1 (afterSave savedOnce saveAgain) (fun _ => 0) loadA).memory 0x400000 = 7 := by
  decide +kernel

theorem roundTrips_iff_example :
    RoundTrips blankVolume (saveA 1) loadA ↔ FoundFirst blankVolume (saveA 1) loadA fileNameA :=
  roundTrips_iff request_blankVolume (by decide)
    (fun j hj hmatches => by
      have hnone : matchesName (blankVolume.mounted.dirs (saveA 1).dirAddress) fileNameA j =
          false := matchesName_blankVolume hj
      rw [hnone] at hmatches
      cases hmatches)
    (fsSaveFile_of_saveResult saveResult_twice.1)

/-- A file that is saved again gets a second entry, and the load finds the first one. -/
theorem saved_again_loads_first :
    WellFormed {VOLUME1_ROOTDIR_ADDRESS} savedOnce ∧
      fsSaveFile savedOnce saveAgain = .ok (0, afterSave savedOnce saveAgain) ∧
        (fsLoadFile 1 (afterSave savedOnce saveAgain) (fun _ => 0) loadA).memory 0x400000 = 7 ∧
          ¬ RoundTrips savedOnce (saveA 1) loadA := by
  obtain ⟨hfirst, hagain, hloaded⟩ := saveResult_twice
  refine ⟨?_, fsSaveFile_of_saveResult hagain, hloaded, ?_⟩
  · exact (fsSaveFile_keeps wellFormed_blankVolume (fun h => absurd h (by decide))
      (fsSaveFile_of_saveResult hfirst)).1
  · intro htrips
    obtain ⟨_, hmemory⟩ := htrips (fun _ => 9) (afterSave savedOnce saveAgain)
      (fsSaveFile_of_saveResult hagain) 1 (fun _ => 0) (Nat.le_refl 1)
    have hbyte := hmemory 0x400000
    rw [hloaded, if_pos (by decide)] at hbyte
    exact absurd hbyte (by decide)

end Gramado.Fs.RoundTrip
