import Gramado.Fs.RoundTrip

/-! When `fsSaveFile` finds room for a file in the window of the FAT that it searches. -/

namespace Gramado.Fs.SaveCompleteness

open Fs.Fat16 Fs.SaveFile
open Fs.FatIntegrity (blankVolume saveA)
open Fs.RoundTrip (saveClusters_iff)

def freeCells (fat : Nat → UInt16) (c k : Nat) : Nat :=
  (List.range' c k).countP fun c => fat c = 0

theorem freeCells_succ (fat : Nat → UInt16) (c k : Nat) :
    freeCells fat c (k + 1) = freeCells fat (c + 1) k + if fat c = 0 then 1 else 0 := by
  rw [freeCells, List.range'_succ, List.countP_cons, freeCells]
  simp only [decide_eq_true_eq]

theorem searchClusters_found (fat : Nat → UInt16) (k c j fileSize : Nat)
    (list : Nat → UInt16) :
    (searchClusters fat k c j fileSize list).1 = true ↔ fileSize < freeCells fat c k := by
  induction k generalizing c j fileSize list with
  | zero => simp [searchClusters, freeCells]
  | succ k ih =>
      rw [searchClusters, freeCells_succ]
      split
      · split
        · rename_i hsize
          rw [hsize]
          simp
        · rw [ih]
          omega
      · rw [ih]
        omega

def Volume.freeInWindow (v : Volume) : Nat :=
  freeCells v.mounted.fat 3 CLUSTERS_TO_SAVE_MAX

/-- The root directory and the clusters of the free cells of the window lie on the disk. -/
structure WellFormed (v : Volume) : Prop where
  rootdir : VOLUME1_ROOTDIR_LBA + VOLUME1_ROOTDIR_SIZE ≤ v.sectors
  clusters : ∀ x : UInt16, 3 ≤ x.toNat → x.toNat < 3 + CLUSTERS_TO_SAVE_MAX →
    v.mounted.fat x.toNat = 0 → clusterLba x < v.sectors

/-- A request to save a file of at least one sector in a directory with a free entry. -/
structure Request (v : Volume) (a : SaveArgs) (name : Nat → UInt8) (index : Nat) : Prop where
  fatAddress : a.fatAddress = VOLUME1_FAT_ADDRESS
  dirAddress : a.dirAddress ≠ 0
  fileName : a.fileName = some name
  named : name 0 ≠ 0
  dirEntries : a.dirEntries ≠ 0 ∧ a.dirEntries ≤ FAT16_ROOT_ENTRIES
  nonempty : 1 ≤ a.fileSize
  fileSize : a.fileSize ≤ MaxFileSizeInSectors
  freeEntry : findEmptyDirectoryEntry (v.mounted.dirs a.dirAddress) a.dirEntries = some index

variable {v : Volume} {a : SaveArgs} {name : Nat → UInt8} {index : Nat}

theorem mount_total (h : WellFormed v) : mount v = .ok v.mounted := by
  have hsectors := h.rootdir
  unfold VOLUME1_ROOTDIR_LBA VOLUME1_ROOTDIR_SIZE at hsectors
  have hload : ∀ lba count, lba + count ≤ v.sectors →
      loadSequentialSectors v lba count = .ok (v.bytesAt lba) := by
    intro lba count hle
    rw [loadSequentialSectors, if_neg (by omega), if_neg (by omega)]
  have hroot : fsLoadRootdir v = .ok (v.withRootdir (v.bytesAt VOLUME1_ROOTDIR_LBA)) := by
    rw [fsLoadRootdir, hload _ _ h.rootdir]
  have hfat : loadSequentialSectors (v.withRootdir (v.bytesAt VOLUME1_ROOTDIR_LBA))
      VOLUME1_FAT_LBA VOLUME1_FAT_SIZE = .ok (v.bytesAt VOLUME1_FAT_LBA) :=
    hload _ _ (by unfold VOLUME1_FAT_LBA VOLUME1_FAT_SIZE; omega)
  rw [mount, hroot]
  dsimp only
  by_cases hloaded : v.fatCacheLoaded = true
  · have hkeep : v.mounted = v.withRootdir (v.bytesAt VOLUME1_ROOTDIR_LBA) := if_pos hloaded
    rw [hkeep]
    exact if_pos hloaded
  · have hread : v.mounted = (v.withRootdir (v.bytesAt VOLUME1_ROOTDIR_LBA)).withFat
        (v.bytesAt VOLUME1_FAT_LBA) := if_neg hloaded
    rw [hread]
    refine (if_neg hloaded).trans ?_
    rw [hfat]

theorem fsSaveFile_request (h : Request v a name index) :
    fsSaveFile v a = searchAndSave v a name := by
  have hentries := h.dirEntries
  rw [fsSaveFile, h.fatAddress, if_neg (by decide), if_neg h.dirAddress, if_neg (by simp),
    h.fileName]
  dsimp only
  rw [if_neg h.named, if_neg (by omega), if_neg (not_lt.mpr h.fileSize)]

theorem save_succeeds_iff (hv : WellFormed v) (h : Request v a name index) :
    (∃ w, fsSaveFile v a = .ok (0, w)) ↔ a.fileSize < Volume.freeInWindow v := by
  have hfound := searchClusters_found v.mounted.fat CLUSTERS_TO_SAVE_MAX 3 0 a.fileSize
    v.mounted.clustersToSave
  rw [fsSaveFile_request h, searchAndSave, mount_total hv, Volume.freeInWindow, ← hfound]
  dsimp only
  rcases hsearch : searchClusters v.mounted.fat CLUSTERS_TO_SAVE_MAX 3 0 a.fileSize
    v.mounted.clustersToSave with ⟨found, list⟩
  cases found with
  | false =>
      constructor
      · rintro ⟨w, hw⟩
        cases hw
      · intro hfalse
        cases hfalse
  | true =>
      obtain ⟨cells, hlength, hfree, hlists, _⟩ := searchClusters_ok (by decide) hsearch
      refine iff_of_true ?_ rfl
      have hempty : findEmptyDirectoryEntry ((setList v.mounted list).dirs a.dirAddress)
          a.dirEntries = some index := h.freeEntry
      dsimp only
      rw [saveFile, hempty]
      have hsize := h.fileSize
      have hsectors := mounted_sectors v
      have hend : END_OF_FILE ∉ cells := by
        intro hmem
        exact absurd (hfree.lt hmem) (UInt16.lt_irrefl _)
      refine (saveClusters_iff a.data hend hlists (by omega)).mpr ⟨?_, ?_, ?_⟩
      · change v.mounted.sectors ≠ 0
        rw [hsectors]
        exact Nat.ne_of_gt (Nat.lt_of_lt_of_le (by decide) hv.rootdir)
      · change _ ≤ v.mounted.sectors
        rw [hsectors]
        exact hv.rootdir
      · intro x hx
        obtain ⟨hlow, hhigh, hzero⟩ := hfree.free x hx
        change _ < v.mounted.sectors
        rw [hsectors]
        exact hv.clusters x hlow hhigh hzero

/-- With room for the file, the save fails exactly if there is no room for more. -/
theorem save_completes_iff {v : Volume} {a : SaveArgs} {name : Nat → UInt8} {index : Nat}
    (hv : WellFormed v) (h : Request v a name index) :
    (a.fileSize ≤ Volume.freeInWindow v → ∃ w, fsSaveFile v a = .ok (0, w)) ↔
      a.fileSize ≠ Volume.freeInWindow v := by
  rw [save_succeeds_iff hv h]
  omega

theorem wellFormed_of_large (h : 65536 ≤ v.sectors) : WellFormed v := by
  refine ⟨Nat.le_trans (by decide) h, ?_⟩
  intro x _ hhigh _
  unfold CLUSTERS_TO_SAVE_MAX at hhigh
  unfold clusterLba VOLUME1_DATAAREA_LBA
  omega

def nameA (i : Nat) : UInt8 := if i = 0 then 65 else if i < 11 then 32 else 0

theorem findEmptyDirectoryEntry_zero {dir : Nat → UInt8} {n : Int} (hn : 0 < n) (h : dir 0 = 0) :
    findEmptyDirectoryEntry dir n = some 0 :=
  List.find?_range_eq_some.mpr ⟨decide_eq_true h, List.mem_range.mpr (by omega),
    fun j hj => absurd hj (Nat.not_lt_zero j)⟩

theorem request_blankVolume : Request blankVolume (saveA 2) nameA 0 :=
  ⟨rfl, by decide, rfl, by decide, by decide, by decide, by decide,
    findEmptyDirectoryEntry_zero (by decide) rfl⟩

theorem save_completes_example :
    ((saveA 2).fileSize ≤ Volume.freeInWindow blankVolume →
        ∃ w, fsSaveFile blankVolume (saveA 2) = .ok (0, w)) ↔
      (saveA 2).fileSize ≠ Volume.freeInWindow blankVolume :=
  save_completes_iff (wellFormed_of_large (by decide)) request_blankVolume

def volumeWithOneFree : Volume :=
  { blankVolume with
    fat := fun c => if c = 3 then 0 else 1
    fatCacheLoaded := true }

theorem freeCells_one (k : Nat) : freeCells volumeWithOneFree.fat 3 (k + 1) = 1 := by
  have hnone : freeCells volumeWithOneFree.fat 4 k = 0 := by
    rw [freeCells, List.countP_eq_zero]
    intro c hc
    rw [List.mem_range'_1] at hc
    have hfat : volumeWithOneFree.fat c = 1 := if_neg (by omega)
    rw [hfat]
    decide
  rw [freeCells_succ, hnone]
  rfl

theorem freeInWindow_one : Volume.freeInWindow volumeWithOneFree = 1 := by
  rw [Volume.freeInWindow, mounted_fat rfl]
  exact freeCells_one 32767

/-- A file of one sector is not saved in the one free cell. -/
theorem save_in_last_cell :
    (saveA 1).fileSize ≤ Volume.freeInWindow volumeWithOneFree ∧
      ¬ ∃ w, fsSaveFile volumeWithOneFree (saveA 1) = .ok (0, w) := by
  have hrequest : Request volumeWithOneFree (saveA 1) nameA 0 :=
    ⟨rfl, by decide, rfl, by decide, by decide, by decide, by decide,
      findEmptyDirectoryEntry_zero (by decide) rfl⟩
  rw [save_succeeds_iff (wellFormed_of_large (by decide)) hrequest, freeInWindow_one]
  decide

end Gramado.Fs.SaveCompleteness
