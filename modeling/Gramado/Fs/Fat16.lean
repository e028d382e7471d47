import Mathlib.Data.UInt

/-! The FAT16 volume: the sectors of the disk, and the FAT and the directories that the kernel
holds in memory. -/

namespace Gramado.Fs.Fat16

def VOLUME1_FAT_ADDRESS : Nat := 0x30000
def VOLUME1_ROOTDIR_ADDRESS : Nat := 0x70000
def VOLUME1_FAT_LBA : Nat := 67
def VOLUME1_FAT_SIZE : Nat := 246
def VOLUME1_ROOTDIR_LBA : Nat := 559
def VOLUME1_ROOTDIR_SIZE : Nat := 32
def VOLUME1_DATAAREA_LBA : Nat := 591
def FAT16_ROOT_ENTRIES : Nat := 512
def FAT16_ENTRY_SIZE : Nat := 32
def SECTOR_SIZE : Nat := 512

/-- The `root` file system structure. -/
structure RootFilesystem where
  used : Bool
  magic : Int
  spc : Int
  dirEntries : Nat

def RootFilesystem.Valid (r : RootFilesystem) : Prop :=
  r.used = true ∧ r.magic = 1234

instance (r : RootFilesystem) : Decidable r.Valid :=
  inferInstanceAs (Decidable (_ ∧ _))

/-- The directories are those in memory, by address; `beforeList` is the halfword in front of
`fat16ClustersToSave`. -/
structure Volume where
  disk : Nat → Nat → UInt8
  sectors : Nat
  fatBits : Nat
  fat : Nat → UInt16
  fatCacheLoaded : Bool
  fatCacheSaved : Bool
  dirs : Nat → Nat → UInt8
  clustersToSave : Nat → UInt16
  beforeList : UInt16
  root : Option RootFilesystem

def Volume.bytesAt (v : Volume) (lba offset : Nat) : UInt8 :=
  v.disk (lba + offset / SECTOR_SIZE) (offset % SECTOR_SIZE)

/-- `__load_sequential_sectors`, which panics at the first sector beyond the disk. -/
def loadSequentialSectors (v : Volume) (lba count : Nat) : Except String (Nat → UInt8) :=
  if v.sectors = 0 then .error "ataReadSector: gNumberOfSectorsInBootDisk\n"
  else if v.sectors < lba + count then .error "ataReadSector: lba limits\n"
  else .ok (v.bytesAt lba)

def writeSector (v : Volume) (lba : Nat) (data : Nat → UInt8) : Except String Volume :=
  if v.sectors = 0 then .error "ataWriteSector: gNumberOfSectorsInBootDisk\n"
  else if v.sectors ≤ lba then .error "ataWriteSector: lba limits\n"
  else .ok { v with disk := Function.update v.disk lba data }

/-- What `fs_load_rootdir` stores at the address of the root directory. -/
def Volume.withRootdir (v : Volume) (bytes : Nat → UInt8) : Volume :=
  { v with
    dirs := Function.update v.dirs VOLUME1_ROOTDIR_ADDRESS fun offset =>
      if offset < VOLUME1_ROOTDIR_SIZE * SECTOR_SIZE then bytes offset
      else v.dirs VOLUME1_ROOTDIR_ADDRESS offset }

def fsLoadRootdir (v : Volume) : Except String Volume :=
  match loadSequentialSectors v VOLUME1_ROOTDIR_LBA VOLUME1_ROOTDIR_SIZE with
  | .error e => .error e
  | .ok bytes => .ok (v.withRootdir bytes)

def littleEndian (low high : UInt8) : UInt16 :=
  UInt16.ofNat (low.toNat + 256 * high.toNat)

def Volume.withFat (v : Volume) (bytes : Nat → UInt8) : Volume :=
  { v with
    fatCacheLoaded := true
    fat := fun cell =>
      if cell < VOLUME1_FAT_SIZE * (SECTOR_SIZE / 2) then
        littleEndian (bytes (2 * cell)) (bytes (2 * cell + 1))
      else v.fat cell }

def fsLoadFat (v : Volume) : Except String Volume :=
  if v.fatCacheLoaded = true then .ok v
  else
    match loadSequentialSectors v VOLUME1_FAT_LBA VOLUME1_FAT_SIZE with
    | .error e => .error e
    | .ok bytes => .ok (v.withFat bytes)

/-- What `fs_save_rootdir` stores in the sectors of the root directory. -/
def Volume.withSavedRootdir (v : Volume) : Volume :=
  { v with
    disk := fun lba offset =>
      if VOLUME1_ROOTDIR_LBA ≤ lba ∧ lba < VOLUME1_ROOTDIR_LBA + VOLUME1_ROOTDIR_SIZE then
        v.dirs VOLUME1_ROOTDIR_ADDRESS ((lba - VOLUME1_ROOTDIR_LBA) * SECTOR_SIZE + offset)
      else v.disk lba offset }

def fsSaveRootdir (v : Volume) : Except String Volume :=
  if v.sectors = 0 then .error "ataWriteSector: gNumberOfSectorsInBootDisk\n"
  else if v.sectors < VOLUME1_ROOTDIR_LBA + VOLUME1_ROOTDIR_SIZE then
    .error "ataWriteSector: lba limits\n"
  else .ok v.withSavedRootdir

def Volume.setFat (v : Volume) (cell value : UInt16) : Volume :=
  { v with fat := Function.update v.fat cell.toNat value }

def findEmptyDirectoryEntry (dir : Nat → UInt8) (numberOfEntries : Int) : Option Nat :=
  (List.range numberOfEntries.toNat).find? fun i => dir (FAT16_ENTRY_SIZE * i) = 0

def clusterLba (cluster : UInt16) : Nat :=
  VOLUME1_DATAAREA_LBA + cluster.toNat - 2

def mount (v : Volume) : Except String Volume :=
  match fsLoadRootdir v with
  | .error e => .error e
  | .ok v => fsLoadFat v

def Volume.mounted (v : Volume) : Volume :=
  let w := v.withRootdir (v.bytesAt VOLUME1_ROOTDIR_LBA)
  if v.fatCacheLoaded = true then w else w.withFat (v.bytesAt VOLUME1_FAT_LBA)

variable {v w : Volume}

theorem loadSequentialSectors_ok {lba count : Nat} {bytes : Nat → UInt8}
    (h : loadSequentialSectors v lba count = .ok bytes) : bytes = v.bytesAt lba := by
  unfold loadSequentialSectors at h
  split at h
  · cases h
  split at h
  · cases h
  · cases h
    rfl

theorem fsLoadRootdir_ok (h : fsLoadRootdir v = .ok w) :
    w = v.withRootdir (v.bytesAt VOLUME1_ROOTDIR_LBA) := by
  unfold fsLoadRootdir at h
  split at h
  · cases h
  · rename_i bytes hbytes
    cases h
    rw [loadSequentialSectors_ok hbytes]

theorem fsLoadFat_ok (h : fsLoadFat v = .ok w) :
    w = if v.fatCacheLoaded = true then v else v.withFat (v.bytesAt VOLUME1_FAT_LBA) := by
  unfold fsLoadFat at h
  split at h
  · rename_i hloaded
    cases h
    rw [if_pos hloaded]
  · rename_i hloaded
    rw [if_neg hloaded]
    split at h
    · cases h
    · rename_i bytes hbytes
      cases h
      rw [loadSequentialSectors_ok hbytes]

theorem mount_ok (h : mount v = .ok w) : w = v.mounted := by
  unfold mount at h
  split at h
  · cases h
  · rename_i u hroot
    rw [fsLoadFat_ok h, fsLoadRootdir_ok hroot]
    rfl

theorem mounted_disk (v : Volume) : v.mounted.disk = v.disk := by
  unfold Volume.mounted
  dsimp only
  split <;> rfl

theorem mounted_fatCacheLoaded (v : Volume) : v.mounted.fatCacheLoaded = true := by
  unfold Volume.mounted
  dsimp only
  split
  · rename_i hloaded
    exact hloaded
  · rfl

theorem mounted_fat (h : v.fatCacheLoaded = true) : v.mounted.fat = v.fat := by
  unfold Volume.mounted
  dsimp only
  rw [if_pos h]
  rfl

theorem mounted_dirs (v : Volume) :
    v.mounted.dirs = (v.withRootdir (v.bytesAt VOLUME1_ROOTDIR_LBA)).dirs := by
  unfold Volume.mounted
  dsimp only
  split <;> rfl

theorem mounted_sectors (v : Volume) : v.mounted.sectors = v.sectors := by
  unfold Volume.mounted
  dsimp only
  split <;> rfl

theorem mounted_fatBits (v : Volume) : v.mounted.fatBits = v.fatBits := by
  unfold Volume.mounted
  dsimp only
  split <;> rfl

theorem mounted_root (v : Volume) : v.mounted.root = v.root := by
  unfold Volume.mounted
  dsimp only
  split <;> rfl

theorem mounted_dirs_of_saved
    (h : ∀ offset < VOLUME1_ROOTDIR_SIZE * SECTOR_SIZE,
      v.bytesAt VOLUME1_ROOTDIR_LBA offset = v.dirs VOLUME1_ROOTDIR_ADDRESS offset) :
    v.mounted.dirs = v.dirs := by
  rw [mounted_dirs]
  apply Function.update_eq_self_iff.mpr
  funext offset
  split
  · rename_i hlt
    exact h offset hlt
  · rfl

theorem bytesAt_rootdir (v : Volume) {offset : Nat}
    (h : offset < VOLUME1_ROOTDIR_SIZE * SECTOR_SIZE) :
    v.mounted.dirs VOLUME1_ROOTDIR_ADDRESS offset = v.bytesAt VOLUME1_ROOTDIR_LBA offset := by
  rw [mounted_dirs]
  unfold Volume.withRootdir
  dsimp only
  rw [Function.update_self, if_pos h]

theorem findEmptyDirectoryEntry_some {dir : Nat → UInt8} {entries : Int} {i : Nat}
    (h : findEmptyDirectoryEntry dir entries = some i) :
    (i : Int) < entries ∧ dir (FAT16_ENTRY_SIZE * i) = 0 ∧
      ∀ j < i, dir (FAT16_ENTRY_SIZE * j) ≠ 0 := by
  obtain ⟨hempty, hmem, hbefore⟩ := List.find?_range_eq_some.mp h
  rw [decide_eq_true_eq] at hempty
  rw [List.mem_range] at hmem
  refine ⟨by omega, hempty, ?_⟩
  intro j hj
  simpa using hbefore j hj

end Gramado.Fs.Fat16
