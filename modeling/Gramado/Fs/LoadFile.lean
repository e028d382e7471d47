import Gramado.Fs.Fat16
import Gramado.Library.LinkedList

/-! `fsLoadFile`: the search for the entry of the file, `fsGetFileSize`, and the loop that reads
the clusters of the chain. -/

namespace Gramado.Fs.LoadFile

open Fs.Fat16

def KERNELIMAGE_VA : Nat := 0x30000000
def DEFAULT_LFB_VIRTUALADDRESS : Nat := 0x30200000
def DEFAULT_BACKBUFFER_VIRTUALADDRESS : Nat := 0x30400000
def CONFIG_IMAGESIZE_LIMIT_IN_KB : Nat := 408

/-- A string of the language: the memory from its address on, up to its null character. -/
structure CString where
  chars : Nat → UInt8
  length : Nat
  terminated : chars length = 0
  nonzero : ∀ i < length, chars i ≠ 0

/-- The arguments of `fsLoadFile`. -/
structure LoadArgs where
  fatAddress : Nat
  dirAddress : Nat
  dirEntries : Int
  fileName : Option CString
  buffer : Nat
  bufferSizeInBytes : Nat

def checkAddressValidation (address : Nat) : Bool :=
  address ≠ VOLUME1_FAT_ADDRESS ∧ address ≠ VOLUME1_ROOTDIR_ADDRESS ∧
    address ≠ KERNELIMAGE_VA ∧ address ≠ DEFAULT_LFB_VIRTUALADDRESS ∧
      address ≠ DEFAULT_BACKBUFFER_VIRTUALADDRESS

/-- The entry is not empty and begins with the name: `kstrncmp` compares the characters of the
name and the null characters behind them. -/
def matchesName (dir : Nat → UInt8) (name : CString) (i : Nat) : Bool :=
  littleEndian (dir (FAT16_ENTRY_SIZE * i)) (dir (FAT16_ENTRY_SIZE * i + 1)) ≠ 0 ∧
    (List.range name.length).all fun k =>
      name.chars k = dir (FAT16_ENTRY_SIZE * i + k)

/-- The search of the directory, of which the first entry that matches counts. -/
def searchEntry (dir : Nat → UInt8) (name : CString) (max : Nat) : Option Nat :=
  (List.range max).find? (matchesName dir name)

def entrySize (dir : Nat → UInt8) (i : Nat) : Nat :=
  (dir (FAT16_ENTRY_SIZE * i + 28)).toNat + 2 ^ 8 * (dir (FAT16_ENTRY_SIZE * i + 29)).toNat +
    2 ^ 16 * (dir (FAT16_ENTRY_SIZE * i + 30)).toNat +
      2 ^ 24 * (dir (FAT16_ENTRY_SIZE * i + 31)).toNat

def entryCluster (dir : Nat → UInt8) (i : Nat) : UInt16 :=
  littleEndian (dir (FAT16_ENTRY_SIZE * i + 26)) (dir (FAT16_ENTRY_SIZE * i + 27))

/-- `fsGetFileSize`, whose name is at most 11 characters long here. -/
def fsGetFileSize (v : Volume) (name : CString) (dirAddress : Nat) :
    Except String (Nat × Volume) :=
  let loaded := if dirAddress = VOLUME1_ROOTDIR_ADDRESS then fsLoadRootdir v else .ok v
  match loaded with
  | .error e => .error e
  | .ok v =>
      match v.root with
      | none => .error "fsGetFileSize: [FAIL] No root file system!\n"
      | some root =>
          if root.spc ≤ 0 then .error "fsGetFileSize: [FAIL] spc\n"
          else if root.dirEntries = 0 then .error "fsGetFileSize: [FAIL] max root entries\n"
          else
            match searchEntry (v.dirs dirAddress) name root.dirEntries with
            | none => .ok (0, v)
            | some i => .ok (entrySize (v.dirs dirAddress) i, v)

/-- `read_lba`, which reads into the memory at `address`. -/
def readLba (v : Volume) (memory : Nat → UInt8) (address lba : Nat) :
    Except String (Nat → UInt8) :=
  if address = 0 then .ok memory
  else if v.fatBits = 32 ∨ v.fatBits = 12 then .ok memory
  else if v.fatBits ≠ 16 then .error "read_lba: default\n"
  else if v.sectors = 0 then .error "ataReadSector: gNumberOfSectorsInBootDisk\n"
  else if v.sectors ≤ lba then .error "ataReadSector: lba limits\n"
  else
    .ok fun a =>
      if address ≤ a ∧ a < address + SECTOR_SIZE then v.disk lba (a - address) else memory a

/-- The outcome of a load, also of one that stops with a panic: the memory and the volume as
they are then. -/
structure LoadOutcome where
  result : Except String Int
  memory : Nat → UInt8
  volume : Volume

/-- The loop over the chain of clusters, which runs out of `fuel` on a chain without an end. -/
def loadClusters (v : Volume) :
    Nat → Nat → UInt16 → Nat → (Nat → UInt8) → Except String Int × (Nat → UInt8)
  | 0, _, _, _, memory => (.error "fsLoadFile: infinite loop", memory)
  | fuel + 1, nreads, cluster, buffer, memory =>
      if checkAddressValidation buffer = false then
        (.error "fsLoadFile: Not a valid address\n", memory)
      else if cluster = 0 ∨ 0xFFF0 < cluster then
        (.error "fsLoadFile: fat[] vector limits.\n", memory)
      else
        match readLba v memory buffer (clusterLba cluster) with
        | .error e => (.error e, memory)
        | .ok memory =>
            let cluster := v.fat cluster.toNat
            if cluster = 0xFFF7 then (.error "fsLoadFile: Bad cluster\n", memory)
            else if cluster = 0xFFFF ∨ cluster = 0xFFF8 then
              if CONFIG_IMAGESIZE_LIMIT_IN_KB < (nreads + 1) / 2 then
                (.error "fsLoadFile: nreads\n", memory)
              else (.ok 0, memory)
            else loadClusters v fuel (nreads + 1) cluster (buffer + SECTOR_SIZE) memory

def loadFound (fuel : Nat) (v : Volume) (dirAddress buffer : Nat) (memory : Nat → UInt8)
    (i : Nat) : LoadOutcome :=
  let cluster := entryCluster (v.dirs dirAddress) i
  if cluster = 0 ∨ 0xFFF0 < cluster then ⟨.ok (-1), memory, v⟩
  else
    match fsLoadFat v with
    | .error e => ⟨.error e, memory, v⟩
    | .ok v =>
        let loaded := loadClusters v fuel 0 cluster buffer memory
        ⟨loaded.1, loaded.2, v⟩

def loadNamed (fuel : Nat) (v : Volume) (dirAddress buffer limit : Nat) (memory : Nat → UInt8)
    (name : CString) : LoadOutcome :=
  if name.chars 0 = 0 then ⟨.ok (-1), memory, v⟩
  else if 11 < name.length then ⟨.ok (-1), memory, v⟩
  else
    match fsGetFileSize v name dirAddress with
    | .error e => ⟨.error e, memory, v⟩
    | .ok (fileSize, v) =>
        if limit ≤ fileSize then ⟨.ok (-1), memory, v⟩
        else
          match searchEntry (v.dirs dirAddress) name FAT16_ROOT_ENTRIES with
          | none => ⟨.ok (-1), memory, v⟩
          | some i => loadFound fuel v dirAddress buffer memory i

def LoadArgs.limit (a : LoadArgs) : Nat :=
  a.bufferSizeInBytes % 0x100000000

/-- The checks on the arguments and on the `root` structure. -/
def checkLoad (v : Volume) (a : LoadArgs) : Except String Unit :=
  let dirEntries := a.dirEntries % 0x10000
  if a.fatAddress = 0 then .error "fsLoadFile: fat_address\n"
  else if a.dirAddress = 0 then .error "fsLoadFile: dir_address\n"
  else if a.fatAddress ≠ VOLUME1_FAT_ADDRESS then .error "fsLoadFile: Not valid FAT address\n"
  else if FAT16_ROOT_ENTRIES < dirEntries then .error "fsLoadFile: DirEntries\n"
  else if dirEntries ≠ FAT16_ROOT_ENTRIES then
    .error "fsLoadFile: [DEBUG] DirEntries IS LESS THE 512\n"
  else if a.limit = 0 then .error "fsLoadFile: BufferSizeInBytes = 0\n"
  else if 512 * 4096 < a.limit then .error "fsLoadFile: BufferSizeInBytes limits\n"
  else
    match v.root with
    | none => .error "fsLoadFile: root\n"
    | some root =>
        if ¬ root.Valid then .error "fsLoadFile: root validation\n"
        else if root.spc ≤ 0 then .error "fsLoadFile: Spc\n"
        else if root.dirEntries ≠ FAT16_ROOT_ENTRIES then
          .error "fsLoadFile: root->dir_entries\n"
        else .ok ()

def fsLoadFile (fuel : Nat) (v : Volume) (memory : Nat → UInt8) (a : LoadArgs) : LoadOutcome :=
  match checkLoad v a with
  | .error e => ⟨.error e, memory, v⟩
  | .ok () =>
      match a.fileName with
      | none => ⟨.ok (-1), memory, v⟩
      | some name => loadNamed fuel v a.dirAddress a.buffer a.limit memory name

end Gramado.Fs.LoadFile
