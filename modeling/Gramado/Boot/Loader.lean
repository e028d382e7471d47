import Gramado.Fs.ShortName

/-! The boot loader's memory, its heap, and how it loads a file by its path. -/

namespace Gramado.Boot.Loader

open Fs.NameLookup (dot slash)
open Fs.ShortName (padTo)

def FAT16_FAT_ADDRESS : UInt32 := 0xC00000
def FAT16_ROOTDIR_ADDRESS : UInt32 := 0xF00000
def FAT16_FAT_LBA : Nat := 67
def FAT16_ROOTDIR_LBA : Nat := 559
def FAT16_DATAAREA_LBA : Nat := 591
def SECTOR_SIZE : UInt32 := 512
def BL_HEAP_START : UInt32 := 0x1100000
def BL_HEAP_END : UInt32 := 0x12F7FF0
def MMBLOCK_COUNT_MAX : Nat := 256
def MMBLOCK_HEADER_SIZE : UInt32 := 64

/-- Why the loader does not go on: a character behind the end of the path, a loop without an end,
or `bl_die`. -/
inductive Stop where
  | outside
  | hang
  | die
  deriving DecidableEq, Repr

abbrev Disk := Nat → Nat → UInt8

/-- The memory and the globals, and which sectors have been read to which addresses. -/
structure Machine where
  memory : UInt32 → UInt8
  reads : List (UInt32 × Nat)
  g_fat16_root_status : Bool
  g_fat16_fat_status : Bool
  g_heap_pointer : UInt32
  g_available_heap : UInt32
  last_valid : UInt32
  last_size : UInt32
  mmblockCount : Nat

def littleEndian (low high : UInt8) : UInt16 :=
  UInt16.ofNat (low.toNat + 256 * high.toNat)

def halfword (m : Machine) (address : UInt32) : UInt16 :=
  littleEndian (m.memory address) (m.memory (address + 1))

def readLba (disk : Disk) (m : Machine) (address : UInt32) (lba : Nat) : Machine :=
  { m with
    memory := fun x =>
      if x - address < SECTOR_SIZE then disk lba (x - address).toNat else m.memory x
    reads := m.reads ++ [(address, lba)] }

section Heap

/-- From the label `try_again` on; every try counts a block. -/
def tryAgain : Nat → Machine → UInt32 → Except Stop (UInt32 × Machine)
  | 0, _, _ => .error .die
  | tries + 1, m, size =>
      let m := { m with mmblockCount := m.mmblockCount + 1 }
      if m.mmblockCount ≥ MMBLOCK_COUNT_MAX then .error .die
      else if m.g_heap_pointer < BL_HEAP_START ∨ m.g_heap_pointer ≥ BL_HEAP_END then
        if m.last_valid < BL_HEAP_START ∨ m.last_valid ≥ BL_HEAP_END then .error .die
        else tryAgain tries { m with g_heap_pointer := m.last_valid + m.last_size } size
      else
        let userArea := m.g_heap_pointer + MMBLOCK_HEADER_SIZE
        let footer := userArea + size
        .ok (userArea, { m with
          last_valid := m.g_heap_pointer
          g_heap_pointer := footer
          g_available_heap := m.g_available_heap - (footer - m.g_heap_pointer) })

def heapAllocateMemory (m : Machine) (size : UInt32) : Except Stop (UInt32 × Machine) :=
  if m.g_available_heap = 0 then .ok (0, m)
  else if size = 0 then .ok (m.g_heap_pointer, m)
  else if size ≥ m.g_available_heap then .ok (0, m)
  else tryAgain MMBLOCK_COUNT_MAX { m with last_size := size } size

def malloc (m : Machine) (size : UInt32) : Except Stop (UInt32 × Machine) :=
  heapAllocateMemory m (if size = 0 then 1 else size)

end Heap

section File

/-- What stands behind the compared characters has to be zero in both strings. -/
def strncmp : List UInt8 → List UInt8 → Nat → Int
  | s1, s2, 0 => if s1.headD 0 ≠ 0 ∨ s2.headD 0 ≠ 0 then 2 else 0
  | s1, s2, n + 1 =>
      if s1.headD 0 ≠ s2.headD 0 then 1 else strncmp s1.tail s2.tail n

def entryName (m : Machine) (entry : UInt32) : List UInt8 :=
  (List.range 11).map fun i => m.memory (entry + UInt32.ofNat i)

/-- The search goes on behind empty entries. `z` counts halfwords. -/
def search (m : Machine) (name : List UInt8) (dir_address : UInt32) : Nat → UInt32 → Option UInt32
  | 0, _ => none
  | max + 1, z =>
      if halfword m (dir_address + 2 * z) ≠ 0 ∧
          strncmp name (entryName m (dir_address + 2 * z) ++ [0]) 11 = 0 then some z
      else search m name dir_address max (z + 16)

def fatEntry (m : Machine) (cluster : UInt16) : UInt16 :=
  halfword m (FAT16_FAT_ADDRESS + 2 * cluster.toUInt32)

def clusterLba (cluster : UInt16) : Nat := FAT16_DATAAREA_LBA + cluster.toNat - 2

def loadChain (disk : Disk) : Nat → Machine → UInt32 → UInt16 → Except Stop Machine
  | 0, _, _, _ => .error .hang
  | fuel + 1, m, file_address, cluster =>
      let m := readLba disk m file_address (clusterLba cluster)
      let next := fatEntry m cluster
      if next = 0xFFFF ∨ next = 0xFFF8 then .ok m
      else loadChain disk fuel m (file_address + SECTOR_SIZE) next

def fsLoadFile (disk : Disk) (fuel : Nat) (m : Machine) (name : List UInt8)
    (file_address dir_address : UInt32) : Except Stop (Int × Machine) :=
  if name.headD 0 = 0 then .ok (1, m)
  else if file_address = 0 then .ok (1, m)
  else if dir_address = 0 then .ok (1, m)
  else if m.g_fat16_root_status = false then .ok (1, m)
  else
    match search m name dir_address 512 0 with
    | none => .error .hang
    | some z =>
        let cluster := halfword m (dir_address + 2 * (z + 13))
        if cluster = 0 ∨ cluster > 0xFFF0 then .ok (1, m)
        else if m.g_fat16_fat_status = false then .ok (1, m)
        else (loadChain disk fuel m file_address cluster).map fun m => (0, m)

end File

section Path

def deref : List UInt8 → Except Stop UInt8
  | [] => .error .outside
  | c :: _ => .ok c

def countSlashes : Nat → List UInt8 → Except Stop Nat
  | 0, _ => .ok 0
  | n + 1, p => do
      let c ← deref p
      if c = 0 then .ok 0
      else do
        let k ← countSlashes n (p.drop 1)
        .ok ((if c = slash then 1 else 0) + k)

def fsPathCount (path : List UInt8) : Except Stop Nat := countSlashes (80 * 25) path

/-- The loop that copies the extension: four characters, of which the last one is overwritten. -/
def copyExtension : Nat → List UInt8 → Except Stop (List UInt8)
  | 0, _ => .ok []
  | n + 1, p => do
      let c ← deref p
      let extension ← copyExtension n (p.drop 1)
      .ok (c :: extension)

inductive LevelEnd where
  | returned (status : Int) (m : Machine)
  | next (p : List UInt8) (src : UInt32) (m : Machine)

variable (disk : Disk) (fuel : Nat) (address : UInt32)

def loadLast (copied p : List UInt8) (src : UInt32) (m : Machine) : Except Stop LevelEnd := do
  let extension ← copyExtension 4 (p.drop 1)
  let (ret, m) ← fsLoadFile disk fuel m (padTo 8 copied ++ extension.take 3 ++ [0]) address src
  .ok (.returned (if ret = 0 then 0 else -1) m)

def loadDirectory (copied p : List UInt8) (src : UInt32) (m : Machine) : Except Stop LevelEnd := do
  let (dst, m) ← malloc m (512 * 32)
  if dst = 0 then .ok (.returned (-1) m)
  else do
    let (ret, m) ← fsLoadFile disk fuel m (padTo 11 copied ++ [0]) dst src
    if ret = 0 then .ok (.next p dst m) else .ok (.returned (-1) m)

/-- The loop over the characters of a level: the characters copied so far are those of `buffer` in
front of `i`. -/
def scanLevel (isLast : Bool) : Nat → List UInt8 → List UInt8 → UInt32 → Machine →
    Except Stop LevelEnd
  | 0, _, p, src, m => .ok (.next p src m)
  | n + 1, copied, p, src, m => do
      let c ← deref p
      if c = dot then
        if isLast = false then .ok (.returned (-1) m)
        else if copied.length ≥ 7 then .ok (.returned (-1) m)
        else loadLast disk fuel address copied p src m
      else if c = slash then loadDirectory disk fuel copied p src m
      else scanLevel isLast n (copied ++ [c]) (p.drop 1) src m

def walkLevels : Nat → List UInt8 → UInt32 → Machine → Except Stop (Int × Machine)
  | 0, _, _, m => .ok (-1, m)
  | n + 1, p, src, m => do
      let c ← deref p
      if c ≠ slash then .ok (-1, m)
      else
        match ← scanLevel disk fuel address (n = 0) 12 [] (p.drop 1) src m with
        | .returned status m => .ok (status, m)
        | .next p src m => walkLevels n p src m

def fsLoadPath (path : List UInt8) (m : Machine) : Except Stop (Int × Machine) := do
  let c ← deref path
  if c = 0 then .ok (-1, m)
  else if c ≠ slash then .ok (-1, m)
  else do
    let n_levels ← fsPathCount path
    if n_levels = 0 then .ok (-1, m)
    else if address = 0 then .ok (-1, m)
    else walkLevels disk fuel address n_levels path FAT16_ROOTDIR_ADDRESS m

end Path

end Gramado.Boot.Loader
