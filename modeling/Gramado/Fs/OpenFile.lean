import Gramado.Fs.NameLookup
import Gramado.Fs.RoundTrip
import Gramado.Io.SequentialRead

/-! `do_read_file_from_disk`: the file that `open` puts into the table of a process. -/

namespace Gramado.Fs.OpenFile

open Fs.Fat16 Fs.SaveFile Fs.LoadFile Fs.LoadBounds Fs.NameLookup Io.FileObject Io.Stdio
open Io.SequentialRead
open Io.StreamFifo (unread)

def O_CREAT : BitVec 32 := 0x0200#32
def OBJECTS_MAX : Nat := 32
def FILE_LIMIT : Int := 8 * 1024

structure Path where
  chars : List UInt8
  nonzero : ∀ c ∈ chars, c ≠ 0

def Path.next (path : Path) : Path where
  chars := path.chars.tail
  nonzero c hc := path.nonzero c (List.mem_of_mem_tail hc)

def Path.fntos2 (path : Path) : Path where
  chars := fsFntos2 path.chars
  nonzero := (converted_fsFntos2 path.nonzero).nonzero

def Path.string (path : Path) : CString where
  chars := NameLookup.chars path.chars
  length := path.chars.length
  terminated := chars_length path.chars
  nonzero _ hi := chars_ne path.nonzero hi

/-- What the call reads of `sdGRAMADO` and of `sdDE`. -/
structure SystemDirectory where
  initialized : Bool
  address : Nat

structure SystemDirectories where
  sdGRAMADO : SystemDirectory
  sdDE : SystemDirectory

/-- What the call uses of `struct te_d`. -/
structure Process where
  used : Bool
  magic : Int
  objects : Nat → Option File

def Process.Valid (p : Process) : Prop :=
  p.used = true ∧ p.magic = 1234

instance (p : Process) : Decidable p.Valid :=
  inferInstanceAs (Decidable (_ ∧ _))

def Process.setObject (p : Process) (slot : Nat) (f : File) : Process :=
  { p with objects := Function.update p.objects slot (some f) }

/-- What the call works on. `process` is the current process, `none` if there is none. -/
structure OpenState where
  volume : Volume
  memory : Nat → UInt8
  process : Option Process

/-- What `kmalloc` answers: for the text of a new file, for the file structure, for its buffer
and for a larger one. The address zero is `NULL`. -/
structure Blocks where
  text : Nat
  file : Nat
  base : Nat
  large : Nat

structure OpenCall where
  fileName : Option Path
  flags : BitVec 32
  blocks : Blocks

def atSign : UInt8 := 64
def numberSign : UInt8 := 35

def shortcut (d : SystemDirectory) (path : Path) : Option (Nat × Path) :=
  if d.initialized = false then none
  else if d.address = 0 then none
  else some (d.address, path.next)

/-- The directory to search in, and the name from behind the characters that say which. -/
def targetDir (sd : SystemDirectories) (path : Path) : Option (Nat × Path) :=
  if path.chars = [] then none
  else
    let path := if chars path.chars 0 = slash then path.next else path
    if chars path.chars 0 = atSign then shortcut sd.sdGRAMADO path
    else if chars path.chars 0 = numberSign then shortcut sd.sdDE path
    else some (VOLUME1_ROOTDIR_ADDRESS, path)

def OpenCall.target (sd : SystemDirectories) (call : OpenCall) : Option (Nat × Path) :=
  (call.fileName.bind (targetDir sd)).map fun (dir, path) => (dir, path.fntos2)

def clear (memory : Nat → UInt8) (base size : Nat) (a : Nat) : UInt8 :=
  if base ≤ a ∧ a < base + size then 0 else memory a

def newFileText : List UInt8 :=
  "This is a new file.".toList.map fun c => UInt8.ofNat c.toNat

def writeText (memory : Nat → UInt8) (base a : Nat) : UInt8 :=
  if base ≤ a ∧ a < base + BUFSIZ then chars newFileText (a - base) else memory a

def newFileArgs (dir : Nat) (name : Path) (data : Nat → UInt8) : SaveArgs where
  fatAddress := VOLUME1_FAT_ADDRESS
  dirAddress := dir
  dirEntries := FAT16_ROOT_ENTRIES
  fileName := some name.string.chars
  fileSize := 1
  sizeInBytes := 512
  flag := 0x20
  data := data

def createFile (s : OpenState) (block dir : Nat) (name : Path) :
    Except String (Bool × OpenState) :=
  if block = 0 then .ok (false, s)
  else
    let memory := writeText s.memory block
    match fsSaveFile s.volume (newFileArgs dir name fun i => memory (block + i)) with
    | .error e => .error e
    | .ok (rc, v) => .ok (rc = 0, { s with volume := v, memory := memory })

def findFile (s : OpenState) (call : OpenCall) (dir : Nat) (name : Path) :
    Except String (Bool × OpenState) :=
  if (searchInDir (s.volume.dirs dir) name.chars).isSome = true then .ok (true, s)
  else if call.flags &&& O_CREAT ≠ 0 then createFile s call.blocks.text dir name
  else .ok (false, s)

def freeSlot (p : Process) : Option Nat :=
  (List.range OBJECTS_MAX).find? fun slot => (p.objects slot).isNone

/-- `fsGetFileSize`. With more than eleven characters the name is equal to no entry. -/
def getFileSize (v : Volume) (name : Path) (dir : Nat) : Except String (Nat × Volume) :=
  match fsGetFileSize v name.string dir with
  | .error e => .error e
  | .ok (size, v) => .ok (if 11 < name.chars.length then 0 else size, v)

structure Prepared where
  slot : Nat
  dir : Nat
  name : Path
  fsize : Int
  base : Nat
  lbfsize : Nat

def sizeBuffer (s : OpenState) (blocks : Blocks) (slot dir : Nat) (name : Path) :
    Except String (Option Prepared × OpenState) :=
  match getFileSize s.volume name dir with
  | .error e => .error e
  | .ok (size, v) =>
      let s := { s with volume := v }
      let fileSize := toInt32 size
      if fileSize ≤ 0 then .ok (none, s)
      else if fileSize < BUFSIZ then .ok (some ⟨slot, dir, name, fileSize, blocks.base, BUFSIZ⟩, s)
      else if FILE_LIMIT < fileSize then .ok (none, s)
      else if blocks.large = 0 then .ok (none, s)
      else
        let buflen := (fileSize + 8).toNat
        .ok (some ⟨slot, dir, name, fileSize, blocks.large, buflen⟩,
          { s with memory := clear s.memory blocks.large buflen })

def reserve (s : OpenState) (blocks : Blocks) (dir : Nat) (name : Path) :
    Except String (Option Prepared × OpenState) :=
  match s.process with
  | none => .ok (none, s)
  | some p =>
      if ¬ p.Valid then .ok (none, s)
      else
        match freeSlot p with
        | none => .ok (none, s)
        | some slot =>
            if blocks.file = 0 then .ok (none, s)
            else if blocks.base = 0 then .ok (none, s)
            else
              sizeBuffer { s with memory := clear s.memory blocks.base BUFSIZ } blocks slot dir name

def prepare (sd : SystemDirectories) (s : OpenState) (call : OpenCall) :
    Except String (Option Prepared × OpenState) :=
  match call.target sd with
  | none => .ok (none, s)
  | some (dir, name) =>
      match findFile s call dir name with
      | .error e => .error e
      | .ok (false, s) => .ok (none, s)
      | .ok (true, s) => reserve s call.blocks dir name

def Prepared.request (x : Prepared) : LoadArgs where
  fatAddress := VOLUME1_FAT_ADDRESS
  dirAddress := x.dir
  dirEntries := FAT16_ROOT_ENTRIES
  fileName := some x.name.string
  buffer := x.base
  bufferSizeInBytes := x.lbfsize

def bufferAt (memory : Nat → UInt8) (base : Nat) (i : Int) : UInt8 :=
  memory (base + i).toNat

def Prepared.file (x : Prepared) (memory : Nat → UInt8) : File :=
  regularFile x.slot x.base x.fsize (bufferAt memory x.base)

def loadPrepared (fuel : Nat) (s : OpenState) (x : Prepared) :
    Except String (Option File × OpenState) :=
  let loaded := fsLoadFile fuel s.volume s.memory x.request
  match loaded.result with
  | .error e => .error e
  | .ok status =>
      let s := { s with volume := loaded.volume, memory := loaded.memory }
      if status ≠ 0 then .ok (none, s)
      else
        let f := x.file s.memory
        .ok (some f, { s with process := s.process.map fun p => p.setObject x.slot f })

/-- The result is the file, `none` for `NULL`; `fuel` is for the loop of the load. -/
def doReadFileFromDisk (fuel : Nat) (sd : SystemDirectories) (s : OpenState) (call : OpenCall) :
    Except String (Option File × OpenState) :=
  match prepare sd s call with
  | .error e => .error e
  | .ok (none, s) => .ok (none, s)
  | .ok (some x, s) => loadPrepared fuel s x

/-- The chain has a cluster for each sector of `size` bytes. -/
def Covers (fat : Nat → UInt16) (cluster : UInt16) (size : Nat) : Prop :=
  ∀ k, SECTOR_SIZE * (k + 1) < size → GoesOn fat (clusterAt fat cluster k)

/-- The bytes of the file that the entry `i` is for, in the order of its chain. -/
def fileContents (u : Volume) (dir i : Nat) : List UInt8 :=
  (List.range (entrySize (u.dirs dir) i)).map fun k =>
    u.disk (clusterLba (clusterAt u.fat (entryCluster (u.dirs dir) i) (k / SECTOR_SIZE)))
      (k % SECTOR_SIZE)

/-- Reads of the file deliver the bytes of the entry with this name, and no others. -/
def Delivers (u : Volume) (dir : Nat) (name : Path) (f : File) : Prop :=
  ∃ i, searchEntry (u.dirs dir) name.string FAT16_ROOT_ENTRIES = some i ∧
    Covers u.fat (entryCluster (u.dirs dir) i) (entrySize (u.dirs dir) i) ∧
      ∀ lens, readAll f lens = (fileContents u dir i).take (lens.map (asked f)).sum

structure OpenedFile (sd : SystemDirectories) (s : OpenState) (call : OpenCall) (f : File)
    (s' : OpenState) : Prop where
  stored : ∃ p slot, s.process = some p ∧ slot < OBJECTS_MAX ∧ p.objects slot = none ∧
    f.file = slot ∧ s'.process = some (p.setObject slot f)
  delivers : ∃ dir name, call.target sd = some (dir, name) ∧ Delivers s'.volume dir name f

/-- A call that fails leaves the table of the process as it was, and one that succeeds puts a
file with all bytes into a free slot. -/
def OpensWhole (fuel : Nat) (sd : SystemDirectories) (s : OpenState) (call : OpenCall) : Prop :=
  ∀ result s', doReadFileFromDisk fuel sd s call = .ok (result, s') →
    match result with
    | none => s'.process = s.process
    | some f => OpenedFile sd s call f s'

/-- A file that the call loads has at most 8184 bytes, and its chain has a cluster for each of
its sectors. -/
def LoadsWhole (fuel : Nat) (sd : SystemDirectories) (s : OpenState) (call : OpenCall) : Prop :=
  ∀ x s', prepare sd s call = .ok (some x, s') →
    (fsLoadFile fuel s'.volume s'.memory x.request).result = .ok 0 →
      x.fsize ≤ 8184 ∧
        ∀ i, searchEntry (s'.volume.dirs x.dir) x.name.string FAT16_ROOT_ENTRIES = some i →
          Covers s'.volume.mounted.fat (entryCluster (s'.volume.dirs x.dir) i) x.fsize.toNat

variable {v w u : Volume} {fuel n dir i slot : Nat} {memory : Nat → UInt8} {rc status : Int}
  {s s' : OpenState} {call : OpenCall} {name : Path} {blocks : Blocks} {x : Prepared}
  {sd : SystemDirectories}

theorem loadClusters_reads {nreads buffer : Nat} {cluster : UInt16}
    (h : (loadClusters v fuel nreads cluster buffer memory).1 = .ok 0)
    (hgoes : ∀ k < n, GoesOn v.fat (clusterAt v.fat cluster k)) :
    ReadsSector v n buffer cluster ∧ n < fuel := by
  induction fuel generalizing nreads buffer n cluster memory with
  | zero => simp [loadClusters] at h
  | succ fuel ih =>
      rw [loadClusters] at h
      split at h
      · simp at h
      rename_i hvalid
      split at h
      · simp at h
      rename_i hcluster
      split at h
      · simp at h
      rename_i m hread
      rw [not_or, UInt16.not_lt] at hcluster
      have hreads : ReadsCluster v buffer cluster :=
        ⟨by simpa using hvalid, hcluster.1, hcluster.2, readLba_canRead hread⟩
      cases n with
      | zero => exact ⟨hreads, Nat.succ_pos fuel⟩
      | succ n =>
          obtain ⟨hbad, hlast, hend⟩ : GoesOn v.fat cluster := hgoes 0 (Nat.succ_pos n)
          dsimp only at h
          rw [if_neg hbad, if_neg (not_or.mpr ⟨hlast, hend⟩)] at h
          obtain ⟨hrest, hlt⟩ := ih h fun k hk => hgoes (k + 1) (Nat.succ_lt_succ hk)
          exact ⟨⟨hreads, ⟨hbad, hlast, hend⟩, hrest⟩, Nat.succ_lt_succ hlt⟩

theorem fsLoadFile_loaded {a : LoadArgs} (h : (fsLoadFile fuel v memory a).result = .ok 0) :
    ∃ u cluster name w fileSize i, Accepted v a u cluster name w fileSize i := by
  unfold fsLoadFile at h
  split at h
  · simp at h
  rename_i hchecked
  split at h
  · simp at h
  rename_i name hname
  unfold loadNamed at h
  split at h
  · simp at h
  rename_i hnamed
  split at h
  · simp at h
  rename_i hshort
  split at h
  · simp at h
  rename_i fileSize w hsized
  split at h
  · simp at h
  rename_i hfits
  split at h
  · simp at h
  rename_i i hfound
  unfold loadFound at h
  dsimp only at h
  split at h
  · simp at h
  rename_i hvalid
  split at h
  · simp at h
  rename_i u hloaded
  rw [not_or] at hvalid
  exact ⟨u, _, name, w, fileSize, i, hchecked, hname, hnamed, not_lt.mp hshort, hsized,
    not_le.mp hfits, hfound, rfl, ⟨hvalid.1, UInt16.not_lt.mp hvalid.2⟩, hloaded⟩

def reload (v : Volume) (dir : Nat) : Volume :=
  if dir = VOLUME1_ROOTDIR_ADDRESS then v.withRootdir (v.bytesAt VOLUME1_ROOTDIR_LBA) else v

@[simp] theorem reload_fatBits (v : Volume) (dir : Nat) : (reload v dir).fatBits = v.fatBits := by
  unfold reload
  split <;> rfl

@[simp] theorem reload_root (v : Volume) (dir : Nat) : (reload v dir).root = v.root := by
  unfold reload
  split <;> rfl

theorem mounted_fat_eq (v : Volume) : v.mounted.fat =
      if v.fatCacheLoaded = true then v.fat else (v.withFat (v.bytesAt VOLUME1_FAT_LBA)).fat := by
  unfold Volume.mounted
  dsimp only
  split <;> rfl

theorem reload_fat (v : Volume) (dir : Nat) : (reload v dir).mounted.fat = v.mounted.fat := by
  rw [mounted_fat_eq, mounted_fat_eq]
  unfold reload
  split <;> rfl

theorem reload_reload (v : Volume) (dir : Nat) :
    (reload (reload v dir) dir).dirs dir = (reload v dir).dirs dir := by
  unfold reload
  split
  · rename_i hroot
    subst hroot
    funext offset
    simp only [Volume.withRootdir, Function.update_self, Volume.bytesAt]
    split <;> rfl
  · rfl

theorem fsGetFileSize_ok {name : CString} {size : Nat}
    (h : fsGetFileSize v name dir = .ok (size, w)) :
    w = reload v dir ∧ ∃ root, v.root = some root ∧
      size = (searchEntry (w.dirs dir) name root.dirEntries).elim 0 (entrySize (w.dirs dir)) := by
  unfold fsGetFileSize at h
  dsimp only at h
  split at h
  · cases h
  rename_i u hloaded
  have hu : u = reload v dir := by
    unfold reload
    split at hloaded
    · rename_i hroot
      rw [if_pos hroot]
      exact fsLoadRootdir_ok hloaded
    · rename_i hroot
      rw [if_neg hroot]
      exact (Except.ok.inj hloaded).symm
  split at h
  · cases h
  rename_i root hroot
  split at h
  · cases h
  split at h
  · cases h
  have hvroot : v.root = some root := by
    rw [← hroot, hu, reload_root]
  split at h
  · rename_i hnone
    obtain ⟨rfl, rfl⟩ := Prod.mk.inj (Except.ok.inj h)
    exact ⟨hu, root, hvroot, by rw [hnone]; rfl⟩
  · rename_i i hsome
    obtain ⟨rfl, rfl⟩ := Prod.mk.inj (Except.ok.inj h)
    exact ⟨hu, root, hvroot, by rw [hsome]; rfl⟩

theorem fsLoadFat_frame (h : fsLoadFat w = .ok u) :
    u.dirs = w.dirs ∧ u.disk = w.disk ∧ u.fatBits = w.fatBits ∧ u.fat = w.mounted.fat := by
  rw [fsLoadFat_ok h, mounted_fat_eq]
  split <;> exact ⟨rfl, rfl, rfl, rfl⟩

theorem saveClusters_fatBits {data : Nat → UInt8} {turns : Nat}
    (h : saveClusters data turns i v = .ok (rc, w)) : w.fatBits = v.fatBits := by
  induction turns generalizing i v with
  | zero =>
      obtain ⟨_, rfl⟩ := Prod.mk.inj (Except.ok.inj h)
      rfl
  | succ turns ih =>
      rw [saveClusters] at h
      dsimp only at h
      split at h
      · rw [(saveDirAndFat_ok h).2]
        rfl
      split at h
      · cases h
      rename_i u hwrite
      rw [ih h, writeSector_ok hwrite]
      rfl

theorem fsSaveFile_fatBits {a : SaveArgs} (h : fsSaveFile v a = .ok (rc, w)) :
    w.fatBits = v.fatBits := by
  rcases fsSaveFile_cases h with ⟨_, rfl⟩ | ⟨name, u, found, list, hsearched, hend⟩
  · rfl
  have hu : u.fatBits = v.fatBits := by
    rw [mount_ok hsearched.mounted, mounted_fatBits]
  rw [← hu]
  rcases hend with ⟨_, rfl, _⟩ | ⟨index, _, _, hsave⟩
  · rfl
  · exact (saveClusters_fatBits hsave).trans rfl

structure Ready (s : OpenState) (x : Prepared) (s' : OpenState) : Prop where
  process : s'.process = s.process
  slot : ∃ p, s.process = some p ∧ freeSlot p = some x.slot
  sized : ∃ u size, getFileSize u x.name x.dir = .ok (size, s'.volume) ∧
    u.fatBits = s.volume.fatBits ∧ x.fsize = toInt32 size
  pos : 0 < x.fsize
  le : x.fsize ≤ FILE_LIMIT
  lbfsize : (x.lbfsize : Int) = if (BUFSIZ : Int) ≤ x.fsize then x.fsize + 8 else BUFSIZ
  base : x.base ≠ 0

theorem findFile_frame {found : Bool} (h : findFile s call dir name = .ok (found, s')) :
    s'.process = s.process ∧ s'.volume.fatBits = s.volume.fatBits := by
  unfold findFile at h
  split at h
  · obtain ⟨_, rfl⟩ := Prod.mk.inj (Except.ok.inj h)
    exact ⟨rfl, rfl⟩
  split at h
  · unfold createFile at h
    split at h
    · obtain ⟨_, rfl⟩ := Prod.mk.inj (Except.ok.inj h)
      exact ⟨rfl, rfl⟩
    dsimp only at h
    split at h
    · cases h
    rename_i hsave
    obtain ⟨_, rfl⟩ := Prod.mk.inj (Except.ok.inj h)
    exact ⟨rfl, fsSaveFile_fatBits hsave⟩
  · obtain ⟨_, rfl⟩ := Prod.mk.inj (Except.ok.inj h)
    exact ⟨rfl, rfl⟩

theorem sizeBuffer_none (h : sizeBuffer s blocks slot dir name = .ok (none, s')) :
    s'.process = s.process := by
  unfold sizeBuffer at h
  split at h
  · cases h
  dsimp only at h
  repeat' split at h
  all_goals
    obtain ⟨hx, rfl⟩ := Prod.mk.inj (Except.ok.inj h)
    rfl

theorem sizeBuffer_some (hbase : blocks.base ≠ 0)
    (h : sizeBuffer s blocks slot dir name = .ok (some x, s')) :
    x.slot = slot ∧ x.dir = dir ∧ x.name = name ∧ s'.process = s.process ∧
      (∃ size, getFileSize s.volume name dir = .ok (size, s'.volume) ∧ x.fsize = toInt32 size) ∧
      0 < x.fsize ∧ x.fsize ≤ FILE_LIMIT ∧
      (x.lbfsize : Int) = (if (BUFSIZ : Int) ≤ x.fsize then x.fsize + 8 else BUFSIZ) ∧
      x.base ≠ 0 := by
  unfold sizeBuffer at h
  split at h
  · cases h
  rename_i size v hsized
  obtain ⟨fileSize, hfileSize⟩ : ∃ n, n = toInt32 size := ⟨_, rfl⟩
  dsimp only at h
  rw [← hfileSize] at h
  split at h
  · cases h
  rename_i hpos
  split at h
  · rename_i hsmall
    obtain ⟨hx, rfl⟩ := Prod.mk.inj (Except.ok.inj h)
    obtain rfl := Option.some.inj hx
    refine ⟨rfl, rfl, rfl, rfl, ⟨size, hsized, hfileSize⟩, not_le.mp hpos, ?_, ?_, hbase⟩
    · dsimp only [FILE_LIMIT, BUFSIZ] at hsmall ⊢
      omega
    · exact (if_neg (not_le.mpr hsmall)).symm
  rename_i hlarge
  split at h
  · cases h
  rename_i hlimit
  split at h
  · cases h
  rename_i hblock
  obtain ⟨hx, rfl⟩ := Prod.mk.inj (Except.ok.inj h)
  obtain rfl := Option.some.inj hx
  refine ⟨rfl, rfl, rfl, rfl, ⟨size, hsized, hfileSize⟩, not_le.mp hpos, not_lt.mp hlimit, ?_, hblock⟩
  dsimp only
  rw [if_pos (not_lt.mp hlarge)]
  omega

theorem reserve_none (h : reserve s blocks dir name = .ok (none, s')) : s'.process = s.process := by
  unfold reserve at h
  split at h
  · obtain ⟨_, rfl⟩ := Prod.mk.inj (Except.ok.inj h)
    rfl
  split at h
  · obtain ⟨_, rfl⟩ := Prod.mk.inj (Except.ok.inj h)
    rfl
  split at h
  · obtain ⟨_, rfl⟩ := Prod.mk.inj (Except.ok.inj h)
    rfl
  split at h
  · obtain ⟨_, rfl⟩ := Prod.mk.inj (Except.ok.inj h)
    rfl
  split at h
  · obtain ⟨_, rfl⟩ := Prod.mk.inj (Except.ok.inj h)
    rfl
  · exact (sizeBuffer_none h).trans rfl

theorem reserve_some (h : reserve s blocks dir name = .ok (some x, s')) :
    x.dir = dir ∧ x.name = name ∧ Ready s x s' := by
  unfold reserve at h
  split at h
  · cases h
  rename_i p hp
  split at h
  · cases h
  split at h
  · cases h
  rename_i slot hslot
  split at h
  · cases h
  split at h
  · cases h
  rename_i hbase
  obtain ⟨rfl, rfl, rfl, hprocess, ⟨size, hsized, hfsize⟩, hpos, hle, hlbfsize, hx⟩ :=
    sizeBuffer_some hbase h
  exact ⟨rfl, rfl, hprocess, ⟨p, hp, hslot⟩, ⟨_, size, hsized, rfl, hfsize⟩, hpos, hle, hlbfsize,
    hx⟩

theorem prepare_none (h : prepare sd s call = .ok (none, s')) : s'.process = s.process := by
  unfold prepare at h
  split at h
  · obtain ⟨_, rfl⟩ := Prod.mk.inj (Except.ok.inj h)
    rfl
  split at h
  · cases h
  · rename_i hfind
    obtain ⟨_, rfl⟩ := Prod.mk.inj (Except.ok.inj h)
    exact (findFile_frame hfind).1
  · rename_i hfind
    exact (reserve_none h).trans (findFile_frame hfind).1

theorem prepare_some (h : prepare sd s call = .ok (some x, s')) :
    call.target sd = some (x.dir, x.name) ∧ Ready s x s' := by
  unfold prepare at h
  split at h
  · cases h
  rename_i dir name htarget
  split at h
  · cases h
  · cases h
  rename_i u hfind
  obtain ⟨hprocess, hbits⟩ := findFile_frame hfind
  obtain ⟨rfl, rfl, hready⟩ := reserve_some h
  obtain ⟨w, size, hsized, hw, hfsize⟩ := hready.sized
  refine ⟨htarget, hready.process.trans hprocess, ?_, ⟨w, size, hsized, hw.trans hbits, hfsize⟩,
    hready.pos, hready.le, hready.lbfsize, hready.base⟩
  rw [← hprocess]
  exact hready.slot

theorem entrySize_lt (dir : Nat → UInt8) (i : Nat) : entrySize dir i < 2 ^ 32 := by
  have h0 := (dir (FAT16_ENTRY_SIZE * i + 28)).toNat_lt
  have h1 := (dir (FAT16_ENTRY_SIZE * i + 29)).toNat_lt
  have h2 := (dir (FAT16_ENTRY_SIZE * i + 30)).toNat_lt
  have h3 := (dir (FAT16_ENTRY_SIZE * i + 31)).toNat_lt
  rw [entrySize]
  omega

theorem toInt32_of_pos (hn : n < 2 ^ 32) (hpos : 0 < toInt32 n) : toInt32 n = n := by
  rcases lt_or_ge n (2 ^ 31) with hlt | hge
  · exact toInt32_eq_self (by omega) (by omega)
  · -- From 2^31 on the value is negative as an `int`.
    have hwrap : toInt32 n = n - 2 ^ 32 := by
      rw [toInt32, ← Int.sub_bmod_right]
      exact toInt32_eq_self (by push_cast; omega) (by push_cast; omega)
    omega

/-- What a load that succeeds has read: the file of the entry `i`. -/
structure Loaded (v : Volume) (x : Prepared) (i : Nat) (u : Volume) (memory : Nat → UInt8) :
    Prop where
  dirs : u.dirs x.dir = v.dirs x.dir
  fat : u.fat = v.mounted.fat
  found : searchEntry (v.dirs x.dir) x.name.string FAT16_ROOT_ENTRIES = some i
  size : x.fsize = entrySize (v.dirs x.dir) i
  bytes : ∀ k, (∀ j < k / SECTOR_SIZE,
      GoesOn u.fat (clusterAt u.fat (entryCluster (v.dirs x.dir) i) j)) →
    memory (x.base + k) =
      u.disk (clusterLba (clusterAt u.fat (entryCluster (v.dirs x.dir) i) (k / SECTOR_SIZE)))
        (k % SECTOR_SIZE)

theorem getFileSize_ok {size : Nat} (h : getFileSize v name dir = .ok (size, w)) :
    ∃ recorded, fsGetFileSize v name.string dir = .ok (recorded, w) ∧
      size = if 11 < name.chars.length then 0 else recorded := by
  unfold getFileSize at h
  split at h
  · cases h
  · rename_i recorded u hrecorded
    obtain ⟨rfl, rfl⟩ := Prod.mk.inj (Except.ok.inj h)
    exact ⟨recorded, hrecorded, rfl⟩

theorem Ready.size {fileSize : Nat} (h : Ready s x s')
    (hchecked : checkLoad s'.volume x.request = .ok ()) (hshort : x.name.chars.length ≤ 11)
    (hsized : fsGetFileSize s'.volume x.name.string x.dir = .ok (fileSize, w))
    (hfound : searchEntry (w.dirs x.dir) x.name.string FAT16_ROOT_ENTRIES = some i) :
    w.dirs x.dir = s'.volume.dirs x.dir ∧ x.fsize = entrySize (s'.volume.dirs x.dir) i := by
  obtain ⟨u, size, hfirst, _, hfsize⟩ := h.sized
  obtain ⟨recorded, hrecorded, hsize⟩ := getFileSize_ok hfirst
  rw [if_neg (not_lt.mpr hshort)] at hsize
  obtain ⟨hv, root, hroot, hentry⟩ := fsGetFileSize_ok hrecorded
  obtain ⟨hw, _⟩ := fsGetFileSize_ok hsized
  have hdirs : w.dirs x.dir = s'.volume.dirs x.dir := by
    rw [hw, hv, reload_reload]
  obtain ⟨root', hroot', _, hentries⟩ := RoundTrip.checkLoad_root hchecked
  rw [hv, reload_root, hroot] at hroot'
  obtain rfl := Option.some.inj hroot'
  rw [hentries, ← hdirs, hfound] at hentry
  have hpos := h.pos
  rw [hfsize, hsize, hentry] at hpos
  refine ⟨hdirs, ?_⟩
  rw [hfsize, hsize, hentry, ← hdirs]
  exact toInt32_of_pos (entrySize_lt _ _) hpos

theorem Ready.loaded (h : Ready s x s') (hbits : s.volume.fatBits = 16)
    (hload : (fsLoadFile fuel s'.volume s'.memory x.request).result = .ok 0) :
    ∃ i, Loaded s'.volume x i (fsLoadFile fuel s'.volume s'.memory x.request).volume
      (fsLoadFile fuel s'.volume s'.memory x.request).memory := by
  obtain ⟨u, cluster, name, w, fileSize, i, haccepted⟩ := fsLoadFile_loaded hload
  obtain rfl : x.name.string = name := Option.some.inj haccepted.fileName
  rw [fsLoadFile_accepted haccepted] at hload ⊢
  obtain ⟨hdirs, hsize⟩ := h.size haccepted.checked haccepted.short haccepted.sized haccepted.found
  obtain ⟨hudirs, _, hubits, hufat⟩ := fsLoadFat_frame haccepted.loaded
  obtain ⟨hw, _⟩ := fsGetFileSize_ok haccepted.sized
  obtain ⟨u₀, _, hfirst, hu₀, _⟩ := h.sized
  have hbits' : u.fatBits = 16 := by
    obtain ⟨_, hrecorded, _⟩ := getFileSize_ok hfirst
    rw [hubits, hw, reload_fatBits, (fsGetFileSize_ok hrecorded).1, reload_fatBits, hu₀, hbits]
  have hfound := haccepted.found
  have hstarts := haccepted.starts
  change searchEntry (w.dirs x.dir) _ _ = _ at hfound
  change cluster = entryCluster (w.dirs x.dir) i at hstarts
  rw [hdirs] at hfound hstarts
  refine ⟨i, ?_, ?_, hfound, hsize, ?_⟩
  · rw [hudirs, hdirs]
  · rw [hufat, hw, reload_fat]
  · intro k hgoes
    rw [← hstarts] at hgoes ⊢
    obtain ⟨hreads, hfuel⟩ := loadClusters_reads hload hgoes
    have hbase : x.base + SECTOR_SIZE * (k / SECTOR_SIZE) ≠ 0 := by
      have := h.base
      omega
    have hsector : (loadClusters u fuel 0 cluster x.base s'.memory).2
        (x.base + SECTOR_SIZE * (k / SECTOR_SIZE) + k % SECTOR_SIZE) = _ :=
      loadClusters_sector hbits' hreads hbase hfuel (Nat.mod_lt k (by decide))
    rw [Nat.add_assoc, Nat.div_add_mod] at hsector
    exact hsector

theorem Prepared.lbfsize_file (x : Prepared) (memory : Nat → UInt8) :
    (x.file memory).lbfsize = if (BUFSIZ : Int) ≤ x.fsize then x.fsize + 8 else BUFSIZ :=
  rfl

theorem Ready.readable (h : Ready s x s') (hlimit : x.fsize ≤ 8184) (memory : Nat → UInt8) :
    Readable (x.file memory) := by
  have hbase := h.base
  have hopened : Opened (x.file memory) :=
    .regular x.slot x.base x.fsize _ (by omega) h.pos (by omega)
  refine ⟨opened_stream hopened, ?_, ?_⟩
  · rw [x.lbfsize_file]
    split <;> simp only [BUFSIZ] at * <;> omega
  · rw [x.lbfsize_file]
    split <;> simp only [BUFSIZ] at * <;> omega

theorem Loaded.unread_file (h : Loaded v x i u memory)
    (hcovers : Covers u.fat (entryCluster (u.dirs x.dir) i) (entrySize (u.dirs x.dir) i)) :
    unread (x.file memory) = fileContents u x.dir i := by
  have hunread : unread (x.file memory) =
      readBytes (bufferAt memory x.base) 0 (x.fsize - 0).toNat := rfl
  rw [hunread, h.size, ← h.dirs, fileContents, readBytes]
  have hcast : ((entrySize (u.dirs x.dir) i : Int) - 0).toNat = entrySize (u.dirs x.dir) i := by
    omega
  rw [hcast]
  apply List.map_congr_left
  intro k hk
  have hlt := List.mem_range.mp hk
  have hplace : (x.base + (0 + (k : Int))).toNat = x.base + k := by omega
  have hbytes := h.bytes k
  rw [← h.dirs] at hbytes
  rw [bufferAt, hplace]
  apply hbytes
  intro j hj
  apply hcovers
  rw [SECTOR_SIZE] at hj ⊢
  omega

theorem Ready.delivers_iff (h : Ready s x s') (hloaded : Loaded s'.volume x i u memory) :
    Delivers u x.dir x.name (x.file memory) ↔ x.fsize ≤ 8184 ∧ Covers s'.volume.mounted.fat
        (entryCluster (s'.volume.dirs x.dir) i) x.fsize.toNat := by
  have hpos := h.pos
  have hsize : x.fsize.toNat = entrySize (u.dirs x.dir) i := by
    rw [hloaded.dirs, hloaded.size, Int.toNat_natCast]
  rw [hsize, ← hloaded.dirs, ← hloaded.fat]
  constructor
  · rintro ⟨j, hfound, hcovers, hreads⟩
    rw [hloaded.dirs, hloaded.found] at hfound
    obtain rfl := Option.some.inj hfound
    refine ⟨?_, hcovers⟩
    by_contra hlarge
    have hlbfsize : 8 * 1024 < (x.file memory).lbfsize := by
      rw [x.lbfsize_file, if_pos (by simp only [BUFSIZ]; omega)]
      omega
    have hone : asked (x.file memory) 1 = 1 := by
      rw [asked, if_neg (by omega)]
      rfl
    have hnothing := hreads [1]
    rw [readAll, readAll, fileReadBuffer_large (.inl rfl) hlbfsize, List.map_singleton, hone]
      at hnothing
    have hlength := congrArg List.length hnothing
    simp [fileContents] at hlength
    omega
  · rintro ⟨hlimit, hcovers⟩
    refine ⟨i, ?_, hcovers, ?_⟩
    · rw [hloaded.dirs]
      exact hloaded.found
    · intro lens
      rw [readAll_eq (h.readable hlimit memory), hloaded.unread_file hcovers]

theorem Ready.free (h : Ready s x s') :
    ∃ p, s.process = some p ∧ x.slot < OBJECTS_MAX ∧ p.objects x.slot = none := by
  obtain ⟨p, hp, hslot⟩ := h.slot
  obtain ⟨hfree, hmem, _⟩ := List.find?_range_eq_some.mp hslot
  exact ⟨p, hp, List.mem_range.mp hmem, by simpa using hfree⟩

theorem OpensWhole.loadsWhole (hopens : OpensWhole fuel sd s call) (hbits : s.volume.fatBits = 16) :
    LoadsWhole fuel sd s call := by
  intro x s' hprepare hload
  obtain ⟨htarget, hready⟩ := prepare_some hprepare
  obtain ⟨i, hloaded⟩ := hready.loaded hbits hload
  have hresult : ∃ t, t.volume = (fsLoadFile fuel s'.volume s'.memory x.request).volume ∧
      doReadFileFromDisk fuel sd s call =
        .ok (some (x.file (fsLoadFile fuel s'.volume s'.memory x.request).memory), t) := by
    rw [doReadFileFromDisk, hprepare]
    dsimp only
    rw [loadPrepared, hload]
    exact ⟨_, rfl, rfl⟩
  obtain ⟨t, ht, hresult⟩ := hresult
  obtain ⟨dir, name, htarget', hdelivers⟩ := (hopens _ _ hresult).delivers
  rw [htarget] at htarget'
  obtain ⟨rfl, rfl⟩ := Prod.mk.inj (Option.some.inj htarget')
  rw [ht] at hdelivers
  obtain ⟨hlimit, hcovers⟩ := (hready.delivers_iff hloaded).mp hdelivers
  refine ⟨hlimit, ?_⟩
  intro j hfound
  rw [hloaded.found] at hfound
  obtain rfl := Option.some.inj hfound
  exact hcovers

theorem LoadsWhole.opensWhole (hwhole : LoadsWhole fuel sd s call) (hbits : s.volume.fatBits = 16) :
    OpensWhole fuel sd s call := by
  intro result t hresult
  unfold doReadFileFromDisk at hresult
  split at hresult
  · cases hresult
  · rename_i hprepare
    obtain ⟨rfl, rfl⟩ := Prod.mk.inj (Except.ok.inj hresult)
    exact prepare_none hprepare
  rename_i x s' hprepare
  obtain ⟨htarget, hready⟩ := prepare_some hprepare
  unfold loadPrepared at hresult
  dsimp only at hresult
  split at hresult
  · cases hresult
  rename_i status hload
  split at hresult
  · obtain ⟨rfl, rfl⟩ := Prod.mk.inj (Except.ok.inj hresult)
    exact hready.process
  rename_i hstatus
  rw [not_not] at hstatus
  rw [hstatus] at hload
  obtain ⟨i, hloaded⟩ := hready.loaded hbits hload
  obtain ⟨hlimit, hcovers⟩ := hwhole x s' hprepare hload
  obtain ⟨p, hp, hslot, hfree⟩ := hready.free
  obtain ⟨rfl, rfl⟩ := Prod.mk.inj (Except.ok.inj hresult)
  refine ⟨⟨p, x.slot, hp, hslot, hfree, rfl, ?_⟩, x.dir, x.name, htarget,
    (hready.delivers_iff hloaded).mpr ⟨hlimit, hcovers i hloaded.found⟩⟩
  dsimp only
  rw [hready.process, hp]
  rfl

/-- Opening a file meets its description exactly if the file that is loaded has at most 8184
bytes and a chain that reaches its end. -/
theorem opens_whole_iff (fuel : Nat) (sd : SystemDirectories) (s : OpenState) (call : OpenCall)
    (hbits : s.volume.fatBits = 16) : OpensWhole fuel sd s call ↔ LoadsWhole fuel sd s call :=
  ⟨fun hopens => hopens.loadsWhole hbits, fun hwhole => hwhole.opensWhole hbits⟩

/-- A volume with one file, whose clusters are the first of the data area that the search for
free clusters knows. -/
def volumeOf (size clusters : Nat) : Volume where
  disk lba offset :=
    if lba = VOLUME1_ROOTDIR_LBA then entry offset else 7
  sectors := 65536
  fatBits := 16
  fat c := if c = 2 + clusters then 0xFFF8 else UInt16.ofNat (c + 1)
  fatCacheLoaded := true
  fatCacheSaved := true
  dirs _ offset := entry offset
  clustersToSave _ := 0
  beforeList := 0
  root := some ⟨true, 1234, 1, FAT16_ROOT_ENTRIES⟩
where
  entry (offset : Nat) : UInt8 :=
    if offset = 0 then 65 else if offset < 11 then 32 else if offset = 26 then 3
    else if offset = 28 then UInt8.ofNat size else if offset = 29 then UInt8.ofNat (size / 256)
    else 0

def stateOf (size clusters : Nat) : OpenState where
  volume := volumeOf size clusters
  memory _ := 0
  process := some ⟨true, 1234, fun _ => none⟩

def noDirectories : SystemDirectories := ⟨⟨false, 0⟩, ⟨false, 0⟩⟩

def openA : OpenCall where
  fileName := some ⟨[97], by simp⟩
  flags := 0
  blocks := ⟨0x400000, 0x500000, 0x600000, 0x700000⟩

def loadResult (fuel : Nat) (sd : SystemDirectories) (s : OpenState) (call : OpenCall) :
    Option (Int × Int) :=
  match prepare sd s call with
  | .ok (some x, s') =>
      match (fsLoadFile fuel s'.volume s'.memory x.request).result with
      | .ok status => some (x.fsize, status)
      | .error _ => none
  | _ => none

theorem loadResult_eq (hprepare : prepare sd s call = .ok (some x, s'))
    (hload : (fsLoadFile fuel s'.volume s'.memory x.request).result = .ok status) :
    loadResult fuel sd s call = some (x.fsize, status) := by
  rw [loadResult, hprepare]
  dsimp only
  rw [hload]

theorem loadResult_some {size : Int} (h : loadResult fuel sd s call = some (size, status)) :
    ∃ x s', prepare sd s call = .ok (some x, s') ∧ x.fsize = size ∧
      (fsLoadFile fuel s'.volume s'.memory x.request).result = .ok status := by
  unfold loadResult at h
  split at h
  · rename_i x s' hprepare
    split at h
    · rename_i hload
      obtain ⟨rfl, rfl⟩ := Prod.mk.inj (Option.some.inj h)
      exact ⟨x, s', hprepare, rfl, hload⟩
    · cases h
  · cases h

theorem opens_whole_iff_small : OpensWhole 2 noDirectories (stateOf 100 1) openA := by
  have hresult : loadResult 2 noDirectories (stateOf 100 1) openA = some (100, 0) := by
    decide +kernel
  apply (opens_whole_iff 2 noDirectories (stateOf 100 1) openA rfl).mpr
  intro x s' hprepare hload
  rw [loadResult_eq hprepare hload] at hresult
  obtain ⟨hsize, _⟩ := Prod.mk.inj (Option.some.inj hresult)
  refine ⟨by omega, ?_⟩
  intro i _ k hk
  rw [SECTOR_SIZE] at hk
  omega

/-- A file of 8192 bytes is opened over a buffer of 8200 bytes, which no read accepts. -/
theorem large_file_not_whole :
    ¬ ∀ (fuel : Nat) (sd : SystemDirectories) (s : OpenState) (call : OpenCall),
      s.volume.fatBits = 16 → OpensWhole fuel sd s call := by
  intro hclaim
  have hresult : loadResult 17 noDirectories (stateOf 8192 16) openA = some (8192, 0) := by
    decide +kernel
  obtain ⟨x, s', hprepare, hsize, hload⟩ := loadResult_some hresult
  have hlimit := ((hclaim _ _ _ _ rfl).loadsWhole rfl x s' hprepare hload).1
  omega

end Gramado.Fs.OpenFile
