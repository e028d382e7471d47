import Gramado.Boot.Loader

/-! The volume that the boot loader loads from: its directories, the chains of its files, and what
the memory has of them. -/

namespace Gramado.Boot.Sectors

open Fs.ShortName (padTo)
open Boot.Loader

abbrev Directory := List Nat

def rootDirectory : Directory := (List.range 32).map (FAT16_ROOTDIR_LBA + ·)

def dirByte (disk : Disk) (dir : Directory) (x : Nat) : UInt8 :=
  if x / 512 < dir.length then disk (dir.getD (x / 512) 0) (x % 512) else 0

def dirName (disk : Disk) (dir : Directory) (e : Nat) : List UInt8 :=
  (List.range 11).map fun i => dirByte disk dir (32 * e + i)

def dirAttribute (disk : Disk) (dir : Directory) (e : Nat) : UInt8 := dirByte disk dir (32 * e + 11)

def dirCluster (disk : Disk) (dir : Directory) (e : Nat) : UInt16 :=
  littleEndian (dirByte disk dir (32 * e + 26)) (dirByte disk dir (32 * e + 27))

def Label (disk : Disk) (dir : Directory) (e : Nat) : Prop := dirAttribute disk dir e &&& 8 ≠ 0

def Live (disk : Disk) (dir : Directory) (e : Nat) : Prop :=
  dirByte disk dir (32 * e) ≠ 0 ∧ dirByte disk dir (32 * e) ≠ 0xE5

/-- A name belongs to one entry, a label or a part of a long name has no cluster, and behind the
first entry with a zero there are only such entries. -/
structure WellFormed (disk : Disk) (dir : Directory) : Prop where
  size : dir.length ≤ 32
  ends : ∀ e e', e ≤ e' → dirByte disk dir (32 * e) = 0 → dirByte disk dir (32 * e') = 0
  unique : ∀ e e', dirName disk dir e = dirName disk dir e' → Live disk dir e →
    ¬ Label disk dir e → ¬ Label disk dir e' → e = e'
  labels : ∀ e, Live disk dir e → Label disk dir e → dirCluster disk dir e = 0

structure Entry (disk : Disk) (dir : Directory) (name : List UInt8) (e : Nat) : Prop where
  inside : e < 16 * dir.length
  name : dirName disk dir e = name
  kind : ¬ Label disk dir e

def firstNamed (disk : Disk) (dir : Directory) (name : List UInt8) : Option Nat :=
  (List.range 512).find? fun e => dirName disk dir e = name

def fatWord (disk : Disk) (cluster : UInt16) : UInt16 :=
  littleEndian (disk (FAT16_FAT_LBA + cluster.toNat / 256) (2 * (cluster.toNat % 256)))
    (disk (FAT16_FAT_LBA + cluster.toNat / 256) (2 * (cluster.toNat % 256) + 1))

def DataCluster (cluster : UInt16) : Prop := 2 ≤ cluster ∧ cluster ≤ 0xFFEF

/-- The clusters of a file, of which the last one has a mark. -/
inductive Chain (disk : Disk) : UInt16 → List UInt16 → Prop where
  | last {c : UInt16} : DataCluster c → 0xFFF8 ≤ fatWord disk c → Chain disk c [c]
  | next {c : UInt16} {cs : List UInt16} : DataCluster c → Chain disk (fatWord disk c) cs →
      Chain disk c (c :: cs)

def EndMark (next : UInt16) : Prop := next = 0xFFFF ∨ next = 0xFFF8

instance (next : UInt16) : Decidable (EndMark next) := inferInstanceAs (Decidable (_ ∨ _))

/-- A directory that the loader finds and loads: nothing else stands in front of it under its
name, and its clusters lie in the part of the FAT that is in memory. -/
structure Clear (disk : Disk) (dir : Directory) (name : List UInt8) (cs : List UInt16) : Prop where
  entry : ∃ e, Entry disk dir (padTo 11 name) e ∧ dirAttribute disk dir e &&& 16 ≠ 0 ∧
    firstNamed disk dir (padTo 11 name) = some e ∧ Chain disk (dirCluster disk dir e) cs
  size : cs.length ≤ 32
  loaded : ∀ c ∈ cs, c < 0x8000
  mark : ∀ c ∈ cs.getLast?, EndMark (fatWord disk c)

/-- The directories of a path lead to the last one, by their clusters. -/
inductive Leads (disk : Disk) : Directory → List (List UInt8) → List (List UInt16) → Directory →
    Prop where
  | here (dir : Directory) : Leads disk dir [] [] dir
  | down {dir last : Directory} {name : List UInt8} {names : List (List UInt8)}
      {cs : List UInt16} {css : List (List UInt16)} : Clear disk dir name cs →
        Leads disk (cs.map clusterLba) names css last →
          Leads disk dir (name :: names) (cs :: css) last

/-- The FAT in memory, while the sectors are stored, leads along the clusters. -/
def Followed (disk : Disk) : Machine → UInt32 → List UInt16 → Prop
  | _, _, [] => False
  | m, address, [c] => EndMark (fatEntry (readLba disk m address (clusterLba c)) c)
  | m, address, c :: d :: cs => fatEntry (readLba disk m address (clusterLba c)) c = d ∧
      Followed disk (readLba disk m address (clusterLba c)) (address + SECTOR_SIZE) (d :: cs)

def stored : UInt32 → List UInt16 → List (UInt32 × Nat)
  | _, [] => []
  | address, c :: cs => (address, clusterLba c) :: stored (address + SECTOR_SIZE) cs

def storeAll (disk : Disk) : Machine → UInt32 → List UInt16 → Machine
  | m, _, [] => m
  | m, address, c :: cs =>
      storeAll disk (readLba disk m address (clusterLba c)) (address + SECTOR_SIZE) cs

def BLOCK : UInt32 := 16448

def heapReads : UInt32 → List (List UInt16) → List (UInt32 × Nat)
  | _, [] => []
  | pointer, cs :: css =>
      stored (pointer + MMBLOCK_HEADER_SIZE) cs ++ heapReads (pointer + BLOCK) css

structure Room (m : Machine) (k : Nat) : Prop where
  bytes : 16448 * k ≤ m.g_available_heap.toNat
  blocks : m.mmblockCount + k < MMBLOCK_COUNT_MAX

def Shows (disk : Disk) (m : Machine) (address : UInt32) (dir : Directory) : Prop :=
  ∀ x < 16384, m.memory (address + UInt32.ofNat x) = dirByte disk dir x

def FatLoaded (disk : Disk) (m : Machine) : Prop :=
  ∀ x < 65536, m.memory (FAT16_FAT_ADDRESS + UInt32.ofNat x) =
    disk (FAT16_FAT_LBA + x / 512) (x % 512)

/-- The loader once it has cleared the memory and loaded the FAT. -/
structure Loaded (disk : Disk) (m : Machine) : Prop where
  fat : FatLoaded disk m
  status : m.g_fat16_root_status = true ∧ m.g_fat16_fat_status = true
  start : BL_HEAP_START ≤ m.g_heap_pointer
  heap : m.g_heap_pointer.toNat + m.g_available_heap.toNat = BL_HEAP_END.toNat
  cleared : ∀ x, m.g_heap_pointer ≤ x → x < BL_HEAP_END → m.memory x = 0

structure Booted (disk : Disk) (m : Machine) : Prop extends Loaded disk m where
  rootdir : Shows disk m FAT16_ROOTDIR_ADDRESS rootDirectory

variable {m m' : Machine} {c : UInt16} {fuel e : Nat}

section Sectors

variable {disk : Disk} {m : Machine} {address : UInt32} {cs : List UInt16}

theorem storeAll_fields (disk : Disk) (m : Machine) (address : UInt32) (cs : List UInt16) :
    (storeAll disk m address cs).g_fat16_root_status = m.g_fat16_root_status ∧
      (storeAll disk m address cs).g_fat16_fat_status = m.g_fat16_fat_status ∧
      (storeAll disk m address cs).g_heap_pointer = m.g_heap_pointer ∧
      (storeAll disk m address cs).g_available_heap = m.g_available_heap ∧
      (storeAll disk m address cs).mmblockCount = m.mmblockCount ∧
      (storeAll disk m address cs).reads = m.reads ++ stored address cs := by
  induction cs generalizing m address with
  | nil => simp [storeAll, stored]
  | cons c cs ih =>
      obtain ⟨hroot, hfat, hpointer, havailable, hcount, hreads⟩ :=
        ih (readLba disk m address (clusterLba c)) (address + SECTOR_SIZE)
      refine ⟨hroot, hfat, hpointer, havailable, hcount, hreads.trans ?_⟩
      simp [readLba, stored]

theorem storeAll_cons (c : UInt16) (cs : List UInt16) : storeAll disk m address (c :: cs) =
    storeAll disk (readLba disk m address (clusterLba c)) (address + SECTOR_SIZE) cs :=
  rfl

theorem readLba_reads (lba : Nat) :
    (readLba disk m address lba).reads = m.reads ++ [(address, lba)] :=
  rfl

theorem readLba_memory (x : UInt32) (lba : Nat) : (readLba disk m address lba).memory x =
    if (x - address).toNat < 512 then disk lba (x - address).toNat else m.memory x := by
  simp only [readLba, SECTOR_SIZE, UInt32.lt_iff_toNat_lt]
  rfl

def chainByte (disk : Disk) (cs : List UInt16) (x : Nat) : UInt8 :=
  disk (clusterLba (cs.getD (x / 512) 0)) (x % 512)

theorem sub_sector (x address : UInt32) : (x - (address + SECTOR_SIZE)).toNat =
    if 512 ≤ (x - address).toNat then (x - address).toNat - 512
    else (x - address).toNat + (2 ^ 32 - 512) := by
  have hx := x.toNat_lt
  have ha := address.toNat_lt
  simp only [UInt32.toNat_sub, UInt32.toNat_add, SECTOR_SIZE]
  have hsize : (512 : UInt32).toNat = 512 := rfl
  rw [hsize]
  split_ifs
  · omega
  · omega

theorem storeAll_memory (h : 512 * cs.length ≤ 2 ^ 32) (x : UInt32) :
    (storeAll disk m address cs).memory x =
      if (x - address).toNat < 512 * cs.length then chainByte disk cs (x - address).toNat
      else m.memory x := by
  induction cs generalizing m address with
  | nil => simp [storeAll]
  | cons c cs ih =>
      rw [List.length_cons] at h ⊢
      rw [storeAll, ih (by omega), sub_sector, readLba_memory]
      rcases Nat.lt_or_ge (x - address).toNat 512 with hlt | hge
      · have hfirst : (x - address).toNat / 512 = 0 := by omega
        rw [if_neg (by rw [if_neg (by omega)]; omega), if_pos hlt, if_pos (by omega), chainByte,
          hfirst, List.getD_cons_zero, Nat.mod_eq_of_lt hlt]
      · have hsucc : (x - address).toNat / 512 = ((x - address).toNat - 512) / 512 + 1 := by omega
        have hmod : ((x - address).toNat - 512) % 512 = (x - address).toNat % 512 := by omega
        rw [if_pos hge, if_neg (by omega : ¬ (x - address).toNat < 512), chainByte, chainByte,
          hsucc, List.getD_cons_succ, hmod]
        simp only [show (x - address).toNat - 512 < 512 * cs.length ↔
          (x - address).toNat < 512 * (cs.length + 1) by omega]

theorem fatEntry_congr (h : ∀ x, 0xC00000 ≤ x → x < 0xC20000 → m.memory x = m'.memory x)
    (c : UInt16) :
    fatEntry m c = fatEntry m' c := by
  have hc := c.toNat_lt
  have hlow : (FAT16_FAT_ADDRESS + 2 * c.toUInt32).toNat = 0xC00000 + 2 * c.toNat := by
    simp only [FAT16_FAT_ADDRESS, UInt32.toNat_add, UInt32.toNat_mul, UInt16.toNat_toUInt32]
    have htwo : (2 : UInt32).toNat = 2 := rfl
    have hbase : (12582912 : UInt32).toNat = 12582912 := rfl
    rw [htwo, hbase]
    omega
  have hhigh : (FAT16_FAT_ADDRESS + 2 * c.toUInt32 + 1).toNat = 0xC00000 + 2 * c.toNat + 1 := by
    rw [UInt32.toNat_add, hlow]
    have hone : (1 : UInt32).toNat = 1 := rfl
    omega
  have hsame (x : UInt32) (hx : 0xC00000 ≤ x.toNat ∧ x.toNat < 0xC20000) :
      m.memory x = m'.memory x :=
    h x (UInt32.le_iff_toNat_le.mpr hx.1) (UInt32.lt_iff_toNat_lt.mpr hx.2)
  rw [fatEntry, halfword, hsame _ (by omega), hsame _ (by omega)]
  rfl

theorem readLba_congr (disk : Disk) (address : UInt32) {P : UInt32 → Prop}
    (h : ∀ x, P x → m.memory x = m'.memory x) (lba : Nat) :
    ∀ x, P x → (readLba disk m address lba).memory x = (readLba disk m' address lba).memory x := by
  intro x hx
  rw [readLba_memory, readLba_memory, h x hx]

theorem followed_congr (h : ∀ x, 0xC00000 ≤ x ∧ x < 0xC20000 → m.memory x = m'.memory x) :
    Followed disk m address cs ↔ Followed disk m' address cs := by
  induction cs generalizing m m' address with
  | nil => rfl
  | cons c cs ih =>
      have hread := readLba_congr disk address h (clusterLba c)
      have hentry := fatEntry_congr (fun x hlow hhigh => hread x ⟨hlow, hhigh⟩) c
      cases cs with
      | nil => rw [Followed, Followed, hentry]
      | cons d cs => rw [Followed, Followed, hentry, ih hread]

theorem fatEntry_loaded (h : FatLoaded disk m) (hc : c < 0x8000) :
    fatEntry m c = fatWord disk c := by
  have hlt : c.toNat < 32768 := UInt16.lt_iff_toNat_lt.mp hc
  have hlow : 2 * c.toUInt32 = UInt32.ofNat (2 * c.toNat) := by
    apply UInt32.toNat_inj.mp
    have htwo : (2 : UInt32).toNat = 2 := rfl
    rw [UInt32.toNat_mul, UInt16.toNat_toUInt32, UInt32.toNat_ofNat', htwo]
  have hhigh : FAT16_FAT_ADDRESS + UInt32.ofNat (2 * c.toNat) + 1 =
      FAT16_FAT_ADDRESS + UInt32.ofNat (2 * c.toNat + 1) := by
    rw [UInt32.ofNat_add, ← UInt32.add_assoc]
    rfl
  have hdiv : 2 * c.toNat / 512 = c.toNat / 256 := by omega
  have hmod : 2 * c.toNat % 512 = 2 * (c.toNat % 256) := by omega
  have hdiv' : (2 * c.toNat + 1) / 512 = c.toNat / 256 := by omega
  have hmod' : (2 * c.toNat + 1) % 512 = 2 * (c.toNat % 256) + 1 := by omega
  rw [fatEntry, halfword, hlow, hhigh, h _ (by omega), h _ (by omega), hdiv, hmod, hdiv', hmod',
    fatWord]

theorem clusterLba_injective {d : UInt16} (h : clusterLba c = clusterLba d) : c = d := by
  apply UInt16.toNat_inj.mp
  simp only [clusterLba, FAT16_DATAAREA_LBA] at h
  omega

theorem dataCluster_not_endMark (h : DataCluster c) : ¬ EndMark c := by
  rintro (rfl | rfl)
  · exact absurd h.2 (by decide)
  · exact absurd h.2 (by decide)

theorem loadChain_succ (fuel : Nat) (c : UInt16) : loadChain disk (fuel + 1) m address c =
    if EndMark (fatEntry (readLba disk m address (clusterLba c)) c) then
      .ok (readLba disk m address (clusterLba c))
    else loadChain disk fuel (readLba disk m address (clusterLba c)) (address + SECTOR_SIZE)
      (fatEntry (readLba disk m address (clusterLba c)) c) :=
  rfl

theorem loadChain_followed (hcs : ∀ d ∈ cs, DataCluster d) (h : Followed disk m address (c :: cs)) :
    loadChain disk fuel m address c =
      if (c :: cs).length ≤ fuel then .ok (storeAll disk m address (c :: cs))
      else .error .hang := by
  induction cs generalizing m address c fuel with
  | nil =>
      cases fuel with
      | zero => rfl
      | succ fuel =>
          have hmark : EndMark (fatEntry (readLba disk m address (clusterLba c)) c) := h
          rw [loadChain_succ, if_pos hmark, if_pos (by simp)]
          rfl
  | cons d cs ih =>
      obtain ⟨hd, hcs⟩ := List.forall_mem_cons.mp hcs
      obtain ⟨hnext, h⟩ := h
      cases fuel with
      | zero => rfl
      | succ fuel =>
          rw [loadChain_succ, hnext, if_neg (dataCluster_not_endMark hd), ih hcs h, storeAll_cons c]
          simp only [List.length_cons, Nat.succ_le_succ_iff]

theorem loadChain_reads (h : loadChain disk fuel m address c = .ok m') :
    ∃ more, m'.reads = m.reads ++ (address, clusterLba c) :: more := by
  induction fuel generalizing m address c with
  | zero => cases h
  | succ fuel ih =>
      rw [loadChain_succ] at h
      split_ifs at h
      · cases h
        exact ⟨[], rfl⟩
      · obtain ⟨more, hmore⟩ := ih h
        simp only [readLba_reads, List.append_assoc, List.singleton_append] at hmore
        exact ⟨_, hmore⟩

theorem followed_of_loadChain (h : loadChain disk fuel m address c = .ok m')
    (hreads : m'.reads = m.reads ++ stored address (c :: cs)) :
    Followed disk m address (c :: cs) := by
  induction cs generalizing m address c fuel with
  | nil =>
      cases fuel with
      | zero => cases h
      | succ fuel =>
          rw [loadChain_succ] at h
          split_ifs at h with hmark
          · exact hmark
          · obtain ⟨more, hmore⟩ := loadChain_reads h
            have hlength := congrArg List.length (hmore.symm.trans hreads)
            simp [readLba_reads, stored] at hlength
  | cons d cs ih =>
      cases fuel with
      | zero => cases h
      | succ fuel =>
          rw [loadChain_succ] at h
          split_ifs at h with hmark
          · cases h
            have hlength := congrArg List.length hreads
            simp [readLba_reads, stored] at hlength
          · obtain ⟨more, hmore⟩ := loadChain_reads h
            have hsame := hmore.symm.trans hreads
            simp only [readLba_reads, stored, List.append_assoc, List.singleton_append,
              List.append_cancel_left_eq, List.cons.injEq, Prod.mk.injEq, true_and] at hsame
            have hnext := clusterLba_injective hsame.1
            rw [hnext] at h
            refine ⟨hnext, ih h ?_⟩
            rw [hreads]
            simp [readLba_reads, stored]

end Sectors

section Search

variable {disk : Disk} {m : Machine} {src : UInt32} {dir : Directory} {name : List UInt8}

theorem strncmp_append {a b : List UInt8} (h : a.length = b.length) (s t : List UInt8) :
    strncmp (a ++ s) (b ++ t) a.length = 0 ↔ a = b ∧ s.headD 0 = 0 ∧ t.headD 0 = 0 := by
  induction a generalizing b with
  | nil =>
      obtain rfl := List.eq_nil_of_length_eq_zero h.symm
      simp [strncmp]
  | cons c a ih =>
      cases b with
      | nil => cases h
      | cons d b =>
          rw [List.length_cons, List.length_cons, Nat.succ_inj] at h
          simp only [List.cons_append, List.length_cons, strncmp, List.headD_cons, List.tail_cons]
          by_cases hcd : c = d
          · simp [hcd, ih h]
          · simp [hcd]

theorem ofNat_add (x y : Nat) : UInt32.ofNat (x + y) = UInt32.ofNat x + UInt32.ofNat y :=
  UInt32.ofNat_add x y

theorem shows_halfword (h : Shows disk m src dir) {x : Nat} (hx : x + 1 < 16384) :
    halfword m (src + UInt32.ofNat x) =
      littleEndian (dirByte disk dir x) (dirByte disk dir (x + 1)) := by
  have hnext : src + UInt32.ofNat x + 1 = src + UInt32.ofNat (x + 1) := by
    rw [ofNat_add, ← UInt32.add_assoc]
    rfl
  rw [halfword, hnext, h x (by omega), h (x + 1) hx]

theorem shows_name (h : Shows disk m src dir) (he : e < 512) :
    entryName m (src + UInt32.ofNat (32 * e)) = dirName disk dir e := by
  rw [entryName, dirName]
  apply List.map_congr_left
  intro i hi
  rw [List.mem_range] at hi
  rw [UInt32.add_assoc, ← ofNat_add, h _ (by omega)]

theorem dirName_length (e : Nat) : (dirName disk dir e).length = 11 := by
  rw [dirName, List.length_map, List.length_range]

theorem dirName_head (e : Nat) : (dirName disk dir e).headD 0 = dirByte disk dir (32 * e) := rfl

theorem littleEndian_ne_zero {low high : UInt8} (h : low ≠ 0) : littleEndian low high ≠ 0 := by
  intro hzero
  have hl := low.toNat_lt
  have hh := high.toNat_lt
  have hvalue := congrArg UInt16.toNat hzero
  have hne : low.toNat ≠ 0 := fun heq => h (UInt8.toNat_inj.mp heq)
  rw [littleEndian, UInt16.toNat_ofNat', Nat.mod_eq_of_lt (by omega)] at hvalue
  have hz : (0 : UInt16).toNat = 0 := rfl
  omega

theorem two_mul_ofNat (e : Nat) : 2 * UInt32.ofNat (16 * e) = UInt32.ofNat (32 * e) := by
  have heq : 32 * e = 2 * (16 * e) := by omega
  rw [heq]
  exact (UInt32.ofNat_mul 2 (16 * e)).symm

theorem match_iff (h : Shows disk m src dir) (hname : name.length = 11) (hhead : name.headD 0 ≠ 0)
    (he : e < 512) :
    (halfword m (src + 2 * UInt32.ofNat (16 * e)) ≠ 0 ∧
      strncmp (name ++ [0]) (entryName m (src + 2 * UInt32.ofNat (16 * e)) ++ [0]) 11 = 0) ↔
        dirName disk dir e = name := by
  rw [two_mul_ofNat, shows_name h he, shows_halfword h (by omega)]
  have hcompare := @strncmp_append name (dirName disk dir e) (by rw [hname, dirName_length])
    [0] [0]
  rw [hname] at hcompare
  rw [hcompare]
  constructor
  · rintro ⟨-, heq, -⟩
    exact heq.symm
  · rintro rfl
    rw [dirName_head] at hhead
    exact ⟨littleEndian_ne_zero hhead, rfl, rfl, rfl⟩

theorem search_eq (h : Shows disk m src dir) (hname : name.length = 11)
    (hhead : name.headD 0 ≠ 0) (max s : Nat) (hmax : s + max ≤ 512) :
    search m (name ++ [0]) src max (UInt32.ofNat (16 * s)) =
      ((List.range' s max).find? fun e => dirName disk dir e = name).map
        fun e => UInt32.ofNat (16 * e) := by
  induction max generalizing s with
  | zero => rfl
  | succ max ih =>
      have hnext : UInt32.ofNat (16 * s) + 16 = UInt32.ofNat (16 * (s + 1)) := by
        rw [Nat.mul_succ, ofNat_add]
        rfl
      have hmatch := match_iff h hname hhead (e := s) (by omega)
      rw [search, List.range'_succ, List.find?_cons]
      by_cases heq : dirName disk dir s = name
      · rw [if_pos (hmatch.mpr heq)]
        simp [heq]
      · rw [if_neg (fun hx => heq (hmatch.mp hx)), hnext, ih (s + 1) (by omega)]
        simp [heq]

theorem search_firstNamed (h : Shows disk m src dir) (hname : name.length = 11)
    (hhead : name.headD 0 ≠ 0) : search m (name ++ [0]) src 512 0 =
      (firstNamed disk dir name).map fun e => UInt32.ofNat (16 * e) := by
  have hall := search_eq h hname hhead 512 0 (Nat.le_refl 512)
  have hzero : UInt32.ofNat (16 * 0) = 0 := rfl
  rw [hzero] at hall
  rw [firstNamed, List.range_eq_range', hall]

theorem find_range {n : Nat} {p : Nat → Bool} (h : (List.range n).find? p = some e) :
    e < n ∧ p e = true :=
  ⟨List.mem_range.mp (List.mem_of_find?_eq_some h), List.find?_some h⟩

theorem firstNamed_lt (h : firstNamed disk dir name = some e) :
    e < 512 ∧ dirName disk dir e = name := by
  rw [firstNamed] at h
  obtain ⟨he, hp⟩ := find_range h
  exact ⟨he, of_decide_eq_true hp⟩

theorem fsLoadFile_eq (h : Shows disk m src dir)
    (hstatus : m.g_fat16_root_status = true ∧ m.g_fat16_fat_status = true)
    (hname : name.length = 11) (hhead : name.headD 0 ≠ 0) {address : UInt32}
    (haddress : address ≠ 0) (hsrc : src ≠ 0) (fuel : Nat) :
    fsLoadFile disk fuel m (name ++ [0]) address src = match firstNamed disk dir name with
      | none => .error .hang
      | some e =>
          if dirCluster disk dir e = 0 ∨ dirCluster disk dir e > 0xFFF0 then .ok (1, m)
          else (loadChain disk fuel m address (dirCluster disk dir e)).map fun m => (0, m) := by
  obtain ⟨c, tail, rfl⟩ := List.exists_cons_of_ne_nil
    (List.ne_nil_of_length_pos (by omega : 0 < name.length))
  rw [fsLoadFile, if_neg (by exact hhead), if_neg haddress, if_neg hsrc,
    if_neg (by rw [hstatus.1]; simp), search_firstNamed h hname hhead]
  cases hfirst : firstNamed disk dir (c :: tail) with
  | none => rfl
  | some e =>
      obtain ⟨he, -⟩ := firstNamed_lt hfirst
      have hcluster : halfword m (src + 2 * (UInt32.ofNat (16 * e) + 13)) =
          dirCluster disk dir e := by
        have hoffset : 2 * (UInt32.ofNat (16 * e) + 13) = UInt32.ofNat (32 * e + 26) := by
          rw [UInt32.mul_add, two_mul_ofNat, ofNat_add]
          rfl
        rw [hoffset, shows_halfword h (by omega), dirCluster]
      rw [Option.map_some]
      dsimp only
      rw [hcluster, if_neg (c := m.g_fat16_fat_status = false) (by rw [hstatus.2]; simp)]

end Search

end Gramado.Boot.Sectors
