import Gramado.Boot.Sectors

/-! The directories of a path in the boot loader's heap. -/

namespace Gramado.Boot.Directories

open Library.CheckedRead (ok_bind)
open Fs.NameLookup (dot space slash)
open Fs.ShortName (padTo length_padTo)
open Boot.Loader Boot.Sectors

variable {k n max : Nat} {address : UInt32}

section Directories

variable {disk : Disk} {m : Machine} {cs : List UInt16} {c : UInt16}

def allocated (m : Machine) : Machine :=
  { m with
    last_valid := m.g_heap_pointer
    last_size := 16384
    g_heap_pointer := m.g_heap_pointer + BLOCK
    g_available_heap := m.g_available_heap - BLOCK
    mmblockCount := m.mmblockCount + 1 }

theorem heap_pointer_range (h : Loaded disk m) : 0x1100000 ≤ m.g_heap_pointer.toNat ∧
      m.g_heap_pointer.toNat + m.g_available_heap.toNat = 0x12F7FF0 :=
  ⟨UInt32.le_iff_toNat_le.mp h.start, h.heap⟩

theorem malloc_room (h : Loaded disk m) (hroom : Room m (k + 1)) :
    malloc m (512 * 32) = .ok (m.g_heap_pointer + MMBLOCK_HEADER_SIZE, allocated m) := by
  obtain ⟨hstart, hend⟩ := heap_pointer_range h
  have hbytes := hroom.bytes
  have hblocks := hroom.blocks
  have havailable : ¬ m.g_available_heap = 0 := by
    intro hzero
    rw [hzero] at hbytes
    have hz : (0 : UInt32).toNat = 0 := rfl
    omega
  have hsize : ¬ (16384 : UInt32) ≥ m.g_available_heap := by
    rw [ge_iff_le, UInt32.le_iff_toNat_le]
    have hs : (16384 : UInt32).toNat = 16384 := rfl
    omega
  have hlow : ¬ (m.g_heap_pointer < BL_HEAP_START ∨ m.g_heap_pointer ≥ BL_HEAP_END) := by
    rw [ge_iff_le, UInt32.lt_iff_toNat_lt, UInt32.le_iff_toNat_le]
    have hs : BL_HEAP_START.toNat = 0x1100000 := rfl
    have he : BL_HEAP_END.toNat = 0x12F7FF0 := rfl
    omega
  have hfooter : m.g_heap_pointer + MMBLOCK_HEADER_SIZE + 16384 = m.g_heap_pointer + BLOCK := by
    rw [UInt32.add_assoc]
    rfl
  have hspent : m.g_heap_pointer + BLOCK - m.g_heap_pointer = BLOCK := by
    rw [UInt32.add_comm, UInt32.add_sub_cancel]
  have hcount : ¬ m.mmblockCount + 1 ≥ MMBLOCK_COUNT_MAX := by
    omega
  change heapAllocateMemory m 16384 = _
  rw [heapAllocateMemory, if_neg havailable, if_neg (by decide), if_neg hsize]
  change tryAgain (255 + 1) { m with last_size := 16384 } 16384 = _
  rw [tryAgain]
  dsimp only
  rw [if_neg hcount, if_neg hlow, hfooter, hspent]
  rfl

theorem chain_head (h : Chain disk c cs) : ∃ rest, cs = c :: rest := by
  cases h with
  | last _ _ => exact ⟨[], rfl⟩
  | next _ _ => exact ⟨_, rfl⟩

theorem chain_data (h : Chain disk c cs) : ∀ d ∈ cs, DataCluster d := by
  induction h with
  | last hc _ => simpa using hc
  | next hc _ ih => exact List.forall_mem_cons.mpr ⟨hc, ih⟩

theorem dataCluster_limits (h : DataCluster c) : ¬ (c = 0 ∨ c > 0xFFF0) := by
  obtain ⟨hlow, hhigh⟩ := h
  rw [UInt16.le_iff_toNat_le] at hlow hhigh
  have h2 : (2 : UInt16).toNat = 2 := rfl
  have hf : (0xFFEF : UInt16).toNat = 0xFFEF := rfl
  rintro (rfl | hgt)
  · have hz : (0 : UInt16).toNat = 0 := rfl
    omega
  · have hgt := UInt16.lt_iff_toNat_lt.mp hgt
    have hl : (0xFFF0 : UInt16).toNat = 0xFFF0 := rfl
    omega

theorem fatLoaded_readLba (h : FatLoaded disk m) (hlow : 0x1100000 ≤ address.toNat)
    (hhigh : address.toNat + 512 < 2 ^ 32) (lba : Nat) :
    FatLoaded disk (readLba disk m address lba) := by
  intro x hx
  have hbase : FAT16_FAT_ADDRESS.toNat = 0xC00000 := rfl
  rw [readLba_memory, if_neg, h x hx]
  rw [UInt32.toNat_sub, UInt32.toNat_add, UInt32.toNat_ofNat', hbase]
  omega

theorem next_sector (h : address.toNat + 512 < 2 ^ 32) :
    (address + SECTOR_SIZE).toNat = address.toNat + 512 := by
  have hs : SECTOR_SIZE.toNat = 512 := rfl
  rw [UInt32.toNat_add, hs, Nat.mod_eq_of_lt h]

theorem followed_of_chain (h : Chain disk c cs) (hloaded : ∀ d ∈ cs, d < 0x8000)
    (hmark : ∀ d ∈ cs.getLast?, EndMark (fatWord disk d)) (hfat : FatLoaded disk m)
    (hlow : 0x1100000 ≤ address.toNat) (hhigh : address.toNat + 512 * cs.length < 2 ^ 32) :
    Followed disk m address cs := by
  induction h generalizing m address with
  | @last c _ _ =>
      have hfat := fatLoaded_readLba hfat hlow hhigh (clusterLba c)
      rw [Followed, fatEntry_loaded hfat (hloaded c List.mem_cons_self)]
      exact hmark c rfl
  | @next c cs _ hrest ih =>
      obtain ⟨rest, rfl⟩ := chain_head hrest
      obtain ⟨hc, hloaded⟩ := List.forall_mem_cons.mp hloaded
      have hlength : address.toNat + 512 * (c :: fatWord disk c :: rest).length =
          address.toNat + 512 + 512 * (fatWord disk c :: rest).length := by
        rw [List.length_cons]
        omega
      rw [hlength] at hhigh
      have hsector : address.toNat + 512 < 2 ^ 32 := Nat.lt_of_le_of_lt (Nat.le_add_right _ _) hhigh
      have hfat := fatLoaded_readLba hfat hlow hsector (clusterLba c)
      refine ⟨fatEntry_loaded hfat hc, ih hloaded ?_ hfat ?_ ?_⟩
      · intro d hd
        exact hmark d (by rwa [List.getLast?_cons_cons])
      · rw [next_sector hsector]
        exact Nat.le_add_right_of_le hlow
      · rw [next_sector hsector]
        exact hhigh

structure Advances (disk : Disk) (m m' : Machine) (cs : List UInt16) : Prop where
  loaded : Loaded disk m'
  shown : Shows disk m' (m.g_heap_pointer + MMBLOCK_HEADER_SIZE) (cs.map clusterLba)
  pointer : m'.g_heap_pointer = m.g_heap_pointer + BLOCK
  available : m'.g_available_heap.toNat + 16448 = m.g_available_heap.toNat
  blocks : m'.mmblockCount = m.mmblockCount + 1
  reads : m'.reads = m.reads ++ stored (m.g_heap_pointer + MMBLOCK_HEADER_SIZE) cs
  below : ∀ x, x < BL_HEAP_START → m'.memory x = m.memory x

theorem buffer_toNat (h : Loaded disk m) :
    (m.g_heap_pointer + MMBLOCK_HEADER_SIZE).toNat = m.g_heap_pointer.toNat + 64 := by
  obtain ⟨hstart, hend⟩ := heap_pointer_range h
  have hs : MMBLOCK_HEADER_SIZE.toNat = 64 := rfl
  rw [UInt32.toNat_add, hs]
  omega

theorem outside_buffer (h : Loaded disk m) (hcs : cs.length ≤ 32) {x : UInt32}
    (hx : x.toNat < m.g_heap_pointer.toNat + 64 ∨
      m.g_heap_pointer.toNat + 64 + 512 * cs.length ≤ x.toNat) :
    (storeAll disk (allocated m) (m.g_heap_pointer + MMBLOCK_HEADER_SIZE) cs).memory x =
      m.memory x := by
  obtain ⟨hstart, hend⟩ := heap_pointer_range h
  have hlt := x.toNat_lt
  rw [storeAll_memory (by omega), if_neg]
  · rfl
  · rw [UInt32.toNat_sub, buffer_toNat h]
    omega

theorem dirByte_chain (disk : Disk) (cs : List UInt16) (x : Nat) :
    dirByte disk (cs.map clusterLba) x =
      if x < 512 * cs.length then chainByte disk cs x else 0 := by
  rw [dirByte, List.length_map]
  by_cases hx : x < 512 * cs.length
  · have hdiv : x / 512 < cs.length := by omega
    rw [if_pos hdiv, if_pos hx, chainByte]
    simp [List.getD_eq_getElem?_getD, hdiv]
  · rw [if_neg (by omega), if_neg hx]

theorem advances (h : Loaded disk m) (hbytes : 16448 ≤ m.g_available_heap.toNat)
    (hcs : cs.length ≤ 32) :
    Advances disk m (storeAll disk (allocated m) (m.g_heap_pointer + MMBLOCK_HEADER_SIZE) cs)
      cs := by
  obtain ⟨hstart, hend⟩ := heap_pointer_range h
  have hblock : BLOCK.toNat = 16448 := rfl
  have hpointer : (m.g_heap_pointer + BLOCK).toNat = m.g_heap_pointer.toNat + 16448 := by
    rw [UInt32.toNat_add, hblock]
    omega
  have havailable : (m.g_available_heap - BLOCK).toNat = m.g_available_heap.toNat - 16448 := by
    have hle : BLOCK ≤ m.g_available_heap := UInt32.le_iff_toNat_le.mpr (by rwa [hblock])
    rw [UInt32.toNat_sub_of_le _ _ hle, hblock]
  have hshown : Shows disk
      (storeAll disk (allocated m) (m.g_heap_pointer + MMBLOCK_HEADER_SIZE) cs)
      (m.g_heap_pointer + MMBLOCK_HEADER_SIZE) (cs.map clusterLba) := by
    intro x hx
    have hoffset : m.g_heap_pointer + MMBLOCK_HEADER_SIZE + UInt32.ofNat x -
        (m.g_heap_pointer + MMBLOCK_HEADER_SIZE) = UInt32.ofNat x := by
      rw [UInt32.add_comm, UInt32.add_sub_cancel]
    have hsmall : (UInt32.ofNat x).toNat = x := by
      rw [UInt32.toNat_ofNat', Nat.mod_eq_of_lt (by omega)]
    have haddress : (m.g_heap_pointer + MMBLOCK_HEADER_SIZE + UInt32.ofNat x).toNat =
        m.g_heap_pointer.toNat + 64 + x := by
      rw [UInt32.toNat_add, buffer_toNat h, hsmall]
      omega
    rw [storeAll_memory (by omega), hoffset, hsmall, dirByte_chain]
    have hzero : m.memory (m.g_heap_pointer + MMBLOCK_HEADER_SIZE + UInt32.ofNat x) = 0 := by
      apply h.cleared
      · rw [UInt32.le_iff_toNat_le, haddress]
        omega
      · rw [UInt32.lt_iff_toNat_lt, haddress]
        have he : BL_HEAP_END.toNat = 0x12F7FF0 := rfl
        omega
    exact congrArg _ hzero
  have hbelow : ∀ x, x < BL_HEAP_START →
      (storeAll disk (allocated m) (m.g_heap_pointer + MMBLOCK_HEADER_SIZE) cs).memory x =
        m.memory x := by
    intro x hx
    rw [UInt32.lt_iff_toNat_lt] at hx
    have hs : BL_HEAP_START.toNat = 0x1100000 := rfl
    exact outside_buffer h hcs (.inl (by omega))
  have hfat : FatLoaded disk
      (storeAll disk (allocated m) (m.g_heap_pointer + MMBLOCK_HEADER_SIZE) cs) := by
    intro x hx
    rw [hbelow, h.fat x hx]
    rw [UInt32.lt_iff_toNat_lt, UInt32.toNat_add, UInt32.toNat_ofNat']
    have hbase : FAT16_FAT_ADDRESS.toNat = 0xC00000 := rfl
    have hs : BL_HEAP_START.toNat = 0x1100000 := rfl
    omega
  have hcleared : ∀ x, m.g_heap_pointer + BLOCK ≤ x → x < BL_HEAP_END →
      (storeAll disk (allocated m) (m.g_heap_pointer + MMBLOCK_HEADER_SIZE) cs).memory x = 0 := by
    intro x hlow hhigh
    rw [UInt32.le_iff_toNat_le, hpointer] at hlow
    rw [outside_buffer h hcs (.inr (by omega))]
    exact h.cleared x (UInt32.le_iff_toNat_le.mpr (by omega)) hhigh
  have hle : BL_HEAP_START ≤ m.g_heap_pointer + BLOCK := by
    rw [UInt32.le_iff_toNat_le, hpointer]
    have hs : BL_HEAP_START.toNat = 0x1100000 := rfl
    omega
  have hheap : (m.g_heap_pointer + BLOCK).toNat + (m.g_available_heap - BLOCK).toNat =
      BL_HEAP_END.toNat := by
    rw [hpointer, havailable]
    have he : BL_HEAP_END.toNat = 0x12F7FF0 := rfl
    omega
  obtain ⟨hroot, hstatus, hp, ha, hcount, hreads⟩ := storeAll_fields disk (allocated m)
    (m.g_heap_pointer + MMBLOCK_HEADER_SIZE) cs
  refine ⟨⟨hfat, ?_, ?_, ?_, ?_⟩, hshown, hp, ?_, hcount, ?_, hbelow⟩
  · rw [hroot, hstatus]
    simp only [allocated, h.status, and_self]
  · rw [hp]
    exact hle
  · rw [hp, ha]
    exact hheap
  · rw [hp]
    exact hcleared
  · rw [ha]
    change (m.g_available_heap - BLOCK).toNat + 16448 = _
    omega
  · rw [hreads]
    simp only [allocated]

theorem allocated_memory (m : Machine) : (allocated m).memory = m.memory := by
  simp only [allocated]

theorem allocated_status (h : Loaded disk m) :
    (allocated m).g_fat16_root_status = true ∧ (allocated m).g_fat16_fat_status = true := by
  simp only [allocated, h.status, and_self]

theorem allocated_shows {src : UInt32} {dir : Directory} (h : Shows disk m src dir) :
    Shows disk (allocated m) src dir := by
  intro x hx
  rw [allocated_memory]
  exact h x hx

theorem allocated_fat (h : FatLoaded disk m) : FatLoaded disk (allocated m) := by
  intro x hx
  rw [allocated_memory]
  exact h x hx

end Directories

def Plain (c : UInt8) : Prop := space < c ∧ c < 128 ∧ c ≠ dot ∧ c ≠ slash

structure Component (max : Nat) (w : List UInt8) : Prop where
  nonempty : w ≠ []
  length : w.length ≤ max
  plain : ∀ c ∈ w, Plain c

section Levels

variable {disk : Disk} {m : Machine} {src address : UInt32} {dir : Directory}
  {name : List UInt8} {cs : List UInt16} {fuel : Nat} {isLast : Bool}

theorem scanLevel_append {w : List UInt8} (h : ∀ c ∈ w, Plain c) (hn : w.length ≤ n)
    (copied p : List UInt8) :
    scanLevel disk fuel address isLast n copied (w ++ p) src m =
      scanLevel disk fuel address isLast (n - w.length) (copied ++ w) p src m := by
  induction w generalizing n copied with
  | nil => simp
  | cons c w ih =>
      obtain ⟨⟨-, -, hdot, hslash⟩, hw⟩ := List.forall_mem_cons.mp h
      obtain ⟨n, rfl⟩ : ∃ k, n = k + 1 := ⟨n - 1, by simp at hn; omega⟩
      rw [List.cons_append, scanLevel, deref, ok_bind, if_neg hdot, if_neg hslash,
        List.drop_succ_cons, List.drop_zero, ih hw (by simpa using hn), List.append_assoc,
        List.singleton_append, List.length_cons, Nat.add_sub_add_right]

theorem component_head (h : Component max name) (rest : List UInt8) :
    (name ++ rest).headD 0 ≠ 0 := by
  obtain ⟨c, tail, rfl⟩ := List.exists_cons_of_ne_nil h.nonempty
  obtain ⟨hspace, -⟩ := h.plain c List.mem_cons_self
  rintro heq
  rw [List.cons_append, List.headD_cons] at heq
  rw [heq] at hspace
  exact absurd hspace (by decide)

theorem padTo_head (h : Component max name) : (padTo n name).headD 0 ≠ 0 := component_head h _

theorem loadDirectory_clear (hshows : Shows disk m src dir) (hloaded : Loaded disk m)
    (hroom : Room m (k + 1)) (hsrc : src ≠ 0) (hname : Component 8 name)
    (hclear : Clear disk dir name cs) (p : List UInt8) :
    loadDirectory disk fuel name p src m = if cs.length ≤ fuel then
        .ok (.next p (m.g_heap_pointer + MMBLOCK_HEADER_SIZE)
          (storeAll disk (allocated m) (m.g_heap_pointer + MMBLOCK_HEADER_SIZE) cs))
      else .error .hang := by
  obtain ⟨e, -, -, hfirst, hchain⟩ := hclear.entry
  obtain ⟨hstart, hend⟩ := heap_pointer_range hloaded
  have hbuffer := buffer_toNat hloaded
  have hdst : m.g_heap_pointer + MMBLOCK_HEADER_SIZE ≠ 0 := by
    intro heq
    rw [heq] at hbuffer
    have hz : (0 : UInt32).toNat = 0 := rfl
    omega
  have hsize := hclear.size
  have hfollowed : Followed disk (allocated m) (m.g_heap_pointer + MMBLOCK_HEADER_SIZE) cs :=
    followed_of_chain hchain hclear.loaded hclear.mark (allocated_fat hloaded.fat)
      (by omega) (by omega)
  obtain ⟨rest, rfl⟩ := chain_head hchain
  obtain ⟨hdata, hrest⟩ := List.forall_mem_cons.mp (chain_data hchain)
  have hlength : (padTo 11 name).length = 11 := length_padTo (Nat.le_trans hname.length (by decide))
  rw [loadDirectory, malloc_room hloaded hroom, ok_bind]
  dsimp only
  rw [if_neg hdst, fsLoadFile_eq (allocated_shows hshows) (allocated_status hloaded) hlength
    (padTo_head hname) hdst hsrc, hfirst]
  dsimp only
  rw [if_neg (dataCluster_limits hdata), loadChain_followed hrest hfollowed]
  split_ifs
  · rfl
  · rfl

theorem scanLevel_directory (hname : Component 8 name) (p : List UInt8) :
    scanLevel disk fuel address isLast 12 [] (name ++ slash :: p) src m =
      loadDirectory disk fuel name (slash :: p) src m := by
  have hlength := hname.length
  obtain ⟨k, hk⟩ : ∃ k, 12 - name.length = k + 1 := ⟨11 - name.length, by omega⟩
  rw [scanLevel_append hname.plain (by omega), hk, List.nil_append, scanLevel, deref, ok_bind,
    if_neg (by decide), if_pos rfl]

theorem walk_directory (hshows : Shows disk m src dir) (hloaded : Loaded disk m)
    (hroom : Room m (k + 1)) (hsrc : src ≠ 0) (hname : Component 8 name)
    (hclear : Clear disk dir name cs) (n : Nat) (p : List UInt8) :
    walkLevels disk fuel address (n + 1) (slash :: (name ++ slash :: p)) src m =
      if cs.length ≤ fuel then
        walkLevels disk fuel address n (slash :: p) (m.g_heap_pointer + MMBLOCK_HEADER_SIZE)
          (storeAll disk (allocated m) (m.g_heap_pointer + MMBLOCK_HEADER_SIZE) cs)
      else .error .hang := by
  rw [walkLevels, deref, ok_bind, if_neg (by simp), List.drop_succ_cons, List.drop_zero,
    scanLevel_directory hname, loadDirectory_clear hshows hloaded hroom hsrc hname hclear]
  split_ifs
  · rfl
  · rfl

/-- Where the walk stands behind some directories, with room for `j` further ones. -/
structure Walked (disk : Disk) (m m' : Machine) (src : UInt32) (dir : Directory)
    (css : List (List UInt16)) (j : Nat) : Prop where
  shown : Shows disk m' src dir
  source : src ≠ 0
  loaded : Loaded disk m'
  room : Room m' j
  reads : m'.reads = m.reads ++ heapReads m.g_heap_pointer css
  below : ∀ x, x < BL_HEAP_START → m'.memory x = m.memory x

theorem walk_leads (address : UInt32) {names : List (List UInt8)} {css : List (List UInt16)}
    {last : Directory}
    (h : Leads disk dir names css last) (hshows : Shows disk m src dir)
    (hloaded : Loaded disk m) (hsrc : src ≠ 0) {j : Nat} (hroom : Room m (names.length + j))
    (hnames : ∀ w ∈ names, Component 8 w) :
    ∃ m' src', Walked disk m m' src' last css j ∧ ∀ fuel n p,
      walkLevels disk fuel address (names.length + n)
          (names.flatMap (slash :: ·) ++ slash :: p) src m =
        if ∀ cs ∈ css, cs.length ≤ fuel then walkLevels disk fuel address n (slash :: p) src' m'
        else .error .hang := by
  induction h generalizing m src with
  | here dir =>
      rw [List.length_nil, Nat.zero_add] at hroom
      refine ⟨m, src, ⟨hshows, hsrc, hloaded, hroom, by simp [heapReads], fun x _ => rfl⟩, ?_⟩
      intro fuel n p
      simp
  | @down dir last name names cs css hclear _ ih =>
      obtain ⟨hname, hnames⟩ := List.forall_mem_cons.mp hnames
      rw [List.length_cons, Nat.add_right_comm] at hroom
      have hbytes := hroom.bytes
      have hblocks := hroom.blocks
      have hadvances := advances hloaded (by omega) hclear.size
      have hbuffer := buffer_toNat hloaded
      have hdst : m.g_heap_pointer + MMBLOCK_HEADER_SIZE ≠ 0 := by
        intro heq
        rw [heq] at hbuffer
        have hz : (0 : UInt32).toNat = 0 := rfl
        omega
      have havailable := hadvances.available
      have hroom' : Room (storeAll disk (allocated m) (m.g_heap_pointer + MMBLOCK_HEADER_SIZE) cs)
          (names.length + j) := by
        constructor
        · omega
        · rw [hadvances.blocks]
          omega
      obtain ⟨m', src', hwalked, hrest⟩ := ih hadvances.shown hadvances.loaded hdst hroom' hnames
      refine ⟨m', src', ⟨hwalked.shown, hwalked.source, hwalked.loaded, hwalked.room, ?_, ?_⟩, ?_⟩
      · rw [hwalked.reads, hadvances.reads, hadvances.pointer, heapReads, List.append_assoc]
      · intro x hx
        rw [hwalked.below x hx, hadvances.below x hx]
      · intro fuel n p
        have htext : (name :: names).flatMap (slash :: ·) ++ slash :: p =
            slash :: (name ++ (names.flatMap (slash :: ·) ++ slash :: p)) := by
          simp
        obtain ⟨tail, htail⟩ :
            ∃ tail, names.flatMap (slash :: ·) ++ slash :: p = slash :: tail := by
          cases names with
          | nil => exact ⟨p, rfl⟩
          | cons w names => exact ⟨_, rfl⟩
        rw [htext, htail, List.length_cons, Nat.add_right_comm,
          walk_directory hshows hloaded hroom hsrc hname hclear, ← htail, hrest]
        simp only [List.forall_mem_cons]
        split_ifs with hfuel hrestFuel hboth hboth
        · rfl
        · exact absurd ⟨hfuel, hrestFuel⟩ hboth
        · exact absurd hboth.2 hrestFuel
        · rfl
        · exact absurd ‹_ ∧ _›.1 hfuel
        · rfl

def eleven (stem ext : List UInt8) : List UInt8 := padTo 8 stem ++ padTo 3 ext

def lastLevel (stem ext : List UInt8) : List UInt8 := slash :: (stem ++ dot :: (ext ++ [0]))

variable {stem ext : List UInt8}

theorem copyExtension_eq (h : ext.length ≤ 3) : copyExtension 4 (ext ++ [0]) =
    if ext.length = 3 then .ok (ext ++ [0]) else .error .outside := by
  match ext with
  | [] => rfl
  | [_] => rfl
  | [_, _] => rfl
  | [_, _, _] => rfl

theorem eleven_length (hstem : stem.length ≤ 8) (hext : ext.length ≤ 3) :
    (eleven stem ext).length = 11 := by
  rw [eleven, List.length_append, length_padTo hstem, length_padTo hext]

theorem eleven_head (hstem : Component 8 stem) : (eleven stem ext).headD 0 ≠ 0 := by
  rw [eleven, padTo, List.append_assoc]
  exact component_head hstem _

theorem walk_last (fuel : Nat) (hshows : Shows disk m src dir) (hloaded : Loaded disk m)
    (hsrc : src ≠ 0)
    (haddress : address ≠ 0) (hstem : Component 8 stem) (hext : Component 3 ext) :
    walkLevels disk fuel address 1 (lastLevel stem ext) src m = if 7 ≤ stem.length then .ok (-1, m)
      else if ext.length = 3 then
        match firstNamed disk dir (eleven stem ext) with
        | none => .error .hang
        | some e =>
            if dirCluster disk dir e = 0 ∨ dirCluster disk dir e > 0xFFF0 then .ok (-1, m)
            else (loadChain disk fuel m address (dirCluster disk dir e)).map fun m => (0, m)
      else .error .outside := by
  have hlength := hstem.length
  obtain ⟨k, hk⟩ : ∃ k, 12 - stem.length = k + 1 := ⟨11 - stem.length, by omega⟩
  rw [lastLevel, walkLevels, deref, ok_bind, if_neg (by simp), List.drop_succ_cons,
    List.drop_zero, scanLevel_append hstem.plain (by omega), hk, List.nil_append, scanLevel, deref,
    ok_bind, if_pos rfl, if_neg (by simp)]
  split_ifs with hseven hthree
  · rfl
  · have hname : padTo 8 stem ++ (ext ++ [0]).take 3 ++ [0] = eleven stem ext ++ [0] := by
      rw [List.take_append_of_le_length (by omega), List.take_of_length_le (by omega), eleven,
        padTo, padTo, hthree]
      simp
    rw [loadLast, List.drop_succ_cons, List.drop_zero, copyExtension_eq hext.length,
      if_pos hthree, ok_bind, hname, fsLoadFile_eq hshows hloaded.status
        (eleven_length hlength hext.length) (eleven_head hstem) haddress hsrc]
    cases firstNamed disk dir (eleven stem ext) with
    | none => rfl
    | some e =>
        dsimp only
        split_ifs
        · rfl
        · cases loadChain disk fuel m address (dirCluster disk dir e) with
          | error e => rfl
          | ok m' => rfl
  · rw [loadLast, List.drop_succ_cons, List.drop_zero, copyExtension_eq hext.length, if_neg hthree]
    rfl

end Levels

end Gramado.Boot.Directories
