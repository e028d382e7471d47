import Gramado.Library.ByteMemory
import Gramado.Library.Run
import Mathlib.Data.List.Nodup

/-! The kernel heap: `heapAllocateMemory`, `heapFreeMemory` and `heapReuseMemory`. -/

namespace Gramado.Mm.KernelHeap

open Library.ByteMemory Library.Run

def KERNEL_HEAP_START : Nat := 0x30100000
def KERNEL_HEAP_END : Nat := 0x301D0000
def MMBLOCK_COUNT_MAX : Nat := 2 * 4096

def HEADER_SIZE : Nat := 72

structure Heap where
  gHeapPointer : Nat
  gAvailableHeap : Nat
  mmblockCount : Nat
  mmblockList : Nat → Nat
  memory : Memory

def initKernelHeap (memory : Memory) : Heap where
  gHeapPointer := KERNEL_HEAP_START
  gAvailableHeap := KERNEL_HEAP_END - KERNEL_HEAP_START
  mmblockCount := 0
  mmblockList _ := 0
  memory := memory

def userArea (mem : Memory) (b : Nat) : Nat := load mem (b + 16) 8
def userareaSize (mem : Memory) (b : Nat) : Nat := load mem (b + 24) 8
def used (mem : Memory) (b : Nat) : Nat := load mem (b + 44) 4
def magic (mem : Memory) (b : Nat) : Nat := load mem (b + 48) 4

def setUsed (mem : Memory) (b v : Nat) : Memory := store mem (b + 44) 4 v
def setMagic (mem : Memory) (b v : Nat) : Memory := store mem (b + 48) 4 v
def setFree (mem : Memory) (b v : Nat) : Memory := store mem (b + 52) 4 v

/-- The header that `heapAllocateMemory` writes. The fields `pid`, `tid` and `Next` at its end
stay as they are. -/
def writeHeader (mem : Memory) (headerBase userAreaBase userAreaInBytes footer id : Nat) :
    Memory :=
  let mem := store mem headerBase 8 headerBase
  let mem := store mem (headerBase + 8) 8 HEADER_SIZE
  let mem := store mem (headerBase + 16) 8 userAreaBase
  let mem := store mem (headerBase + 24) 8 userAreaInBytes
  let mem := store mem (headerBase + 32) 8 footer
  let mem := store mem (headerBase + 40) 4 id
  let mem := setFree mem headerBase 0
  let mem := setUsed mem headerBase 1
  setMagic mem headerBase 1234

def userAreaInBytes (size : Nat) : Nat := if size = 0 then 8 else size

def heapAllocateMemory (heap : Heap) (size : Nat) : Except String (Nat × Heap) :=
  let bytes := userAreaInBytes size
  if heap.gAvailableHeap = 0 then .ok (0, heap)
  else if heap.gAvailableHeap ≤ bytes then .ok (0, heap)
  else
    let count := heap.mmblockCount + 1
    if MMBLOCK_COUNT_MAX ≤ count then .error "heapAllocateMemory: mmblockCount\n"
    else if heap.gHeapPointer < KERNEL_HEAP_START ∨ KERNEL_HEAP_END ≤ heap.gHeapPointer then
      .error "heapAllocateMemory: Out of kernel heap"
    else
      let headerBase := heap.gHeapPointer
      let userAreaBase := headerBase + HEADER_SIZE
      let footer := (userAreaBase + bytes) % 2 ^ 64
      let total := (footer + 2 ^ 64 - headerBase) % 2 ^ 64
      .ok (userAreaBase,
        { gHeapPointer := footer
          gAvailableHeap := (heap.gAvailableHeap + 2 ^ 64 - total) % 2 ^ 64
          mmblockCount := count
          mmblockList := Function.update heap.mmblockList count headerBase
          memory := writeHeader heap.memory headerBase userAreaBase bytes footer count })

def Accepted (heap : Heap) (ptr : Nat) : Prop :=
  KERNEL_HEAP_START ≤ ptr ∧ ptr < KERNEL_HEAP_END ∧
    used heap.memory (ptr - HEADER_SIZE) = 1 ∧ magic heap.memory (ptr - HEADER_SIZE) = 1234

instance (heap : Heap) (ptr : Nat) : Decidable (Accepted heap ptr) := by
  unfold Accepted
  infer_instance

def heapFreeMemory (heap : Heap) (ptr : Nat) : Heap :=
  if Accepted heap ptr then
    let blockHeader := ptr - HEADER_SIZE
    { heap with memory := setMagic (setUsed heap.memory blockHeader 1) blockHeader 4321 }
  else heap

def blockList (heap : Heap) : List Nat :=
  (List.range' 1 heap.mmblockCount).map heap.mmblockList

def findReusableBlock (heap : Heap) (size : Nat) : Option Nat :=
  if size = 0 then none
  else
    (blockList heap).find? fun b =>
      b ≠ 0 && used heap.memory b = 1 && magic heap.memory b = 4321 &&
        size ≤ userareaSize heap.memory b

def heapReuseMemory (heap : Heap) (size : Nat) (cleanup : Bool) : Nat × Heap :=
  match findReusableBlock heap (userAreaInBytes size) with
  | none => (0, heap)
  | some reuse =>
      let mem := setMagic (setUsed (setFree heap.memory reuse 0) reuse 1) reuse 1234
      let mem :=
        if cleanup then blit mem (userArea mem reuse) (userareaSize mem reuse) fun _ => 0 else mem
      (userArea mem reuse, { heap with memory := mem })

/-- A block: the address of its header, and the size of its user area. -/
structure Area where
  base : Nat
  size : Nat
  deriving DecidableEq, Repr

def Area.user (a : Area) : Nat := a.base + HEADER_SIZE

def Area.stop (a : Area) : Nat := a.user + a.size

def Apart (a b : Area) : Prop := a.stop ≤ b.base ∨ b.stop ≤ a.base

structure HeapSystem where
  heap : Heap
  handed : List Area

/-- Beside the calls, the owner of a block stores a byte into its user area. -/
inductive HeapCall where
  | allocate (size : UInt64)
  | free (ptr : UInt64)
  | reuse (size : UInt64) (cleanup : Bool)
  | write (va : Nat) (byte : UInt8)

def issue (va : Nat) (heap : Heap) (handed : List Area) : Option Area × HeapSystem :=
  if va = 0 then (none, ⟨heap, handed⟩)
  else
    let area : Area := ⟨va - HEADER_SIZE, userareaSize heap.memory (va - HEADER_SIZE)⟩
    (some area, ⟨heap, handed ++ [area]⟩)

def heapStep (s : HeapSystem) : HeapCall → Except String (Option Area × HeapSystem)
  | .allocate size =>
      match heapAllocateMemory s.heap size.toNat with
      | .error e => .error e
      | .ok (va, heap) => .ok (issue va heap s.handed)
  | .free ptr =>
      .ok (none, ⟨heapFreeMemory s.heap ptr.toNat,
        s.handed.filter fun area => area.user ≠ ptr.toNat⟩)
  | .reuse size cleanup =>
      let (va, heap) := heapReuseMemory s.heap size.toNat cleanup
      .ok (issue va heap s.handed)
  | .write va byte =>
      .ok (none, ⟨{ s.heap with memory := Function.update s.heap.memory va byte }, s.handed⟩)

/-- An allocation that passes the test of the free space has room for the header too, the
pointers that are freed are those of blocks that are handed out unless `heapFreeMemory` rejects
them, and only the owners write. -/
def Meets (s : HeapSystem) : HeapCall → Prop
  | .allocate size =>
      s.heap.gAvailableHeap ≤ userAreaInBytes size.toNat ∨
        HEADER_SIZE + userAreaInBytes size.toNat ≤ s.heap.gAvailableHeap
  | .free ptr => Accepted s.heap ptr.toNat → ∃ area ∈ s.handed, area.user = ptr.toNat
  | .reuse _ _ => True
  | .write va _ => ∃ area ∈ s.handed, area.user ≤ va ∧ va < area.stop

structure Headed (mem : Memory) (a : Area) (m : Nat) : Prop where
  user : userArea mem a.base = a.user
  bytes : userareaSize mem a.base = a.size
  valid : used mem a.base = 1
  kind : magic mem a.base = m

/-- The header and the user area of a block are the same. -/
abbrev SameBlock (mem mem' : Memory) (a : Area) : Prop :=
  Agree mem mem' a.base (HEADER_SIZE + a.size)

variable {mem : Memory} {a b : Area} {m n size va : Nat} {s : HeapSystem} {all handed : List Area}
  {heap : Heap}

theorem Headed.congr {mem' : Memory} (h : Headed mem a m) (hagree : Agree mem mem' a.base n)
    (hn : HEADER_SIZE ≤ n) : Headed mem' a m := by
  have hfield : ∀ offset n, offset + n ≤ HEADER_SIZE →
      load mem' (a.base + offset) n = load mem (a.base + offset) n := by
    intro offset n hfit
    exact load_congr hagree (by omega) (by omega)
  constructor
  · rw [userArea, hfield _ _ (by decide)]
    exact h.user
  · rw [userareaSize, hfield _ _ (by decide)]
    exact h.bytes
  · rw [used, hfield _ _ (by decide)]
    exact h.valid
  · rw [magic, hfield _ _ (by decide)]
    exact h.kind

theorem Headed.same {mem' : Memory} (h : Headed mem a m) (hsame : SameBlock mem mem' a) :
    Headed mem' a m :=
  h.congr hsame (Nat.le_add_right _ _)

theorem Headed.mark (h : Headed mem a m) {m' : Nat} (hm' : m' < 256 ^ 4) :
    Headed (setMagic (setUsed mem a.base 1) a.base m') a m' := by
  obtain ⟨huser, hsize, _, _⟩ := h
  unfold userArea at huser
  unfold userareaSize at hsize
  unfold setMagic setUsed
  constructor
  · unfold userArea
    simp (disch := omega) only [load_store_of_disjoint, huser]
  · unfold userareaSize
    simp (disch := omega) only [load_store_of_disjoint, hsize]
  · unfold used
    simp (disch := omega) only [load_store_of_disjoint, load_store]
  · unfold magic
    simp (disch := omega) only [load_store]

theorem headed_writeHeader (mem : Memory) (footer id : Nat) (huser : a.user < 2 ^ 64)
    (hsize : a.size < 2 ^ 64) :
    Headed (writeHeader mem a.base a.user a.size footer id) a 1234 := by
  unfold writeHeader setFree setUsed setMagic
  constructor
  · unfold userArea
    simp (disch := omega) only [load_store_of_disjoint, load_store]
  · unfold userareaSize
    simp (disch := omega) only [load_store_of_disjoint, load_store]
  · unfold used
    simp (disch := omega) only [load_store_of_disjoint, load_store]
  · unfold magic
    simp (disch := omega) only [load_store]

theorem agree_mark (mem : Memory) (v w : Nat) (h : Apart a b) :
    SameBlock mem (setMagic (setUsed mem a.base v) a.base w) b := by
  have hstop : a.stop = a.base + 72 + a.size := rfl
  have hstop' : b.stop = b.base + (HEADER_SIZE + b.size) := Nat.add_assoc ..
  unfold Apart at h
  exact (agree_store mem (by omega)).trans (agree_store _ (by omega))

structure Layout (s : HeapSystem) (all : List Area) : Prop where
  low : KERNEL_HEAP_START ≤ s.heap.gHeapPointer
  high : s.heap.gHeapPointer ≤ KERNEL_HEAP_END
  available : s.heap.gAvailableHeap = KERNEL_HEAP_END - s.heap.gHeapPointer
  blocks : ∀ b ∈ blockList s.heap, ∃ a ∈ all, a.base = b
  inside : ∀ a ∈ all, KERNEL_HEAP_START ≤ a.base ∧ 0 < a.size ∧ a.stop ≤ s.heap.gHeapPointer
  apart : ∀ a ∈ all, ∀ b ∈ all, a ≠ b → Apart a b
  headed : ∀ a ∈ all, a ∈ s.handed ∧ Headed s.heap.memory a 1234 ∨
    a ∉ s.handed ∧ Headed s.heap.memory a 4321
  subset : ∀ a ∈ s.handed, a ∈ all
  nodup : s.handed.Nodup

def HeapInv (s : HeapSystem) : Prop := ∃ all, Layout s all

theorem Layout.remark (h : Layout s all)
    (hheaded : ∀ a ∈ all, a ∈ handed ∧ Headed mem a 1234 ∨ a ∉ handed ∧ Headed mem a 4321)
    (hsubset : ∀ a ∈ handed, a ∈ all) (hnodup : handed.Nodup) :
    Layout ⟨{ s.heap with memory := mem }, handed⟩ all :=
  ⟨h.low, h.high, h.available, h.blocks, h.inside, h.apart, hheaded, hsubset, hnodup⟩

theorem Layout.eq_of_base (h : Layout s all) (ha : a ∈ all) (hb : b ∈ all)
    (hbase : a.base = b.base) :
    a = b := by
  by_contra hne
  have hstop : a.stop = a.base + 72 + a.size := rfl
  have hstop' : b.stop = b.base + 72 + b.size := rfl
  rcases h.apart a ha b hb hne with hlt | hlt <;> omega

theorem heapInv_init (memory : Memory) : HeapInv ⟨initKernelHeap memory, []⟩ := by
  refine ⟨[], Nat.le_refl _, (by decide : KERNEL_HEAP_START ≤ KERNEL_HEAP_END), rfl, ?_, ?_, ?_, ?_, ?_, List.nodup_nil⟩
  all_goals
    intro a ha
    cases ha

def Heap.grow (heap : Heap) (bytes : Nat) : Heap where
  gHeapPointer := heap.gHeapPointer + HEADER_SIZE + bytes
  gAvailableHeap := heap.gAvailableHeap - (HEADER_SIZE + bytes)
  mmblockCount := heap.mmblockCount + 1
  mmblockList := Function.update heap.mmblockList (heap.mmblockCount + 1) heap.gHeapPointer
  memory := writeHeader heap.memory heap.gHeapPointer (heap.gHeapPointer + HEADER_SIZE) bytes
    (heap.gHeapPointer + HEADER_SIZE + bytes) (heap.mmblockCount + 1)

theorem heapAllocateMemory_cases (h : Layout s all)
    (hroom : s.heap.gAvailableHeap ≤ userAreaInBytes size ∨
      HEADER_SIZE + userAreaInBytes size ≤ s.heap.gAvailableHeap)
    (hcall : heapAllocateMemory s.heap size = .ok (va, heap)) :
    va = 0 ∧ heap = s.heap ∨
      va = s.heap.gHeapPointer + HEADER_SIZE ∧ heap = s.heap.grow (userAreaInBytes size) ∧
        s.heap.gHeapPointer + HEADER_SIZE + userAreaInBytes size ≤ KERNEL_HEAP_END := by
  have havailable := h.available
  have hend : KERNEL_HEAP_END = 0x301D0000 := rfl
  have hheader : HEADER_SIZE = 72 := rfl
  unfold heapAllocateMemory at hcall
  dsimp only at hcall
  split at hcall
  · cases hcall
    exact Or.inl ⟨rfl, rfl⟩
  · split at hcall
    · cases hcall
      exact Or.inl ⟨rfl, rfl⟩
    · rename_i hlarge
      split at hcall
      · cases hcall
      · split at hcall
        · cases hcall
        · have hfit : s.heap.gHeapPointer + HEADER_SIZE + userAreaInBytes size ≤
              KERNEL_HEAP_END := by omega
          have hfooter : (s.heap.gHeapPointer + HEADER_SIZE + userAreaInBytes size) % 2 ^ 64 =
              s.heap.gHeapPointer + HEADER_SIZE + userAreaInBytes size := Nat.mod_eq_of_lt (by omega)
          have htotal : (s.heap.gHeapPointer + HEADER_SIZE + userAreaInBytes size + 2 ^ 64 -
              s.heap.gHeapPointer) % 2 ^ 64 = HEADER_SIZE + userAreaInBytes size := by omega
          have hleft : (s.heap.gAvailableHeap + 2 ^ 64 - (HEADER_SIZE + userAreaInBytes size)) %
              2 ^ 64 = s.heap.gAvailableHeap - (HEADER_SIZE + userAreaInBytes size) := by omega
          rw [hfooter, htotal, hleft] at hcall
          cases hcall
          exact Or.inr ⟨rfl, rfl, hfit⟩

theorem blockList_grow (heap : Heap) (bytes : Nat) :
    blockList (heap.grow bytes) = blockList heap ++ [heap.gHeapPointer] := by
  unfold blockList Heap.grow
  dsimp only
  rw [List.range'_concat, List.map_append]
  congr 1
  · apply List.map_congr_left
    intro i hi
    obtain ⟨_, hlt⟩ := List.mem_range'_1.mp hi
    exact Function.update_of_ne (by omega) _ _
  · rw [Nat.one_mul, Nat.add_comm, List.map_singleton, Function.update_self]

theorem agree_writeHeader (mem : Memory) (footer id : Nat) (h : Apart a b) :
    SameBlock mem (writeHeader mem a.base a.user a.size footer id) b := by
  have hstop : a.stop = a.base + 72 + a.size := rfl
  have hstop' : b.stop = b.base + (HEADER_SIZE + b.size) := Nat.add_assoc ..
  unfold Apart at h
  intro i _ _
  unfold writeHeader setFree setUsed setMagic
  simp (disch := omega) only [store_of_outside]

theorem layout_grow (h : Layout s all) {bytes : Nat} (hbytes : 0 < bytes)
    (hfit : s.heap.gHeapPointer + HEADER_SIZE + bytes ≤ KERNEL_HEAP_END) :
    Layout ⟨s.heap.grow bytes, s.handed ++ [⟨s.heap.gHeapPointer, bytes⟩]⟩
      (all ++ [⟨s.heap.gHeapPointer, bytes⟩]) := by
  have hend : KERNEL_HEAP_END = 0x301D0000 := rfl
  have hheader : HEADER_SIZE = 72 := rfl
  have hlow := h.low
  have hapart : ∀ a ∈ all, Apart a ⟨s.heap.gHeapPointer, bytes⟩ := by
    intro a ha
    exact Or.inl (h.inside a ha).2.2
  have hnew : (⟨s.heap.gHeapPointer, bytes⟩ : Area) ∉ all := by
    intro hmem
    have hstop : (⟨s.heap.gHeapPointer, bytes⟩ : Area).stop =
        s.heap.gHeapPointer + 72 + bytes := rfl
    have := (h.inside _ hmem).2.2
    omega
  constructor
  · change KERNEL_HEAP_START ≤ s.heap.gHeapPointer + HEADER_SIZE + bytes
    omega
  · exact hfit
  · change s.heap.gAvailableHeap - (HEADER_SIZE + bytes) =
      KERNEL_HEAP_END - (s.heap.gHeapPointer + HEADER_SIZE + bytes)
    have := h.available
    omega
  · intro b hb
    rw [blockList_grow] at hb
    rcases List.mem_append.mp hb with hold | hlast
    · obtain ⟨a, ha, hbase⟩ := h.blocks b hold
      exact ⟨a, List.mem_append_left _ ha, hbase⟩
    · exact ⟨_, List.mem_append_right _ (List.mem_singleton_self _),
        (List.mem_singleton.mp hlast).symm⟩
  · intro a ha
    change KERNEL_HEAP_START ≤ a.base ∧ 0 < a.size ∧
      a.stop ≤ s.heap.gHeapPointer + HEADER_SIZE + bytes
    rcases List.mem_append.mp ha with hold | hlast
    · obtain ⟨hbase, hsize, hstop⟩ := h.inside a hold
      exact ⟨hbase, hsize, by omega⟩
    · obtain rfl := List.mem_singleton.mp hlast
      exact ⟨hlow, hbytes, Nat.le_refl _⟩
  · intro a ha b hb hne
    rcases List.mem_append.mp ha with ha | ha <;> rcases List.mem_append.mp hb with hb | hb
    · exact h.apart a ha b hb hne
    · obtain rfl := List.mem_singleton.mp hb
      exact hapart a ha
    · obtain rfl := List.mem_singleton.mp ha
      exact (hapart b hb).symm
    · rw [List.mem_singleton.mp ha, List.mem_singleton.mp hb] at hne
      exact absurd rfl hne
  · intro a ha
    change a ∈ s.handed ++ [_] ∧ Headed (s.heap.grow bytes).memory a 1234 ∨
      a ∉ s.handed ++ [_] ∧ Headed (s.heap.grow bytes).memory a 4321
    rw [List.mem_append, List.mem_singleton]
    rcases List.mem_append.mp ha with hold | hlast
    · have hagree : SameBlock s.heap.memory (s.heap.grow bytes).memory a :=
        agree_writeHeader s.heap.memory _ _ (hapart a hold).symm
      have hne : a ≠ ⟨s.heap.gHeapPointer, bytes⟩ := by
        rintro rfl
        exact hnew hold
      rcases h.headed a hold with ⟨hhanded, hheaded⟩ | ⟨hfreed, hheaded⟩
      · exact Or.inl ⟨Or.inl hhanded, hheaded.same hagree⟩
      · exact Or.inr ⟨by simp [hfreed, hne], hheaded.same hagree⟩
    · obtain rfl := List.mem_singleton.mp hlast
      refine Or.inl ⟨Or.inr rfl, ?_⟩
      apply headed_writeHeader s.heap.memory (a := ⟨s.heap.gHeapPointer, bytes⟩)
      · change s.heap.gHeapPointer + HEADER_SIZE < 2 ^ 64
        omega
      · change bytes < 2 ^ 64
        omega
  · intro a ha
    rcases List.mem_append.mp ha with hold | hlast
    · exact List.mem_append_left _ (h.subset a hold)
    · exact List.mem_append_right _ hlast
  · apply h.nodup.append (List.nodup_singleton _)
    intro a hold hlast
    rw [List.mem_singleton.mp hlast] at hold
    exact hnew (h.subset _ hold)

theorem Layout.accepted (h : Layout s all) (ha : a ∈ s.handed) : Accepted s.heap a.user := by
  have hall := h.subset a ha
  obtain ⟨hlow, hsize, hstop⟩ := h.inside a hall
  have hhigh := h.high
  have huser : a.user = a.base + HEADER_SIZE := rfl
  have hend : a.stop = a.user + a.size := rfl
  have hbase : a.user - HEADER_SIZE = a.base := by omega
  obtain ⟨_, hheaded⟩ := (h.headed a hall).resolve_right fun hfreed => hfreed.1 ha
  refine ⟨by omega, by omega, ?_, ?_⟩
  · rw [hbase]
    exact hheaded.valid
  · rw [hbase]
    exact hheaded.kind

theorem layout_free (h : Layout s all) {ptr : Nat}
    (hmeets : Accepted s.heap ptr → ∃ area ∈ s.handed, area.user = ptr) :
    Layout ⟨heapFreeMemory s.heap ptr, s.handed.filter fun area => area.user ≠ ptr⟩ all := by
  rw [heapFreeMemory]
  split
  · rename_i haccepted
    obtain ⟨a, ha, rfl⟩ := hmeets haccepted
    have hbase : a.user - HEADER_SIZE = a.base := Nat.add_sub_cancel _ _
    dsimp only
    rw [hbase]
    apply h.remark
    · intro b hb
      by_cases heq : b = a
      · subst heq
        obtain ⟨_, hheaded⟩ := (h.headed b hb).resolve_right fun hfreed => hfreed.1 ha
        exact Or.inr ⟨by simp, hheaded.mark (by decide)⟩
      · have hagree := agree_mark s.heap.memory 1 4321
          (h.apart a (h.subset a ha) b hb (Ne.symm heq))
        have huser : b.user ≠ a.user := by
          intro huser
          exact heq (h.eq_of_base hb (h.subset a ha) (Nat.add_right_cancel huser))
        rcases h.headed b hb with ⟨hhanded, hheaded⟩ | ⟨hfreed, hheaded⟩
        · exact Or.inl ⟨by simp [hhanded, huser], hheaded.same hagree⟩
        · exact Or.inr ⟨by simp [hfreed], hheaded.same hagree⟩
    · intro b hb
      exact h.subset b (List.mem_filter.mp hb).1
    · exact h.nodup.filter _
  · rename_i hrejected
    have hsame : s.handed.filter (fun area => area.user ≠ ptr) = s.handed := by
      apply List.filter_eq_self.mpr
      intro a ha
      rw [decide_eq_true_eq]
      rintro rfl
      exact hrejected (h.accepted ha)
    rw [hsame]
    exact h

theorem findReusableBlock_some (h : Layout s all) {b : Nat}
    (hfind : findReusableBlock s.heap size = some b) :
    ∃ a ∈ all, a.base = b ∧ size ≤ a.size ∧ a ∉ s.handed ∧ Headed s.heap.memory a 4321 := by
  rw [findReusableBlock] at hfind
  split at hfind
  · cases hfind
  · obtain ⟨a, ha, hbase⟩ := h.blocks b (List.mem_of_find?_eq_some hfind)
    have htest := List.find?_some hfind
    simp only [Bool.and_eq_true, decide_eq_true_eq, ← hbase] at htest
    obtain ⟨⟨_, hmagic⟩, hsize⟩ := htest
    rcases h.headed a ha with ⟨_, hheaded⟩ | ⟨hfreed, hheaded⟩
    · rw [hheaded.kind] at hmagic
      cases hmagic
    · rw [hheaded.bytes] at hsize
      exact ⟨a, ha, hbase, hsize, hfreed, hheaded⟩

theorem agree_setFree (mem : Memory) (v : Nat) (h : Apart a b) :
    SameBlock mem (setFree mem a.base v) b := by
  have hstop : a.stop = a.base + 72 + a.size := rfl
  have hstop' : b.stop = b.base + (HEADER_SIZE + b.size) := Nat.add_assoc ..
  unfold Apart at h
  exact agree_store mem (by omega)

theorem Headed.setFree (h : Headed mem a m) (v : Nat) : Headed (setFree mem a.base v) a m := by
  unfold KernelHeap.setFree
  constructor
  · rw [userArea, load_store_of_disjoint _ (by omega)]
    exact h.user
  · rw [userareaSize, load_store_of_disjoint _ (by omega)]
    exact h.bytes
  · rw [used, load_store_of_disjoint _ (by omega)]
    exact h.valid
  · rw [magic, load_store_of_disjoint _ (by omega)]
    exact h.kind

theorem heapReuseMemory_cases (h : Layout s all) (size : Nat) (cleanup : Bool) :
    heapReuseMemory s.heap size cleanup = (0, s.heap) ∨
      ∃ a ∈ all, a ∉ s.handed ∧ userAreaInBytes size ≤ a.size ∧ ∃ mem,
        heapReuseMemory s.heap size cleanup = (a.user, { s.heap with memory := mem }) ∧
          Headed mem a 1234 ∧ ∀ b ∈ all, a ≠ b → SameBlock s.heap.memory mem b := by
  rw [heapReuseMemory]
  split
  · exact Or.inl rfl
  · rename_i b hfind
    obtain ⟨a, ha, rfl, hsize, hfreed, hheaded⟩ := findReusableBlock_some h hfind
    have hmarked := (hheaded.setFree 0).mark (by decide : 1234 < 256 ^ 4)
    have hagree : ∀ b ∈ all, a ≠ b → SameBlock s.heap.memory
        (setMagic (setUsed (setFree s.heap.memory a.base 0) a.base 1) a.base 1234) b := by
      intro b hb hne
      have hapart := h.apart a ha b hb hne
      exact (agree_setFree s.heap.memory 0 hapart).trans (agree_mark _ 1 1234 hapart)
    right
    refine ⟨a, ha, hfreed, hsize, ?_⟩
    dsimp only
    rw [hmarked.user, hmarked.bytes]
    cases cleanup with
    | false =>
        refine ⟨_, ?_, hmarked, hagree⟩
        simp only [Bool.false_eq_true, if_false]
        rw [hmarked.user]
    | true =>
        have hcleaned := hmarked.congr (agree_blit _ (n := a.size) (fun _ => 0)
          (Or.inl (Nat.le_refl a.user))) (Nat.le_refl _)
        refine ⟨_, ?_, hcleaned, ?_⟩
        · simp only [if_true]
          rw [hcleaned.user]
        · intro b hb hne
          have hstop : a.stop = a.user + a.size := rfl
          have huser : a.user = a.base + HEADER_SIZE := rfl
          have hstop' : b.stop = b.base + HEADER_SIZE + b.size := rfl
          apply (hagree b hb hne).trans (agree_blit _ _ _)
          rcases h.apart a ha b hb hne with hlt | hlt
          · right
            omega
          · left
            omega

theorem layout_reissue (h : Layout s all) (ha : a ∈ all) (hfreed : a ∉ s.handed)
    (hheaded : Headed mem a 1234)
    (hagree : ∀ b ∈ all, a ≠ b → SameBlock s.heap.memory mem b) :
    Layout ⟨{ s.heap with memory := mem }, s.handed ++ [a]⟩ all := by
  apply h.remark
  · intro b hb
    rw [List.mem_append, List.mem_singleton]
    by_cases heq : a = b
    · subst heq
      exact Or.inl ⟨Or.inr rfl, hheaded⟩
    · rcases h.headed b hb with ⟨hhanded, hold⟩ | ⟨hstock, hold⟩
      · exact Or.inl ⟨Or.inl hhanded, hold.same (hagree b hb heq)⟩
      · exact Or.inr ⟨by simp [hstock, Ne.symm heq], hold.same (hagree b hb heq)⟩
  · intro b hb
    rcases List.mem_append.mp hb with hold | hlast
    · exact h.subset b hold
    · rw [List.mem_singleton.mp hlast]
      exact ha
  · apply h.nodup.append (List.nodup_singleton a)
    intro b hold hlast
    rw [List.mem_singleton.mp hlast] at hold
    exact hfreed hold

theorem layout_write (h : Layout s all)
    (hmeets : ∃ area ∈ s.handed, area.user ≤ va ∧ va < area.stop) (byte : UInt8) :
    Layout ⟨{ s.heap with memory := Function.update s.heap.memory va byte }, s.handed⟩ all := by
  obtain ⟨a, ha, hlow, hhigh⟩ := hmeets
  have huser : a.user = a.base + HEADER_SIZE := rfl
  have hagree : ∀ b ∈ all,
      Agree s.heap.memory (Function.update s.heap.memory va byte) b.base HEADER_SIZE := by
    intro b hb i hi hilt
    apply Function.update_of_ne
    have hstop : b.stop = b.base + HEADER_SIZE + b.size := rfl
    rcases eq_or_ne a b with rfl | hne
    · omega
    · rcases h.apart a (h.subset a ha) b hb hne with hlt | hlt <;> omega
  apply h.remark _ h.subset h.nodup
  intro b hb
  rcases h.headed b hb with ⟨hhanded, hold⟩ | ⟨hstock, hold⟩
  · exact Or.inl ⟨hhanded, hold.congr (hagree b hb) (Nat.le_refl _)⟩
  · exact Or.inr ⟨hstock, hold.congr (hagree b hb) (Nat.le_refl _)⟩

theorem issue_user (h : Headed heap.memory a m) (handed : List Area) :
    issue a.user heap handed = (some a, ⟨heap, handed ++ [a]⟩) := by
  have hne : a.user ≠ 0 := by
    have huser : a.user = a.base + 72 := rfl
    omega
  have hbase : a.user - HEADER_SIZE = a.base := Nat.add_sub_cancel _ _
  rw [issue, if_neg hne, hbase, h.bytes]

def Served : HeapCall → Option Area → Prop
  | .allocate size, some area => size.toNat ≤ area.size
  | .reuse size _, some area => size.toNat ≤ area.size
  | _, _ => True

theorem le_userAreaInBytes (size : Nat) : size ≤ userAreaInBytes size := by
  rw [userAreaInBytes]
  split <;> omega

theorem userAreaInBytes_pos (size : Nat) : 0 < userAreaInBytes size := by
  rw [userAreaInBytes]
  split <;> omega

theorem heapStep_inv {t : HeapSystem} {call : HeapCall} {out : Option Area} (hinv : HeapInv s)
    (hmeets : Meets s call) (hstep : heapStep s call = .ok (out, t)) :
    Served call out ∧ HeapInv t := by
  obtain ⟨all, h⟩ := hinv
  cases call with
  | allocate size =>
      rw [heapStep] at hstep
      split at hstep
      · cases hstep
      · rename_i va heap hcall
        rcases heapAllocateMemory_cases h hmeets hcall with ⟨rfl, rfl⟩ | ⟨rfl, rfl, hfit⟩
        · cases hstep
          exact ⟨trivial, all, h⟩
        · have hpos := userAreaInBytes_pos size.toNat
          have hgrow := layout_grow h hpos hfit
          have hmem : (⟨s.heap.gHeapPointer, userAreaInBytes size.toNat⟩ : Area) ∈
              all ++ [⟨s.heap.gHeapPointer, userAreaInBytes size.toNat⟩] :=
            List.mem_append_right _ (List.mem_singleton_self _)
          have hheaded : ∃ m, Headed (s.heap.grow (userAreaInBytes size.toNat)).memory
              ⟨s.heap.gHeapPointer, userAreaInBytes size.toNat⟩ m := by
            rcases hgrow.headed _ hmem with ⟨_, hheaded⟩ | ⟨_, hheaded⟩
            · exact ⟨_, hheaded⟩
            · exact ⟨_, hheaded⟩
          obtain ⟨m, hheaded⟩ := hheaded
          have hissue := issue_user hheaded s.handed
          change Except.ok (issue _ _ _) = _ at hstep
          rw [show s.heap.gHeapPointer + HEADER_SIZE =
            (⟨s.heap.gHeapPointer, userAreaInBytes size.toNat⟩ : Area).user from rfl, hissue] at hstep
          cases hstep
          exact ⟨le_userAreaInBytes _, _, hgrow⟩
  | free ptr =>
      cases hstep
      exact ⟨trivial, all, layout_free h hmeets⟩
  | reuse size cleanup =>
      rw [heapStep] at hstep
      rcases heapReuseMemory_cases h size.toNat cleanup with
        hreuse | ⟨a, ha, hfreed, hsize, mem, hreuse, hheaded, hagree⟩
      · rw [hreuse] at hstep
        cases hstep
        exact ⟨trivial, all, h⟩
      · rw [hreuse] at hstep
        have hissue := issue_user (show Headed ({ s.heap with memory := mem } : Heap).memory a 1234 from hheaded)
          s.handed
        dsimp only at hstep
        rw [hissue] at hstep
        cases hstep
        exact ⟨Nat.le_trans (le_userAreaInBytes _) hsize, all,
          layout_reissue h ha hfreed hheaded hagree⟩
  | write va byte =>
      cases hstep
      exact ⟨trivial, all, layout_write h hmeets byte⟩

/-- The kernel heap: the blocks that are handed out lie in the heap and apart from each other
with their headers, none is smaller than requested, and the free space is accounted for. -/
theorem heap_run {memory : Memory} {calls : List HeapCall} {outs : List (Option Area)}
    {s : HeapSystem} (hmeets : Guarded heapStep Meets ⟨initKernelHeap memory, []⟩ calls)
    (hrun : run heapStep ⟨initKernelHeap memory, []⟩ calls = .ok (outs, s)) :
    s.handed.Pairwise Apart ∧
      (∀ area ∈ s.handed, KERNEL_HEAP_START ≤ area.base ∧ area.stop ≤ KERNEL_HEAP_END) ∧
        List.Forall₂ Served calls outs ∧ s.heap.gHeapPointer ≤ KERNEL_HEAP_END ∧
          s.heap.gAvailableHeap = KERNEL_HEAP_END - s.heap.gHeapPointer := by
  have hserved := run_forall₂ HeapInv Served
    (fun s call out t hs hm hstep => heapStep_inv hs hm hstep) (heapInv_init memory) hmeets hrun
  obtain ⟨all, h⟩ := run_invariant HeapInv
    (fun s call out t hs hm hstep => (heapStep_inv hs hm hstep).2) (heapInv_init memory) hmeets hrun
  refine ⟨?_, ?_, hserved, h.high, h.available⟩
  · apply h.nodup.pairwise_of_forall_ne
    intro a ha b hb hne
    exact h.apart a (h.subset a ha) b (h.subset b hb) hne
  · intro a ha
    obtain ⟨hlow, _, hstop⟩ := h.inside a (h.subset a ha)
    exact ⟨hlow, Nat.le_trans hstop h.high⟩

def summary (r : Except String (List (Option Area) × HeapSystem)) :
    Option (List (Option Area) × List Area × Nat × Nat) :=
  match r with
  | .error _ => none
  | .ok (outs, s) => some (outs, s.handed, s.heap.gHeapPointer, s.heap.gAvailableHeap)

theorem summary_eq_some {r : Except String (List (Option Area) × HeapSystem)}
    {outs : List (Option Area)} {pointer available : Nat}
    (h : summary r = some (outs, handed, pointer, available)) :
    ∃ s, r = .ok (outs, s) ∧ s.handed = handed ∧ s.heap.gHeapPointer = pointer ∧
      s.heap.gAvailableHeap = available := by
  cases r with
  | error e => cases h
  | ok r =>
      cases h
      exact ⟨_, rfl, rfl, rfl, rfl⟩

instance (s : HeapSystem) (call : HeapCall) : Decidable (Meets s call) := by
  cases call <;> unfold Meets <;> infer_instance

def reissueCalls : List HeapCall :=
  [.allocate 64, .free 0x30100048, .reuse 10 true, .write 0x30100048 7, .allocate 0]

theorem heap_run_reissue :
    ∃ s, run heapStep ⟨initKernelHeap fun _ => 0, []⟩ reissueCalls =
        .ok ([some ⟨0x30100000, 64⟩, none, some ⟨0x30100000, 64⟩, none, some ⟨0x30100088, 8⟩], s) ∧
      s.handed = [⟨0x30100000, 64⟩, ⟨0x30100088, 8⟩] ∧ s.handed.Pairwise Apart ∧
        s.heap.gAvailableHeap = KERNEL_HEAP_END - s.heap.gHeapPointer := by
  have hsummary : summary (run heapStep ⟨initKernelHeap fun _ => 0, []⟩ reissueCalls) =
      some ([some ⟨0x30100000, 64⟩, none, some ⟨0x30100000, 64⟩, none, some ⟨0x30100088, 8⟩],
        [⟨0x30100000, 64⟩, ⟨0x30100088, 8⟩], 0x301000d8, 851752) := by decide +kernel
  have hmeets : Guarded heapStep Meets ⟨initKernelHeap fun _ => 0, []⟩ reissueCalls := by
    decide +kernel
  obtain ⟨s, hrun, hhanded, _⟩ := summary_eq_some hsummary
  obtain ⟨hapart, _, _, _, havailable⟩ := heap_run hmeets hrun
  exact ⟨s, hrun, hhanded, hapart, havailable⟩

/-- A block without room for its header runs over the end of the heap, and the free space
wraps around. -/
theorem heap_overrun :
    ∃ s, run heapStep ⟨initKernelHeap fun _ => 0, []⟩ [.allocate 851967] =
        .ok ([some ⟨0x30100000, 851967⟩], s) ∧
      s.handed = [⟨0x30100000, 851967⟩] ∧
        KERNEL_HEAP_END < (⟨0x30100000, 851967⟩ : Area).stop ∧
          s.heap.gAvailableHeap = 2 ^ 64 - 71 ∧
            s.heap.gAvailableHeap ≠ KERNEL_HEAP_END - s.heap.gHeapPointer := by
  have hsummary : summary (run heapStep ⟨initKernelHeap fun _ => 0, []⟩ [.allocate 851967]) =
      some ([some ⟨0x30100000, 851967⟩], [⟨0x30100000, 851967⟩], 0x301d0047, 2 ^ 64 - 71) := by
    decide +kernel
  obtain ⟨s, hrun, hhanded, hpointer, havailable⟩ := summary_eq_some hsummary
  refine ⟨s, hrun, hhanded, by decide, havailable, ?_⟩
  rw [havailable, hpointer]
  decide

end Gramado.Mm.KernelHeap
