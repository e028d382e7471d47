import Gramado.Boot.Loader
import Gramado.Library.ByteMemory
import Gramado.Library.Run

/-! The boot loader's heap with its headers: `heapAllocateMemory` and `FreeHeap`, and which areas
are live. -/

namespace Gramado.Boot.BlockHeap

open Boot.Loader (BL_HEAP_START BL_HEAP_END MMBLOCK_COUNT_MAX MMBLOCK_HEADER_SIZE Stop)
open Library.ByteMemory Library.Run

structure Heap where
  memory : Memory
  mmblockList : Nat → UInt32
  mmblockCount : Nat
  g_heap_pointer : UInt32
  g_available_heap : UInt32
  last_valid : UInt32
  last_size : UInt32

def init_heap (memory : Memory) : Heap where
  memory := memory
  mmblockList _ := 0
  mmblockCount := 0
  g_heap_pointer := BL_HEAP_START
  g_available_heap := BL_HEAP_END - BL_HEAP_START
  last_valid := BL_HEAP_START
  last_size := 0

def field (m : Memory) (header : UInt32) (offset : Nat) : Nat :=
  load m (header.toNat + offset) 4

def setField (m : Memory) (header : UInt32) (offset value : Nat) : Memory :=
  store m (header.toNat + offset) 4 value

def writeHeader (m : Memory) (header : UInt32) (id : Nat) (userArea footer : UInt32) : Memory :=
  let m := setField m header 0 header.toNat
  let m := setField m header 4 MMBLOCK_HEADER_SIZE.toNat
  let m := setField m header 8 id
  let m := setField m header 12 1
  let m := setField m header 16 1234
  let m := setField m header 20 0
  let m := setField m header 36 userArea.toNat
  setField m header 40 footer.toNat

def takeBlock (h : Heap) (size : UInt32) : UInt32 × Heap :=
  let userArea := h.g_heap_pointer + MMBLOCK_HEADER_SIZE
  let footer := userArea + size
  (userArea, { h with
    last_valid := h.g_heap_pointer
    memory := writeHeader h.memory h.g_heap_pointer h.mmblockCount userArea footer
    mmblockList := Function.update h.mmblockList h.mmblockCount h.g_heap_pointer
    g_heap_pointer := footer
    g_available_heap := h.g_available_heap - (footer - h.g_heap_pointer) })

/-- From the label `try_again` on; every try counts a block. -/
def tryAgain : Nat → Heap → UInt32 → Except Stop (UInt32 × Heap)
  | 0, _, _ => .error .die
  | tries + 1, h, size =>
      let h := { h with mmblockCount := h.mmblockCount + 1 }
      if h.mmblockCount ≥ MMBLOCK_COUNT_MAX then .error .die
      else if h.g_heap_pointer < BL_HEAP_START ∨ h.g_heap_pointer ≥ BL_HEAP_END then
        if h.last_valid < BL_HEAP_START ∨ h.last_valid ≥ BL_HEAP_END then .error .die
        else tryAgain tries { h with g_heap_pointer := h.last_valid + h.last_size } size
      else .ok (takeBlock h size)

def heapAllocateMemory (h : Heap) (size : UInt32) : Except Stop (UInt32 × Heap) :=
  if h.g_available_heap = 0 then .ok (0, h)
  else if size = 0 then .ok (h.g_heap_pointer, h)
  else if size ≥ h.g_available_heap then .ok (0, h)
  else tryAgain MMBLOCK_COUNT_MAX { h with last_size := size } size

def uncount (h : Heap) (header : UInt32) : Heap :=
  if h.mmblockList h.mmblockCount = header ∧ field h.memory header 8 = h.mmblockCount then
    { h with
      mmblockList := Function.update h.mmblockList h.mmblockCount 0
      mmblockCount := h.mmblockCount - 1 }
  else h

def FreeHeap (h : Heap) (ptr : UInt32) : Heap :=
  if ptr = 0 then h
  else if ptr < BL_HEAP_START ∨ ptr ≥ BL_HEAP_END then h
  else
    let header := ptr - MMBLOCK_HEADER_SIZE
    if header = 0 then h
    else if field h.memory header 12 ≠ 1 ∨ field h.memory header 16 ≠ 1234 then h
    else
      let h := uncount h header
      { h with
        memory := setField (setField h.memory header 12 0) header 16 0
        g_heap_pointer := header }

/-- An area that has been handed out: what it was asked for, and from where the header begins to
where the heap goes on. -/
structure Area where
  base : Nat
  stop : Nat
  requested : Nat
  deriving DecidableEq

def Area.user (a : Area) : Nat := a.base + MMBLOCK_HEADER_SIZE.toNat

def Apart (a b : Area) : Prop := a.stop ≤ b.base ∨ b.stop ≤ a.base

instance (a b : Area) : Decidable (Apart a b) := inferInstanceAs (Decidable (_ ∨ _))

structure System where
  heap : Heap
  live : List Area

/-- The calls, and what the owners of the areas do to the memory between them. -/
inductive Call where
  | heapAllocateMemory (size : UInt32)
  | FreeHeap (ptr : UInt32)
  | write (m : Memory)

def handed (ptr size : UInt32) (h : Heap) : Area :=
  ⟨ptr.toNat - MMBLOCK_HEADER_SIZE.toNat, h.g_heap_pointer.toNat, size.toNat⟩

/-- One step, with the address that the call returns. Only live areas are freed. -/
def step (s : System) : Call → Except Stop (UInt32 × System)
  | .heapAllocateMemory size =>
      (heapAllocateMemory s.heap size).map fun (ptr, h) =>
        (ptr, ⟨h, if ptr = 0 then s.live else handed ptr size h :: s.live⟩)
  | .FreeHeap ptr =>
      if ∃ a ∈ s.live, a.user = ptr.toNat then
        .ok (0, ⟨FreeHeap s.heap ptr, s.live.eraseP fun a => a.user = ptr.toNat⟩)
      else .error .outside
  | .write m => .ok (0, { s with heap := { s.heap with memory := m } })

def start (memory : Memory) : System := ⟨init_heap memory, []⟩

/-- What holds of the live areas and of the room that is left. -/
structure Sound (s : System) : Prop where
  apart : s.live.Pairwise Apart
  inside : ∀ a ∈ s.live, BL_HEAP_START.toNat ≤ a.base ∧ a.stop ≤ BL_HEAP_END.toNat
  large : ∀ a ∈ s.live, a.user + a.requested ≤ a.stop
  space : s.heap.g_heap_pointer.toNat + s.heap.g_available_heap.toNat ≤ BL_HEAP_END.toNat

def Clear (s : System) (low high : Nat) : Prop :=
  ∀ a ∈ s.live, a.stop ≤ low ∨ high ≤ a.base

/-- A block is taken, as the size is below what is available and there are numbers left. -/
def TakesBlock (h : Heap) (size : UInt32) : Prop :=
  h.g_available_heap ≠ 0 ∧ size ≠ 0 ∧ size < h.g_available_heap ∧
    h.mmblockCount + 1 < MMBLOCK_COUNT_MAX

/-- A block that is taken leaves room for its header and meets no live area. A request for no
bytes gets the heap pointer, which has room for a header in front of it. -/
def Meets (s : System) : Call → Prop
  | .heapAllocateMemory size =>
      (TakesBlock s.heap size →
        size.toNat + 64 ≤ s.heap.g_available_heap.toNat ∧
          Clear s s.heap.g_heap_pointer.toNat (s.heap.g_heap_pointer.toNat + 64 + size.toNat)) ∧
        (s.heap.g_available_heap ≠ 0 ∧ size = 0 →
          BL_HEAP_START.toNat + 64 ≤ s.heap.g_heap_pointer.toNat ∧
            Clear s (s.heap.g_heap_pointer.toNat - 64) s.heap.g_heap_pointer.toNat)
  | _ => True

/-- The invariant of the runs that meet the condition: no live area ends so late that what is
available would not fit behind it. -/
structure Inv (s : System) : Prop extends Sound s where
  pointer : BL_HEAP_START.toNat ≤ s.heap.g_heap_pointer.toNat
  accounted : ∀ a ∈ s.live, a.stop + s.heap.g_available_heap.toNat ≤ BL_HEAP_END.toNat

variable {size ptr : UInt32} {h : Heap} {m : Loader.Machine}

section Allocation

variable {h : Heap} {size : UInt32}

theorem bl_heap_start : BL_HEAP_START.toNat = 17825792 := rfl
theorem bl_heap_end : BL_HEAP_END.toNat = 19890160 := rfl

theorem toNat_pos {n : UInt32} (hn : n ≠ 0) : 0 < n.toNat :=
  Nat.pos_of_ne_zero fun hzero => hn (UInt32.toNat.inj hzero)

theorem allocate_refused
    (hrefused : h.g_available_heap = 0 ∨ size ≠ 0 ∧ size ≥ h.g_available_heap) :
    heapAllocateMemory h size = .ok (0, h) := by
  rw [heapAllocateMemory]
  rcases hrefused with hnone | ⟨hsize, hlarge⟩
  · rw [if_pos hnone]
  · rw [if_neg hsize, if_pos hlarge, ite_self]

theorem allocate_zero (havailable : h.g_available_heap ≠ 0) :
    heapAllocateMemory h 0 = .ok (h.g_heap_pointer, h) := by
  rw [heapAllocateMemory, if_neg havailable, if_pos rfl]

def counted (h : Heap) (size : UInt32) : Heap :=
  { h with last_size := size, mmblockCount := h.mmblockCount + 1 }

theorem tryAgain_inside (hlow : BL_HEAP_START.toNat ≤ h.g_heap_pointer.toNat)
    (hhigh : h.g_heap_pointer.toNat < BL_HEAP_END.toNat) (tries : Nat) :
    tryAgain (tries + 1) { h with last_size := size } size =
      if h.mmblockCount + 1 < MMBLOCK_COUNT_MAX then .ok (takeBlock (counted h size) size)
      else .error .die := by
  have hinside : ¬ (h.g_heap_pointer < BL_HEAP_START ∨ h.g_heap_pointer ≥ BL_HEAP_END) := by
    rw [UInt32.lt_iff_toNat_lt, ge_iff_le, UInt32.le_iff_toNat_le]
    omega
  rw [tryAgain]
  dsimp only
  rw [if_neg hinside]
  rcases Nat.lt_or_ge (h.mmblockCount + 1) MMBLOCK_COUNT_MAX with hroom | hfull
  · rw [if_neg (by omega), if_pos hroom]
    rfl
  · rw [if_pos hfull, if_neg (by omega)]

theorem allocate_block (hlow : BL_HEAP_START.toNat ≤ h.g_heap_pointer.toNat)
    (hhigh : h.g_heap_pointer.toNat + h.g_available_heap.toNat ≤ BL_HEAP_END.toNat)
    (havailable : h.g_available_heap ≠ 0) (hsize : size ≠ 0) (hsmall : size < h.g_available_heap) :
    heapAllocateMemory h size =
      if h.mmblockCount + 1 < MMBLOCK_COUNT_MAX then .ok (takeBlock (counted h size) size)
      else .error .die := by
  have hpos := toNat_pos havailable
  have hnot : ¬ size ≥ h.g_available_heap := by
    rw [ge_iff_le, UInt32.le_iff_toNat_le]
    rw [UInt32.lt_iff_toNat_lt] at hsmall
    omega
  rw [heapAllocateMemory, if_neg havailable, if_neg hsize, if_neg hnot]
  exact tryAgain_inside hlow (by omega) 255

theorem takeBlock_numbers
    (hhigh : h.g_heap_pointer.toNat + h.g_available_heap.toNat ≤ BL_HEAP_END.toNat)
    (hsmall : size.toNat < h.g_available_heap.toNat) :
    (takeBlock h size).1.toNat = h.g_heap_pointer.toNat + 64 ∧
      (takeBlock h size).2.g_heap_pointer.toNat = h.g_heap_pointer.toNat + 64 + size.toNat ∧
      (takeBlock h size).2.g_available_heap.toNat =
        (4294967296 - (64 + size.toNat) + h.g_available_heap.toNat) % 4294967296 := by
  have hend := bl_heap_end
  have huser : (h.g_heap_pointer + MMBLOCK_HEADER_SIZE).toNat = h.g_heap_pointer.toNat + 64 := by
    have hheader : MMBLOCK_HEADER_SIZE.toNat = 64 := rfl
    rw [UInt32.toNat_add]
    omega
  have hfooter : (h.g_heap_pointer + MMBLOCK_HEADER_SIZE + size).toNat =
      h.g_heap_pointer.toNat + 64 + size.toNat := by
    rw [UInt32.toNat_add]
    omega
  refine ⟨huser, hfooter, ?_⟩
  change (h.g_available_heap -
    (h.g_heap_pointer + MMBLOCK_HEADER_SIZE + size - h.g_heap_pointer)).toNat = _
  have hbytes : (h.g_heap_pointer + MMBLOCK_HEADER_SIZE + size - h.g_heap_pointer).toNat =
      64 + size.toNat := by
    rw [UInt32.toNat_sub_of_le _ _ (by rw [UInt32.le_iff_toNat_le]; omega), hfooter]
    omega
  rw [UInt32.toNat_sub, hbytes]

end Allocation

section Steps

variable {s t : System} {out : UInt32}

theorem step_allocate (hcall : heapAllocateMemory s.heap size = .ok (ptr, h))
    (hstep : step s (.heapAllocateMemory size) = .ok (out, t)) :
    t = ⟨h, if ptr = 0 then s.live else handed ptr size h :: s.live⟩ := by
  rw [step, hcall] at hstep
  exact (Prod.mk.inj (Except.ok.inj hstep)).2.symm

theorem Inv.hand (hinv : Inv s) {a : Area} (hclear : Clear s a.base a.stop)
    (hlow : BL_HEAP_START.toNat ≤ a.base) (hlarge : a.user + a.requested ≤ a.stop)
    (hpointer : BL_HEAP_START.toNat ≤ h.g_heap_pointer.toNat)
    (hstop : a.stop = h.g_heap_pointer.toNat)
    (hspace : h.g_heap_pointer.toNat + h.g_available_heap.toNat ≤ BL_HEAP_END.toNat)
    (hless : h.g_available_heap.toNat ≤ s.heap.g_available_heap.toNat) :
    Inv ⟨h, a :: s.live⟩ where
  apart := List.pairwise_cons.mpr
    ⟨fun b hb => (hclear b hb).symm, hinv.apart⟩
  inside b hb := by
    rcases List.mem_cons.mp hb with rfl | hb
    · exact ⟨hlow, by omega⟩
    · exact hinv.inside b hb
  large b hb := by
    rcases List.mem_cons.mp hb with rfl | hb
    · exact hlarge
    · exact hinv.large b hb
  space := hspace
  pointer := hpointer
  accounted b hb := by
    dsimp only
    rcases List.mem_cons.mp hb with rfl | hb
    · omega
    · have haccounted := hinv.accounted b hb
      omega

inductive Outcome (h : Heap) (size : UInt32) : Prop where
  | refused (hcall : heapAllocateMemory h size = .ok (0, h)) (hblock : ¬ TakesBlock h size)
      (hzero : ¬ (h.g_available_heap ≠ 0 ∧ size = 0))
  | zero (hcall : heapAllocateMemory h size = .ok (h.g_heap_pointer, h)) (hsize : size = 0)
      (havailable : h.g_available_heap ≠ 0)
  | block (ptr : UInt32) (h' : Heap) (hcall : heapAllocateMemory h size = .ok (ptr, h'))
      (hblock : TakesBlock h size) (huser : ptr.toNat = h.g_heap_pointer.toNat + 64)
      (hfooter : h'.g_heap_pointer.toNat = h.g_heap_pointer.toNat + 64 + size.toNat)
      (hleft : h'.g_available_heap.toNat =
        (4294967296 - (64 + size.toNat) + h.g_available_heap.toNat) % 4294967296)
  | died (hcall : heapAllocateMemory h size = .error .die) (hblock : ¬ TakesBlock h size)
      (hsize : size ≠ 0)

theorem Inv.outcome (hinv : Inv s) (size : UInt32) : Outcome s.heap size := by
  rcases eq_or_ne s.heap.g_available_heap 0 with hnone | havailable
  · exact .refused (allocate_refused (.inl hnone)) (fun h => h.1 hnone) fun h => h.1 hnone
  rcases eq_or_ne size 0 with rfl | hsize
  · exact .zero (allocate_zero havailable) rfl havailable
  rcases Nat.lt_or_ge size.toNat s.heap.g_available_heap.toNat with hsmall | hlarge
  · have hcall := allocate_block hinv.pointer hinv.space havailable hsize
      (UInt32.lt_iff_toNat_lt.mpr hsmall)
    rcases Nat.lt_or_ge (s.heap.mmblockCount + 1) MMBLOCK_COUNT_MAX with hroom | hfull
    · rw [if_pos hroom] at hcall
      obtain ⟨huser, hfooter, hleft⟩ :=
        takeBlock_numbers (h := counted s.heap size) hinv.space hsmall
      exact .block _ _ hcall ⟨havailable, hsize, UInt32.lt_iff_toNat_lt.mpr hsmall, hroom⟩
        huser hfooter hleft
    · rw [if_neg (by omega)] at hcall
      exact .died hcall (fun h => absurd h.2.2.2 (by omega)) hsize
  · refine .refused (allocate_refused (.inr ⟨hsize, UInt32.le_iff_toNat_le.mpr hlarge⟩))
      (fun h => ?_) fun h => hsize h.2
    have hlt := UInt32.lt_iff_toNat_lt.mp h.2.2.1
    omega

theorem allocate_keeps (hinv : Inv s) (hmeets : Meets s (.heapAllocateMemory size))
    (hstep : step s (.heapAllocateMemory size) = .ok (out, t)) : Inv t := by
  have hspace := hinv.space
  have hpointer := hinv.pointer
  have hheader : MMBLOCK_HEADER_SIZE.toNat = 64 := rfl
  cases hinv.outcome size with
  | refused hcall =>
      rw [step_allocate hcall hstep, if_pos rfl]
      exact hinv
  | zero hcall hsize havailable =>
      obtain ⟨hlow, hclear⟩ := hmeets.2 ⟨havailable, hsize⟩
      have hptr : s.heap.g_heap_pointer ≠ 0 := by
        intro hnull
        rw [hnull] at hlow
        exact absurd hlow (by decide)
      rw [step_allocate hcall hstep, if_neg hptr]
      apply hinv.hand hclear
      · simp only [handed]
        omega
      · simp only [handed, Area.user, hsize, UInt32.toNat_zero]
        omega
      · exact hpointer
      · rfl
      · exact hspace
      · exact Nat.le_refl _
  | block ptr h hcall hblock huser hfooter hleft =>
      obtain ⟨hroom, hclear⟩ := hmeets.1 hblock
      have hptr : ptr ≠ 0 := by
        intro hnull
        rw [hnull, UInt32.toNat_zero] at huser
        omega
      have hend := bl_heap_end
      have hless : h.g_available_heap.toNat + (64 + size.toNat) =
          s.heap.g_available_heap.toNat := by
        omega
      rw [step_allocate hcall hstep, if_neg hptr]
      apply hinv.hand
      · simp only [handed, huser, hfooter, hheader, Nat.add_sub_cancel]
        exact hclear
      · simp only [handed, huser, hheader, Nat.add_sub_cancel]
        exact hpointer
      · simp only [handed, Area.user, huser, hfooter, hheader]
        omega
      · omega
      · rfl
      · omega
      · omega
  | died hcall =>
      rw [step, hcall] at hstep
      cases hstep

theorem allocate_meets (hinv : Inv s)
    (hsound : ∀ out t, step s (.heapAllocateMemory size) = .ok (out, t) → Sound t) :
    Meets s (.heapAllocateMemory size) := by
  have hspace := hinv.space
  have hpointer := hinv.pointer
  have hheader : MMBLOCK_HEADER_SIZE.toNat = 64 := rfl
  cases hinv.outcome size with
  | refused hcall hblock hzero =>
      exact ⟨fun h => absurd h hblock, fun h => absurd h hzero⟩
  | zero hcall hsize havailable =>
      refine ⟨fun h => absurd hsize h.2.1, fun _ => ?_⟩
      have hptr : s.heap.g_heap_pointer ≠ 0 := by
        intro hnull
        rw [hnull] at hpointer
        exact absurd hpointer (by decide)
      have ht := hsound s.heap.g_heap_pointer
        ⟨s.heap, handed s.heap.g_heap_pointer size s.heap :: s.live⟩ (by
          rw [step, hcall]
          simp [Except.map, hptr])
      have hinside := (ht.inside _ List.mem_cons_self).1
      have hlow := bl_heap_start
      simp only [handed] at hinside
      refine ⟨by omega, fun a ha => ?_⟩
      have hapart := (List.pairwise_cons.mp ht.apart).1 a ha
      simp only [handed, Apart] at hapart
      omega
  | block ptr h hcall hblock huser hfooter hleft =>
      refine ⟨fun _ => ?_, fun h => absurd h.2 hblock.2.1⟩
      have hptr : ptr ≠ 0 := by
        intro hnull
        rw [hnull, UInt32.toNat_zero] at huser
        omega
      have ht := hsound ptr ⟨h, handed ptr size h :: s.live⟩ (by
        rw [step, hcall]
        simp [Except.map, hptr])
      have hroom : h.g_heap_pointer.toNat + h.g_available_heap.toNat ≤ BL_HEAP_END.toNat := ht.space
      have hend := bl_heap_end
      have hsmall := UInt32.lt_iff_toNat_lt.mp hblock.2.2.1
      refine ⟨by omega, fun a ha => ?_⟩
      have hapart := (List.pairwise_cons.mp ht.apart).1 a ha
      simp only [handed, Apart] at hapart
      omega
  | died hcall hblock hsize =>
      exact ⟨fun h => absurd h hblock, fun h => absurd h.2 hsize⟩

theorem freeHeap_pointer (h : Heap) (ptr : UInt32) :
    (FreeHeap h ptr).g_available_heap = h.g_available_heap ∧
      ((FreeHeap h ptr).g_heap_pointer = h.g_heap_pointer ∨
        (FreeHeap h ptr).g_heap_pointer = ptr - MMBLOCK_HEADER_SIZE) := by
  have huncount : ∀ header, (uncount h header).g_available_heap = h.g_available_heap := by
    intro header
    unfold uncount
    split <;> rfl
  unfold FreeHeap
  dsimp only
  split
  · exact ⟨rfl, .inl rfl⟩
  · split
    · exact ⟨rfl, .inl rfl⟩
    · split
      · exact ⟨rfl, .inl rfl⟩
      · split
        · exact ⟨rfl, .inl rfl⟩
        · exact ⟨huncount _, .inr rfl⟩

theorem free_keeps (hinv : Inv s) (hstep : step s (.FreeHeap ptr) = .ok (out, t)) : Inv t := by
  rw [step] at hstep
  split at hstep
  · rename_i hlive
    obtain ⟨a, ha, huser⟩ := hlive
    obtain ⟨-, rfl⟩ := Prod.mk.inj (Except.ok.inj hstep)
    obtain ⟨havailable, hpointer⟩ := freeHeap_pointer s.heap ptr
    have hsub : ∀ b ∈ s.live.eraseP (fun a => a.user = ptr.toNat), b ∈ s.live :=
      fun b hb => List.mem_of_mem_eraseP hb
    have hbase : (ptr - MMBLOCK_HEADER_SIZE).toNat = a.base := by
      have hheader : MMBLOCK_HEADER_SIZE.toNat = 64 := rfl
      rw [UInt32.toNat_sub_of_le _ _ (by rw [UInt32.le_iff_toNat_le, ← huser]; simp [Area.user]),
        ← huser, Area.user, Nat.add_sub_cancel]
    have hplace : BL_HEAP_START.toNat ≤ (FreeHeap s.heap ptr).g_heap_pointer.toNat ∧
        (FreeHeap s.heap ptr).g_heap_pointer.toNat + s.heap.g_available_heap.toNat ≤
          BL_HEAP_END.toNat := by
      rcases hpointer with hsame | hheader
      · rw [hsame]
        exact ⟨hinv.pointer, hinv.space⟩
      · have hlarge := hinv.large a ha
        have haccounted := hinv.accounted a ha
        rw [hheader, hbase]
        rw [Area.user] at hlarge
        exact ⟨(hinv.inside a ha).1, by omega⟩
    refine ⟨⟨?_, ?_, ?_, ?_⟩, hplace.1, ?_⟩
    · exact hinv.apart.sublist List.eraseP_sublist
    · exact fun b hb => hinv.inside b (hsub b hb)
    · exact fun b hb => hinv.large b (hsub b hb)
    · rw [havailable]
      exact hplace.2
    · intro b hb
      rw [havailable]
      exact hinv.accounted b (hsub b hb)
  · cases hstep

theorem step_keeps (hinv : Inv s) {call : Call} (hmeets : Meets s call)
    (hstep : step s call = .ok (out, t)) : Inv t := by
  cases call with
  | heapAllocateMemory size => exact allocate_keeps hinv hmeets hstep
  | FreeHeap ptr => exact free_keeps hinv hstep
  | write m =>
      obtain ⟨-, rfl⟩ := Prod.mk.inj (Except.ok.inj hstep)
      exact ⟨⟨hinv.apart, hinv.inside, hinv.large, hinv.space⟩, hinv.pointer, hinv.accounted⟩

theorem step_iff (hinv : Inv s) (call : Call) :
    (∀ out t, step s call = .ok (out, t) → Sound t) ↔ Meets s call := by
  constructor
  · intro hsound
    cases call with
    | heapAllocateMemory size => exact allocate_meets hinv hsound
    | FreeHeap ptr => trivial
    | write m => trivial
  · intro hmeets out t hstep
    exact (step_keeps hinv hmeets hstep).toSound

theorem start_inv (memory : Memory) : Inv (start memory) where
  apart := .nil
  inside := by simp [start]
  large := by simp [start]
  space := by
    change BL_HEAP_START.toNat + (BL_HEAP_END - BL_HEAP_START).toNat ≤ BL_HEAP_END.toNat
    decide
  pointer := Nat.le_refl _
  accounted := by simp [start]

end Steps

/-- The areas are sound in every state of a run exactly if every step meets the condition. -/
theorem heap_run_iff (memory : Memory) (calls : List Call) :
    (∀ front, front <+: calls → ∀ outs t, run step (start memory) front = .ok (outs, t) →
        Sound t) ↔
      Guarded step Meets (start memory) calls := by
  have hinv := start_inv memory
  rw [reached_iff, guarded_iff Inv (fun s call hs => step_iff hs call)
    (fun s call out t hs hsound hstep =>
      step_keeps hs ((step_iff hs call).mp hsound) hstep) hinv]
  exact and_iff_right hinv.toSound

def areas (result : Except Stop (List UInt32 × System)) : Option (List Area × UInt32 × UInt32) :=
  match result with
  | .error _ => none
  | .ok (_, s) => some (s.live, s.heap.g_heap_pointer, s.heap.g_available_heap)

theorem areas_eq_some {result : Except Stop (List UInt32 × System)} {live : List Area}
    {pointer available : UInt32} (h : areas result = some (live, pointer, available)) :
    ∃ outs s, result = .ok (outs, s) ∧ s.live = live ∧ s.heap.g_heap_pointer = pointer ∧
      s.heap.g_available_heap = available := by
  cases result with
  | error e => cases h
  | ok result =>
      cases h
      exact ⟨_, _, rfl, rfl, rfl, rfl⟩

/-- Two areas of a hundred bytes; the first one is freed, and two hundred bytes are asked for. -/
def freedBelow : List Call :=
  [.heapAllocateMemory 100, .heapAllocateMemory 100, .FreeHeap 0x1100040, .heapAllocateMemory 200]

/-- The new area lies over a live one; and the header of the largest block that the heap grants
does not fit. -/
theorem heap_overlaps :
    (∃ outs t, run step (start fun _ => 0) freedBelow = .ok (outs, t) ∧
        ¬ t.live.Pairwise Apart) ∧
      ∃ outs t, run step (start fun _ => 0) [.heapAllocateMemory 2064367] = .ok (outs, t) ∧
        ¬ (∀ a ∈ t.live, a.stop ≤ BL_HEAP_END.toNat) ∧
          BL_HEAP_END - BL_HEAP_START < t.heap.g_available_heap := by
  constructor
  · have hareas : areas (run step (start fun _ => 0) freedBelow) =
        some ([⟨0x1100000, 0x1100108, 200⟩, ⟨0x11000a4, 0x1100148, 100⟩], 0x1100108, 2063776) := by
      decide +kernel
    obtain ⟨outs, t, hrun, hlive, -⟩ := areas_eq_some hareas
    refine ⟨outs, t, hrun, ?_⟩
    rw [hlive]
    decide
  · have hareas : areas (run step (start fun _ => 0) [.heapAllocateMemory 2064367]) =
        some ([⟨0x1100000, 0x12f802f, 2064367⟩], 0x12f802f, 4294967233) := by
      decide +kernel
    obtain ⟨outs, t, hrun, hlive, -, havailable⟩ := areas_eq_some hareas
    refine ⟨outs, t, hrun, ?_, ?_⟩
    · rw [hlive]
      decide
    · rw [havailable]
      decide

section Loader

/-- The variables that the file loader's machine has of the heap. -/
structure Same (m : Loader.Machine) (h : Heap) : Prop where
  g_heap_pointer : m.g_heap_pointer = h.g_heap_pointer
  g_available_heap : m.g_available_heap = h.g_available_heap
  last_valid : m.last_valid = h.last_valid
  last_size : m.last_size = h.last_size
  mmblockCount : m.mmblockCount = h.mmblockCount

def SameResult :
    Except Stop (UInt32 × Loader.Machine) → Except Stop (UInt32 × Heap) → Prop
  | .ok (ptr, m), .ok (ptr', h) => ptr = ptr' ∧ Same m h
  | .error e, .error e' => e = e'
  | _, _ => False

theorem tryAgain_same (hsame : Same m h) (tries : Nat) (size : UInt32) :
    SameResult (Loader.tryAgain tries m size) (tryAgain tries h size) := by
  induction tries generalizing m h with
  | zero => rfl
  | succ tries ih =>
      obtain ⟨hpointer, havailable, hvalid, hlast, hcount⟩ := hsame
      rw [Loader.tryAgain, tryAgain]
      dsimp only
      rw [hpointer, havailable, hvalid, hlast, hcount]
      split
      · rfl
      · split
        · split
          · rfl
          · exact ih ⟨rfl, rfl, rfl, rfl, rfl⟩
        · exact ⟨rfl, rfl, rfl, rfl, rfl, rfl⟩

theorem allocate_same (hsame : Same m h) (size : UInt32) :
    SameResult (Loader.heapAllocateMemory m size) (heapAllocateMemory h size) := by
  rw [Loader.heapAllocateMemory, heapAllocateMemory, hsame.g_available_heap]
  split
  · exact ⟨rfl, hsame⟩
  · split
    · exact ⟨hsame.g_heap_pointer, hsame⟩
    · split
      · exact ⟨rfl, hsame⟩
      · apply tryAgain_same
        exact ⟨hsame.g_heap_pointer, rfl, hsame.last_valid, rfl, hsame.mmblockCount⟩

end Loader

end Gramado.Boot.BlockHeap
