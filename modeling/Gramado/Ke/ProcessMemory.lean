import Gramado.Ke.CopyProcess
import Mathlib

/-! The memory of the processes: the frames of their images, their stacks and their heaps. -/

namespace Gramado.Ke.ProcessMemory

open Io.FileObject (ObjectType)
open Ke.CopyProcess Ke.ProcessTable Library.Run Mm.PagePool Mm.PageTables

def HEAPPOOL_SIZE : Nat := 2 * 1024 * 1024
def STACK_SIZE : Nat := CONFIG_RING3_STACK_SIZE_IN_KB * 1024
def IMAGE_REGION_SIZE : Nat := 2 * 1024 * 1024

def imageFrames (s : System) (p : Process) : Set Nat :=
  { frame | ∃ off < IMAGE_REGION_SIZE, ∃ pa,
      virtualToPhysical s.paging.memory (FLOWERTHREAD_BASE + off) p.pml4Va = .ok pa ∧
        frame = pa / 4096 }

def stackRange (t : Thread) : Set Nat := Set.Ico (t.rsp + 1 - STACK_SIZE) (t.rsp + 1)

def heapRange (p : Process) : Set Nat := Set.Ico p.heapStart p.heapEnd

def UserProcess (s : System) (pid : Nat) (p : Process) : Prop :=
  s.teList pid = some p ∧ p.cpl = RING3

def flowerThread (s : System) (p : Process) : Option Thread :=
  p.flower.bind s.threadList

def ImagesDisjoint (s : System) : Prop :=
  ∀ pid pid' p p', pid ≠ pid' → UserProcess s pid p → UserProcess s pid' p' →
    Disjoint (imageFrames s p) (imageFrames s p')

def StacksDisjoint (s : System) : Prop :=
  ∀ pid pid' p p' t t', pid ≠ pid' → UserProcess s pid p → UserProcess s pid' p' →
    flowerThread s p = some t → flowerThread s p' = some t' →
      Disjoint (stackRange t) (stackRange t')

def HeapsDisjoint (s : System) : Prop :=
  ∀ pid pid' p p', pid ≠ pid' → UserProcess s pid p → UserProcess s pid' p' →
    Disjoint (heapRange p) (heapRange p')

def HeapsInPool (s : System) : Prop :=
  ∀ pid p, UserProcess s pid p →
    heapRange p ⊆ Set.Ico HEAPPOOL_VA (HEAPPOOL_VA + HEAPPOOL_SIZE)

structure MemorySeparate (s : System) : Prop where
  image : ImagesDisjoint s
  stack : StacksDisjoint s
  heap : HeapsDisjoint s
  pool : HeapsInPool s

/-- The tables of a process map its image region to the 2 MB at `pa`. -/
def ImageAt (s : System) (p : Process) (pa : Nat) : Prop :=
  Maps s.paging p.pml4Va FLOWERTHREAD_BASE pa

variable {s s' t u : System} {p p' parent child child' child₀ q : Process}
  {pa parentPid childPid imagePa first pid childTid k : Nat} {c : CloneCall} {slab slab' : SlabPool}
  {result : Int} {list list' : Nat → Option Page} {outs : List Int}

theorem imageFrames_eq (h : ImageAt s p pa) :
    imageFrames s p = Set.Ico (pa / 4096) (pa / 4096 + 512) := by
  have haligned := Maps.aligned h
  have hsize : IMAGE_REGION_SIZE = 2 ^ 21 := by decide
  ext frame
  rw [Set.mem_Ico]
  constructor
  · rintro ⟨off, hoff, pa', htranslate, rfl⟩
    rw [hsize] at hoff
    rw [h.translate hoff] at htranslate
    cases htranslate
    omega
  · rintro ⟨hlow, hhigh⟩
    refine ⟨4096 * (frame - pa / 4096), by omega, _, h.translate (by omega), ?_⟩
    omega

theorem imageFrames_disjoint_iff {pa' : Nat} (h : ImageAt s p pa) (h' : ImageAt s p' pa') :
    Disjoint (imageFrames s p) (imageFrames s p') ↔
      pa + IMAGE_REGION_SIZE ≤ pa' ∨ pa' + IMAGE_REGION_SIZE ≤ pa := by
  have haligned := Maps.aligned h
  have haligned' := Maps.aligned h'
  have hsize : IMAGE_REGION_SIZE = 4096 * 512 := by decide
  rw [imageFrames_eq h, imageFrames_eq h', Set.Ico_disjoint_Ico]
  omega

/-- The fields of a process that say where its memory is. -/
structure MemoryFields where
  cpl : Nat
  pml4Va : Nat
  flower : Option Nat
  heapStart : Nat
  heapEnd : Nat

def memoryFields (p : Process) : MemoryFields :=
  ⟨p.cpl, p.pml4Va, p.flower, p.heapStart, p.heapEnd⟩

/-- Nothing but the descriptors of a process and the terminal's connectors has changed. -/
def OnlyDescriptors (p p' : Process) : Prop :=
  ∃ objects connection, p' = { p with objects := objects, terminalConnection := connection }

theorem onlyDescriptors_refl (p : Process) : OnlyDescriptors p p :=
  ⟨p.objects, p.terminalConnection, rfl⟩

theorem OnlyDescriptors.trans {p'' : Process} (h : OnlyDescriptors p p')
    (h' : OnlyDescriptors p' p'') : OnlyDescriptors p p'' := by
  obtain ⟨_, _, rfl⟩ := h
  obtain ⟨objects, connection, rfl⟩ := h'
  exact ⟨objects, connection, rfl⟩

theorem onlyDescriptors_setObject (p : Process) (fd : Nat) (fp : Option Nat) :
    OnlyDescriptors p (p.setObject fd fp) :=
  ⟨_, p.terminalConnection, rfl⟩

theorem copyObjects_onlyDescriptors (objects : Nat → Option Nat) (n : Nat) (child : Process)
    (files : List OpenFile) : OnlyDescriptors child (copyObjects objects n child files).1 := by
  induction n with
  | zero => exact onlyDescriptors_refl child
  | succ n ih =>
      rw [copyObjects]
      dsimp only
      split
      · exact ih.trans (onlyDescriptors_setObject _ _ _)
      · exact ih.trans (onlyDescriptors_setObject _ _ _)

theorem placeConnectors_onlyDescriptors {name : String} {fp1 fp2 : Nat}
    (h : placeConnectors name p fp1 fp2 = .ok p') : OnlyDescriptors p p' := by
  unfold placeConnectors at h
  split at h
  · cases h
  dsimp only at h
  split at h
  · cases h
  · cases h
    exact ⟨_, _, rfl⟩

theorem newFile_onlyFiles {object : ObjectType} {room : Bool} {fp : Nat}
    (h : newFile s object room = .ok (fp, s')) :
    ∃ files inodes, s' = { s with files := files, inodes := inodes } := by
  unfold newFile at h
  dsimp only at h
  split at h
  · cases h
  split at h
  · cases h
  split at h
  · cases h
  obtain ⟨rfl, rfl⟩ := Prod.mk.inj (Except.ok.inj h)
  exact ⟨_, _, rfl⟩

structure StructCopied (s s' : System) (parentPid childPid : Nat) (parent child : Process) :
    Prop where
  father : ∃ parent', s'.teList parentPid = some parent' ∧ OnlyDescriptors parent parent'
  son : ∃ child', s'.teList childPid = some child' ∧ OnlyDescriptors (inherit parent child) child'
  others : ∀ pid, pid ≠ parentPid → pid ≠ childPid → s'.teList pid = s.teList pid
  rest : ∃ processes files inodes,
    s' = { s with processes := processes, files := files, inodes := inodes }

theorem createConnectors_copied {parent₀ : Process} (hne : childPid ≠ parentPid)
    (hparent : s.teList parentPid = some parent₀) (hchild : s.teList childPid = some child₀)
    (hcopied : OnlyDescriptors (inherit parent child) child')
    (h : createConnectors s c parentPid childPid parent child' = .ok s') :
    StructCopied s s' parentPid childPid parent child := by
  unfold createConnectors at h
  split at h
  · cases h
  rename_i fp1 s₁ hfile1
  split at h
  · cases h
  rename_i fp2 s₂ hfile2
  split at h
  · cases h
  rename_i parent₁ hplace1
  split at h
  · cases h
  rename_i child₁ hplace2
  cases h
  obtain ⟨_, _, rfl⟩ := newFile_onlyFiles hfile1
  obtain ⟨files, inodes, rfl⟩ := newFile_onlyFiles hfile2
  have hparent₁ : (s.setProcess parentPid (setTerminal true false parent₁)).teList parentPid =
      some (setTerminal true false parent₁) := ProcessList.set_same hparent _
  have hchild₁ : (s.setProcess parentPid (setTerminal true false parent₁)).teList childPid =
      some child₀ := (ProcessList.set_other s.processes _ hne).trans hchild
  constructor
  · refine ⟨setTerminal true false parent₁, ?_, ?_⟩
    · exact (ProcessList.set_other _ _ hne.symm).trans hparent₁
    · exact (placeConnectors_onlyDescriptors hplace1).trans ⟨_, _, rfl⟩
  · refine ⟨setTerminal false true child₁, ProcessList.set_same hchild₁ _, ?_⟩
    exact (hcopied.trans (placeConnectors_onlyDescriptors hplace2)).trans ⟨_, _, rfl⟩
  · intro pid hp hc
    exact (ProcessList.set_other _ _ hc).trans (ProcessList.set_other _ _ hp)
  · exact ⟨_, files, inodes, rfl⟩

theorem copyProcessStruct_copied (hne : childPid ≠ parentPid)
    (hparent : s.teList parentPid = some parent) (hchild : s.teList childPid = some child)
    (h : copyProcessStruct s c parentPid childPid = .ok s') :
    StructCopied s s' parentPid childPid parent child := by
  unfold copyProcessStruct at h
  split at h
  · rename_i parent₀ child₀ hparent₀ hchild₀
    have hsame := (validProcess_some hparent₀).1
    rw [hparent] at hsame
    cases hsame
    have hsame := (validProcess_some hchild₀).1
    rw [hchild] at hsame
    cases hsame
    have hcopied := copyObjects_onlyDescriptors parent.objects NUMBER_OF_FILES
      (inherit parent child) s.files
    generalize copyObjects parent.objects NUMBER_OF_FILES (inherit parent child) s.files = copied
      at hcopied h
    obtain ⟨child', files⟩ := copied
    dsimp only at hcopied h
    generalize hlisted : { s.setProcess childPid child' with files := files } = s₁ at h
    have hparent₁ : s₁.teList parentPid = some parent := by
      rw [← hlisted]
      exact (ProcessList.set_other s.processes child' hne.symm).trans hparent
    have hchild₁ : s₁.teList childPid = some child' := by
      rw [← hlisted]
      exact ProcessList.set_same hchild child'
    have hothers : ∀ pid, pid ≠ childPid → s₁.teList pid = s.teList pid := by
      intro pid hpid
      rw [← hlisted]
      exact ProcessList.set_other s.processes child' hpid
    split at h
    · obtain ⟨hp, hc, hrest, processes, files', inodes, hs'⟩ :=
        createConnectors_copied hne hparent₁ hchild₁ hcopied h
      refine ⟨hp, hc, fun pid h1 h2 => (hrest pid h1 h2).trans (hothers pid h2), ?_⟩
      rw [hs', ← hlisted]
      exact ⟨processes, files', inodes, rfl⟩
    · cases h
      refine ⟨⟨parent, hparent₁, onlyDescriptors_refl parent⟩, ⟨child', hchild₁, hcopied⟩,
        fun pid _ hpid => hothers pid hpid, ?_⟩
      rw [← hlisted]
      exact ⟨_, files, s.inodes, rfl⟩
  · cases h

def PAGEDPOOL_PA : Nat := 0x01800000
def EXTRAHEAP2_PA : Nat := 0x01400000
def EXTRAHEAP3_PA : Nat := 0x01600000

/-- The regions that the kernel's tables map: the first 2 MB, the pool of pages and the extra
heaps 2 and 3. -/
structure KernelMaps (p : Paging) : Prop where
  low : Maps p KERNEL_PML4_PA 0 0
  pool : Maps p KERNEL_PML4_PA PAGEDPOOL_VA PAGEDPOOL_PA
  extraHeap2 : Maps p KERNEL_PML4_PA EXTRAHEAP2_VA EXTRAHEAP2_PA
  extraHeap3 : Maps p KERNEL_PML4_PA EXTRAHEAP3_VA EXTRAHEAP3_PA

theorem KernelMaps.mono {p p' : Paging} (h : KernelMaps p) (hext : Extends p p') : KernelMaps p' :=
  ⟨h.low.mono hext, h.pool.mono hext, h.extraHeap2.mono hext, h.extraHeap3.mono hext⟩

def slabPa (block : Nat) : Nat := EXTRAHEAP2_PA + block * (1024 * 1024)

theorem slab_translate {p : Paging} (h : KernelMaps p) {block : Nat} (hblock : block < 4) :
    virtualToPhysical p.memory (slabVa block) KERNEL_PML4_PA = .ok (slabPa block) := by
  have hfirst : 0 < 2 ^ 21 := by decide
  have hsecond : 1024 * 1024 < 2 ^ 21 := by decide
  have hcases : block = 0 ∨ block = 1 ∨ block = 2 ∨ block = 3 := by omega
  rcases hcases with rfl | rfl | rfl | rfl
  · have htranslate := h.extraHeap2.translate hfirst
    exact htranslate
  · have htranslate := h.extraHeap2.translate hsecond
    exact htranslate
  · have htranslate := h.extraHeap3.translate hfirst
    exact htranslate
  · have htranslate := h.extraHeap3.translate hsecond
    exact htranslate

inductive ImageSource (slab slab' : SlabPool) (imagePa : Nat) : Prop where
  | block (block : Nat) (hfirst : (List.range 4).find? slab.free = some block)
      (hpa : imagePa = slabPa block)
      (hslab : slab' = { slab with free := Function.update slab.free block false })
  | pages (first : Nat)
      (hnone : slab.initialized = false ∨ (List.range 4).find? slab.free = none)
      (hbound : first ≤ PAGE_COUNT_MAX) (hpa : imagePa = PAGEDPOOL_PA + first * PAGE_SIZE)
      (hslab : slab' = slab)

theorem ImageSource.aligned (h : ImageSource slab slab' imagePa) :
    imagePa % 4096 = 0 ∧ imagePa + 2 ^ 21 ≤ 2 ^ 48 := by
  have hheap : EXTRAHEAP2_PA = 0x01400000 := rfl
  have hpool : PAGEDPOOL_PA = 0x01800000 := rfl
  have hcount : PAGE_COUNT_MAX = 512 := rfl
  have hpage : PAGE_SIZE = 4096 := rfl
  cases h with
  | block block hfirst hpa _ =>
      have hlt := List.mem_range.mp (List.mem_of_find?_eq_some hfirst)
      rw [slabPa] at hpa
      omega
  | pages first _ hbound hpa _ =>
      rw [hpage] at hpa
      omega

theorem mmAllocPages_took {room : Nat → Bool} {conductor : Conductor} {size va : Nat}
    (hsize : 1 < size) (h : mmAllocPages s room conductor size = .ok (va, s')) :
    ∃ first list, Took s.pageAllocList list first size ∧
      va = PAGEDPOOL_VA + first * PAGE_SIZE ∧ s' = { s with pageAllocList := list } := by
  obtain ⟨pool, halloc, rfl⟩ := mmAllocPages_ok h
  obtain ⟨first, htook, hva⟩ := allocPages_ok hsize halloc
  exact ⟨first, pool.pageAllocList, htook, hva, rfl⟩

theorem pool_translate {p : Paging} (h : KernelMaps p) (hfirst : first < PAGE_COUNT_MAX) :
    virtualToPhysical p.memory (PAGEDPOOL_VA + first * PAGE_SIZE) KERNEL_PML4_PA =
      .ok (PAGEDPOOL_PA + first * PAGE_SIZE) := by
  have hcount : PAGE_COUNT_MAX = 512 := rfl
  have hpage : PAGE_SIZE = 4096 := rfl
  apply h.pool.translate
  rw [hpage]
  omega

theorem allocMemoryForImageAndStack_took (hmaps : KernelMaps s.paging)
    (h : allocMemoryForImageAndStack s c parentPid parent = .ok s') :
    ∃ base basePa stackPa first slab list, ImageSource s.newPagedPool slab basePa ∧
      Took s.pageAllocList list first 16 ∧
      s' = { s with newPagedPool := slab, pageAllocList := list }.setProcess parentPid
        (setBuffers base basePa (PAGEDPOOL_VA + first * PAGE_SIZE) stackPa parent) := by
  obtain ⟨base, s₁, stack, s₂, basePa, stackPa, himage, hstack, hbase, rfl⟩ :=
    allocMemoryForImageAndStack_ok h
  obtain ⟨first, list, htook, rfl, rfl⟩ := mmAllocPages_took (by decide) hstack
  have hsize : CONFIG_RING3_STACK_SIZE_IN_KB * 1024 / 4096 = 16 := by decide
  rw [hsize] at htook
  obtain ⟨block, hfirst, rfl, rfl⟩ | ⟨hnone, hpages⟩ := allocImage_ok himage
  · have hlt := List.mem_range.mp (List.mem_of_find?_eq_some hfirst)
    obtain rfl : basePa = slabPa block :=
      Except.ok.inj (hbase.symm.trans (slab_translate hmaps hlt))
    exact ⟨_, slabPa block, stackPa, first, _, list, .block block hfirst rfl rfl, htook, rfl⟩
  · obtain ⟨first', list', htook', rfl, rfl⟩ := mmAllocPages_took (by decide) hpages
    have hbound := htook'.bound
    have hpagesize : CONFIG_IMAGESIZE_LIMIT_IN_KB * 1024 / 4096 = 102 := by decide
    rw [hpagesize] at hbound
    have htranslate := pool_translate hmaps (show first' < PAGE_COUNT_MAX by omega)
    obtain rfl : basePa = PAGEDPOOL_PA + first' * PAGE_SIZE :=
      Except.ok.inj (hbase.symm.trans htranslate)
    exact ⟨_, _, stackPa, first, s.newPagedPool, list,
      .pages first' hnone (by omega) rfl rfl, htook.after htook'.kept, rfl⟩

def KeepsMemory (childPid : Nat) (s s' : System) : Prop :=
  ∀ pid, pid ≠ childPid → (s'.teList pid).map memoryFields = (s.teList pid).map memoryFields

theorem KeepsMemory.trans {s'' : System} (h : KeepsMemory childPid s s')
    (h' : KeepsMemory childPid s' s'') : KeepsMemory childPid s s'' :=
  fun pid hpid => (h' pid hpid).trans (h pid hpid)

theorem keepsMemory_setChild (s : System) (childPid : Nat) (p : Process) :
    KeepsMemory childPid s (s.setProcess childPid p) := by
  intro pid hpid
  change ((s.processes.set childPid p).teList pid).map memoryFields = _
  rw [ProcessList.set_other _ _ hpid]
  rfl

theorem keepsMemory_set (childPid : Nat) (h : s.teList pid = some q)
    (hfields : memoryFields p = memoryFields q) :
    KeepsMemory childPid s (s.setProcess pid p) := by
  intro i _
  change ((s.processes.set pid p).teList i).map memoryFields = _
  rcases eq_or_ne i pid with rfl | hne
  · rw [ProcessList.set_same h, h]
    exact congrArg some hfields
  · rw [ProcessList.set_other _ _ hne]
    rfl

theorem OnlyDescriptors.memoryFields_eq (h : OnlyDescriptors p p') :
    memoryFields p' = memoryFields p := by
  obtain ⟨_, _, rfl⟩ := h
  rfl

theorem StructCopied.keepsMemory (h : StructCopied s s' parentPid childPid parent child)
    (hparent : s.teList parentPid = some parent) : KeepsMemory childPid s s' := by
  intro pid hpid
  rcases eq_or_ne pid parentPid with rfl | hne
  · obtain ⟨parent', hparent', honly⟩ := h.father
    rw [hparent', hparent]
    exact congrArg some honly.memoryFields_eq
  · rw [h.others pid hne hpid]

/-- The child before its image is loaded: where its memory will be. -/
structure Prepared (s s' : System) (childPid childTid pml4Va : Nat) (parent child₀ : Process) :
    Prop where
  child : ∃ child, s'.teList childPid = some child ∧
    memoryFields child = ⟨parent.cpl, pml4Va, some childTid, child₀.heapStart, child₀.heapEnd⟩ ∧
    ImageSource s.newPagedPool s'.newPagedPool child.imagePa
  others : KeepsMemory childPid s s'
  fresh : s.threadList childTid = none
  threads : ∃ first thread, s'.threadList = Function.update s.threadList childTid (some thread) ∧
    thread.rsp + 1 = PAGEDPOOL_VA + first * PAGE_SIZE + STACK_SIZE ∧
      Took s.pageAllocList s'.pageAllocList first 16
  slices : s'.gHeapCount = s.gHeapCount
  tables : s'.paging = s.paging

theorem prepareChild_prepared {parentTid pml4Va : Nat} (hmaps : KernelMaps s.paging)
    (hparent : s.teList parentPid = some parent) (hchild : s.teList childPid = some child₀)
    (h : prepareChild s c parentPid parentTid childPid pml4Va = .ok (childTid, s')) :
    Prepared s s' childPid childTid pml4Va parent child₀ := by
  obtain ⟨pml4Pa, parent₀, child', father, s₁, s₂, s₃, parent₃, child₃, thread, hne, _, hparent₀,
    hchild₀, _, halloc, hcopy, hthread, hparent₃, hchild₃, hthread₃, rfl⟩ := prepareChild_ok h
  rw [hparent] at hparent₀
  cases hparent₀
  rw [hchild] at hchild₀
  cases hchild₀
  let tabled := s.setProcess childPid (setTables parent pml4Va pml4Pa child₀)
  have hkept₀ : KeepsMemory childPid s tabled := keepsMemory_setChild s childPid _
  have hparentT : tabled.teList parentPid = some parent :=
    (ProcessList.set_other s.processes _ hne.symm).trans hparent
  have hchildT : tabled.teList childPid = some (setTables parent pml4Va pml4Pa child₀) :=
    ProcessList.set_same hchild _
  obtain ⟨base, basePa, stackPa, first, slab, list, hsource, htook, rfl⟩ :=
    allocMemoryForImageAndStack_took (s := tabled) hmaps halloc
  let pooled : System := { tabled with newPagedPool := slab, pageAllocList := list }
  let buffered := setBuffers base basePa (PAGEDPOOL_VA + first * PAGE_SIZE) stackPa parent
  have hkept₁ : KeepsMemory childPid tabled (pooled.setProcess parentPid buffered) :=
    keepsMemory_set (s := pooled) childPid hparentT rfl
  have hparentB : (pooled.setProcess parentPid buffered).teList parentPid = some buffered :=
    ProcessList.set_same (T := pooled.processes) hparentT _
  have hchildB : (pooled.setProcess parentPid buffered).teList childPid =
      some (setTables parent pml4Va pml4Pa child₀) :=
    (ProcessList.set_other pooled.processes _ hne).trans hchildT
  have hcopied := copyProcessStruct_copied hne hparentB hchildB hcopy
  have hkept₂ := hcopied.keepsMemory hparentB
  obtain ⟨parent₂, hparent₂, _, _, rfl⟩ := hcopied.father
  obtain ⟨child₂, hchild₂, _, _, rfl⟩ := hcopied.son
  obtain ⟨processes, files, inodes, rfl⟩ := hcopied.rest
  obtain ⟨process, hfree, rfl⟩ := copyThreadStruct_ok hthread
  have hparentSame := hparent₃.symm.trans hparent₂
  cases hparentSame
  have hchildSame := hchild₃.symm.trans hchild₂
  cases hchildSame
  constructor
  · exact ⟨_, ProcessList.set_same hchild₃ _, rfl, hsource⟩
  · exact ((hkept₀.trans hkept₁).trans hkept₂).trans (keepsMemory_setChild _ childPid _)
  · exact freeThread_some hfree
  · refine ⟨first, _, Function.update_idem _ _ _, ?_, htook⟩
    have hsize : CONFIG_RING3_STACK_SIZE_IN_KB * 1024 = 65536 := by decide
    change PAGEDPOOL_VA + first * PAGE_SIZE + CONFIG_RING3_STACK_SIZE_IN_KB * 1024 - 1 + 1 =
      PAGEDPOOL_VA + first * PAGE_SIZE + CONFIG_RING3_STACK_SIZE_IN_KB * 1024
    omega
  · rfl
  · rfl

/-- What a successful cloning does to the memory of the processes. -/
structure Cloned (s s' : System) (childPid childTid : Nat) (child : Process) : Prop where
  freshPid : s.teList childPid = none
  user : UserProcess s' childPid child
  others : KeepsMemory childPid s s'
  heapStart : child.heapStart = HEAPPOOL_VA + s.gHeapCount * G_DEFAULT_PROCESSHEAP_SIZE
  heapEnd : child.heapEnd = child.heapStart + G_DEFAULT_PROCESSHEAP_SIZE
  slices : s'.gHeapCount = s.gHeapCount + 1
  flower : child.flower = some childTid
  freshTid : s.threadList childTid = none
  threads : ∀ tid, tid ≠ childTid →
    (s'.threadList tid).map Thread.rsp = (s.threadList tid).map Thread.rsp
  stack : ∃ first thread, s'.threadList childTid = some thread ∧
    thread.rsp + 1 = PAGEDPOOL_VA + first * PAGE_SIZE + STACK_SIZE ∧
      Took s.pageAllocList s'.pageAllocList first 16
  tables : Extends s.paging s'.paging
  image : ∃ imagePa, ImageSource s.newPagedPool s'.newPagedPool imagePa ∧ ImageAt s' child imagePa

theorem balance_rsp (system : Bool) (t : Thread) : (balance system t).rsp = t.rsp := by
  unfold balance
  split <;> rfl

theorem copyProcess00_cloned (hmaps : KernelMaps s.paging)
    (h : copyProcess00 s c = .ok (result, s')) (hresult : result ≠ -1) :
    ∃ childPid childTid child, Cloned s s' childPid childTid child := by
  obtain ⟨_, hfail⟩ | ⟨parentTid, childPid, childTid, ⟨_, hfail, _⟩ | ⟨s₁, hcreates, _, _, _,
    hstart⟩⟩ := copyProcess00_ok h
  · exact absurd hfail hresult
  · exact absurd hfail hresult
  obtain ⟨pml4Va, paging, parent, parentThread, hpml4, hparent, _, hprepare⟩ := hcreates.steps
  obtain ⟨hnone, hlt⟩ := getNewPID_some hcreates.newPid
  have hparent' : parentOf s c.pid = .ok (some (parent, parentTid, parentThread)) := hparent
  obtain ⟨_, _, hteList, _, _, hparentThread, hcpl⟩ := parentOf_some hparent'
  have hne : c.pid.toNat ≠ childPid := by
    intro heq
    rw [heq, hnone] at hteList
    cases hteList
  have hext : Extends s.paging paging := (cloneTable_ok hpml4).2.1
  let s₀ := registerProcess (callerState s paging parentTid parentThread) childPid
  have hparent₀ : s₀.teList c.pid.toNat = some parent :=
    (ProcessList.set_other s.processes _ hne).trans hteList
  have hchild₀ : s₀.teList childPid = some (newProcess childPid s.gHeapCount) := by
    change (s.processes.set childPid (newProcess childPid s.gHeapCount)).teList childPid = _
    rw [s.processes.set_teList _ hlt, Function.update_self]
  have hprepared := prepareChild_prepared (s := s₀) (hmaps.mono hext) hparent₀ hchild₀ hprepare
  obtain ⟨child, hchild, hfields, hsource⟩ := hprepared.child
  obtain ⟨first, thread, hthreads, hrsp, htook⟩ := hprepared.threads
  obtain ⟨child', father, thread', dirs, paging', system, hchild', hfather, hthread', hmap, rfl⟩ :=
    startChild_ok hstart
  rw [hchild] at hchild'
  cases hchild'
  have hpml4Va : child.pml4Va = pml4Va := congrArg MemoryFields.pml4Va hfields
  rw [hprepared.tables, hpml4Va] at hmap
  obtain ⟨haligned, hbound⟩ := hsource.aligned
  obtain ⟨hextAll, hmapped⟩ := mapImage_maps hmaps.low hpml4 hmap haligned hbound
  have hfresh₀ : Function.update s.threadList parentTid (some (setRunning parentThread)) childTid =
      none := hprepared.fresh
  have hneTid : childTid ≠ parentTid := by
    rintro rfl
    rw [Function.update_self] at hfresh₀
    cases hfresh₀
  rw [Function.update_of_ne hneTid] at hfresh₀
  have hthreadSame : thread' = thread := by
    rw [hthreads, Function.update_self] at hthread'
    exact (Option.some.inj hthread').symm
  have hfatherSame : father = setRunning parentThread := by
    rw [hthreads, Function.update_of_ne hneTid.symm] at hfather
    have hrunning : Function.update s.threadList parentTid (some (setRunning parentThread))
        parentTid = some father := hfather
    rw [Function.update_self] at hrunning
    exact (Option.some.inj hrunning).symm
  refine ⟨childPid, childTid, setDirectories dirs child, ?_⟩
  constructor
  · exact hnone
  · exact ⟨ProcessList.set_same hchild _, (congrArg MemoryFields.cpl hfields).trans hcpl⟩
  · have hregistered : KeepsMemory childPid s s₀ := keepsMemory_setChild s childPid _
    exact (hregistered.trans hprepared.others).trans (keepsMemory_setChild s₁ childPid _)
  · exact congrArg MemoryFields.heapStart hfields
  · have hstart : child.heapStart = _ := congrArg MemoryFields.heapStart hfields
    have hend : child.heapEnd = _ := congrArg MemoryFields.heapEnd hfields
    change child.heapEnd = child.heapStart + G_DEFAULT_PROCESSHEAP_SIZE
    rw [hend, hstart]
    rfl
  · exact hprepared.slices
  · exact congrArg MemoryFields.flower hfields
  · exact hfresh₀
  · intro tid htid
    change (Function.update (Function.update s₁.threadList parentTid (some (balance system father)))
      childTid _ tid).map Thread.rsp = _
    rw [Function.update_of_ne htid]
    rcases eq_or_ne tid parentTid with rfl | hother
    · rw [Function.update_self, hparentThread, Option.map_some, Option.map_some, balance_rsp,
        hfatherSame]
      rfl
    · rw [Function.update_of_ne hother, hthreads, Function.update_of_ne htid]
      change (Function.update s.threadList parentTid _ tid).map _ = _
      rw [Function.update_of_ne hother]
  · refine ⟨first, selectForExecution (balance system thread'), Function.update_self _ _ _, ?_, ?_⟩
    · change (balance system thread').rsp + 1 = _
      rw [balance_rsp, hthreadSame]
      exact hrsp
    · exact htook
  · exact hextAll
  · refine ⟨child.imagePa, hsource, ?_⟩
    change Maps paging' child.pml4Va FLOWERTHREAD_BASE child.imagePa
    rw [hpml4Va]
    exact hmapped

section cloned

variable {s s' : System} {childPid childTid : Nat} {child : Process}

theorem Cloned.user_cases (h : Cloned s s' childPid childTid child) (hp : UserProcess s' pid p) :
    pid = childPid ∧ p = child ∨
      pid ≠ childPid ∧ ∃ q, UserProcess s pid q ∧ memoryFields p = memoryFields q := by
  obtain ⟨hp, hcpl⟩ := hp
  rcases eq_or_ne pid childPid with rfl | hne
  · left
    have hsame := h.user.1
    rw [hp] at hsame
    exact ⟨rfl, Option.some.inj hsame⟩
  · right
    have hkept := h.others pid hne
    rw [hp, Option.map_some] at hkept
    obtain ⟨q, hq, hfields⟩ := Option.map_eq_some_iff.mp hkept.symm
    exact ⟨hne, q, ⟨hq, (congrArg MemoryFields.cpl hfields).trans hcpl⟩, hfields.symm⟩

theorem Cloned.user_kept (h : Cloned s s' childPid childTid child) (hq : UserProcess s pid q) :
    pid ≠ childPid ∧ ∃ p, UserProcess s' pid p ∧ memoryFields p = memoryFields q := by
  obtain ⟨hq, hcpl⟩ := hq
  have hne : pid ≠ childPid := by
    rintro rfl
    rw [h.freshPid] at hq
    cases hq
  have hkept := h.others pid hne
  rw [hq, Option.map_some] at hkept
  obtain ⟨p, hp, hfields⟩ := Option.map_eq_some_iff.mp hkept
  exact ⟨hne, p, ⟨hp, (congrArg MemoryFields.cpl hfields).trans hcpl⟩, hfields⟩

theorem heapRange_congr (h : memoryFields p = memoryFields q) : heapRange p = heapRange q := by
  have hstart : p.heapStart = q.heapStart := congrArg MemoryFields.heapStart h
  have hend : p.heapEnd = q.heapEnd := congrArg MemoryFields.heapEnd h
  rw [heapRange, heapRange, hstart, hend]

theorem imageAt_kept (h : Cloned s s' childPid childTid child)
    (hfields : memoryFields p = memoryFields q) (hq : ImageAt s q pa) : ImageAt s' p pa := by
  have hpml4 : p.pml4Va = q.pml4Va := congrArg MemoryFields.pml4Va hfields
  rw [ImageAt, hpml4]
  exact Maps.mono hq h.tables

theorem Cloned.pairwise (h : Cloned s s' childPid childTid child) {R R' : Process → Process → Prop}
    (hsymm : ∀ p p', R' p p' → R' p' p)
    (hold : ∀ pid pid' p p' q q', pid ≠ pid' → UserProcess s pid q → UserProcess s pid' q' →
      memoryFields p = memoryFields q → memoryFields p' = memoryFields q' → R q q' → R' p p')
    (hnew : ∀ pid p q, UserProcess s pid q → memoryFields p = memoryFields q → R' child p)
    (hpairs : ∀ pid pid' q q', pid ≠ pid' → UserProcess s pid q → UserProcess s pid' q' → R q q')
    {pid' : Nat} (hne : pid ≠ pid') (hp : UserProcess s' pid p)
    (hp' : UserProcess s' pid' p') : R' p p' := by
  obtain ⟨rfl, rfl⟩ | ⟨_, q, hq, hfields⟩ := h.user_cases hp
  · obtain ⟨rfl, _⟩ | ⟨_, q', hq', hfields'⟩ := h.user_cases hp'
    · exact absurd rfl hne
    · exact hnew _ _ _ hq' hfields'
  · obtain ⟨rfl, rfl⟩ | ⟨_, q', hq', hfields'⟩ := h.user_cases hp'
    · exact hsymm _ _ (hnew _ _ _ hq hfields)
    · exact hold _ _ _ _ _ _ hne hq hq' hfields hfields' (hpairs _ _ _ _ hne hq hq')

end cloned

def HasSlice (p : Process) (k : Nat) : Prop :=
  p.heapStart = HEAPPOOL_VA + k * G_DEFAULT_PROCESSHEAP_SIZE ∧
    p.heapEnd = p.heapStart + G_DEFAULT_PROCESSHEAP_SIZE

/-- The heaps are different slices below the counter of the slices. -/
structure HeapSlices (s : System) : Prop where
  slice : ∀ pid p, UserProcess s pid p → ∃ k < s.gHeapCount, HasSlice p k
  apart : HeapsDisjoint s

theorem heapRange_disjoint {k' : Nat} (h : HasSlice p k) (h' : HasSlice p' k') (hlt : k' < k) :
    Disjoint (heapRange p) (heapRange p') := by
  obtain ⟨hstart, hend⟩ := h
  obtain ⟨hstart', hend'⟩ := h'
  have hsize : G_DEFAULT_PROCESSHEAP_SIZE = 32768 := by decide
  rw [hsize] at hstart hend hstart' hend'
  rw [heapRange, heapRange, Set.Ico_disjoint_Ico]
  omega

theorem heapSlices_cloned (hinv : HeapSlices s) (h : Cloned s s' childPid childTid child) :
    HeapSlices s' := by
  have hchild : HasSlice child s.gHeapCount := ⟨h.heapStart, h.heapEnd⟩
  have hslice : ∀ p q, memoryFields p = memoryFields q → ∀ k, HasSlice q k → HasSlice p k := by
    intro p q hfields k hq
    have hstart : p.heapStart = q.heapStart := congrArg MemoryFields.heapStart hfields
    have hend : p.heapEnd = q.heapEnd := congrArg MemoryFields.heapEnd hfields
    rw [HasSlice, hstart, hend]
    exact hq
  constructor
  · intro pid p hp
    rw [h.slices]
    obtain ⟨_, rfl⟩ | ⟨_, q, hq, hfields⟩ := h.user_cases hp
    · exact ⟨s.gHeapCount, Nat.lt_succ_self _, hchild⟩
    · obtain ⟨k, hk, hhas⟩ := hinv.slice pid q hq
      exact ⟨k, Nat.lt_succ_of_lt hk, hslice _ _ hfields k hhas⟩
  · intro pid pid' p p' hne hp hp'
    apply h.pairwise (R := fun q q' => Disjoint (heapRange q) (heapRange q')) _ _ _
      hinv.apart hne hp hp'
    · intro p p' hdisjoint
      exact hdisjoint.symm
    · intro _ _ p p' q q' _ _ _ hfields hfields' hdisjoint
      rw [heapRange_congr hfields, heapRange_congr hfields']
      exact hdisjoint
    · intro pid p q hq hfields
      obtain ⟨k, hk, hhas⟩ := hinv.slice pid q hq
      exact heapRange_disjoint hchild (hslice _ _ hfields k hhas) hk

def HEAP_COUNT_MAX : Nat := HEAPPOOL_SIZE / G_DEFAULT_PROCESSHEAP_SIZE

theorem heapRange_inPool_iff (h : HasSlice p k) :
    heapRange p ⊆ Set.Ico HEAPPOOL_VA (HEAPPOOL_VA + HEAPPOOL_SIZE) ↔ k < HEAP_COUNT_MAX := by
  obtain ⟨hstart, hend⟩ := h
  have hsize : G_DEFAULT_PROCESSHEAP_SIZE = 32768 := by decide
  have hpool : HEAPPOOL_SIZE = 32768 * 64 := by decide
  have hmax : HEAP_COUNT_MAX = 64 := by decide
  rw [hsize] at hstart hend
  rw [heapRange, Set.Ico_subset_Ico_iff (by omega)]
  omega

theorem heapsInPool_of_count (h : HeapSlices s) (hcount : s.gHeapCount ≤ HEAP_COUNT_MAX) :
    HeapsInPool s := by
  intro pid p hp
  obtain ⟨k, hk, hhas⟩ := h.slice pid p hp
  exact (heapRange_inPool_iff hhas).mpr (by omega)

/-- A stack that ends below `top` is outside of the pool of pages, or in pages of it that have
been taken. -/
def StackPlaced (list : Nat → Option Page) (top : Nat) : Prop :=
  top ≤ PAGEDPOOL_VA ∨ PAGEDPOOL_VA + PAGE_COUNT_MAX * PAGE_SIZE ≤ top - STACK_SIZE ∨
    ∃ first, top = PAGEDPOOL_VA + first * PAGE_SIZE + STACK_SIZE ∧
      ∀ i, first ≤ i → i < first + 16 → list i ≠ none

structure StackSlots (s : System) : Prop where
  listed : ∀ pid p tid, UserProcess s pid p → p.flower = some tid → s.threadList tid ≠ none
  placed : ∀ pid p t, UserProcess s pid p → flowerThread s p = some t →
    StackPlaced s.pageAllocList (t.rsp + 1)
  apart : StacksDisjoint s

theorem StackPlaced.kept {top : Nat} (hkept : ∀ i, list i ≠ none → list' i ≠ none)
    (h : StackPlaced list top) :
    StackPlaced list' top := by
  obtain hbelow | habove | ⟨first, htop, htaken⟩ := h
  · exact .inl hbelow
  · exact .inr (.inl habove)
  · exact .inr (.inr ⟨first, htop, fun i hlow hhigh => hkept i (htaken i hlow hhigh)⟩)

theorem stackRange_disjoint {t t' : Thread} (htook : Took list list' first 16)
    (ht : t.rsp + 1 = PAGEDPOOL_VA + first * PAGE_SIZE + STACK_SIZE)
    (ht' : StackPlaced list (t'.rsp + 1)) : Disjoint (stackRange t) (stackRange t') := by
  have hstack : STACK_SIZE = 65536 := by decide
  have hpage : PAGE_SIZE = 4096 := rfl
  have hcount : PAGE_COUNT_MAX = 512 := rfl
  have hbound := htook.bound
  rw [hpage, hstack] at ht
  rw [stackRange, stackRange, Set.Ico_disjoint_Ico, hstack]
  obtain hbelow | habove | ⟨first', htop, htaken⟩ := ht'
  · omega
  · rw [hstack, hpage, hcount] at habove
    omega
  · rw [hpage, hstack] at htop
    have hslot : ∀ i, first ≤ i → i < first + 16 → ¬ (first' ≤ i ∧ i < first' + 16) := by
      rintro i hlow hhigh ⟨hlow', hhigh'⟩
      exact htaken i hlow' hhigh' (htook.free i hlow hhigh)
    have hleft := hslot first (Nat.le_refl _) (by omega)
    have hright := hslot first'
    omega

def FlowersApart (s : System) (p p' : Process) : Prop :=
  ∀ t t', flowerThread s p = some t → flowerThread s p' = some t' →
    Disjoint (stackRange t) (stackRange t')

theorem stackSlots_cloned (hinv : StackSlots s) (h : Cloned s s' childPid childTid child) :
    StackSlots s' := by
  obtain ⟨first, thread, hthread, hrsp, htook⟩ := h.stack
  have hchild : flowerThread s' child = some thread := by
    rw [flowerThread, h.flower]
    exact hthread
  have hflower : ∀ pid p q, UserProcess s pid q → memoryFields p = memoryFields q →
      ∀ tid, p.flower = some tid → q.flower = some tid ∧ tid ≠ childTid := by
    intro pid p q hq hfields tid hp
    have hsame : p.flower = q.flower := congrArg MemoryFields.flower hfields
    rw [hsame] at hp
    refine ⟨hp, ?_⟩
    rintro rfl
    exact hinv.listed pid q tid hq hp h.freshTid
  have hold : ∀ pid p q t, UserProcess s pid q → memoryFields p = memoryFields q →
      flowerThread s' p = some t → ∃ t₀, flowerThread s q = some t₀ ∧ t.rsp = t₀.rsp := by
    intro pid p q t hq hfields ht
    obtain ⟨tid, hp, htid⟩ := Option.bind_eq_some_iff.mp ht
    obtain ⟨hq', hne⟩ := hflower pid p q hq hfields tid hp
    have hkept := h.threads tid hne
    rw [htid, Option.map_some] at hkept
    obtain ⟨t₀, ht₀, hsame⟩ := Option.map_eq_some_iff.mp hkept.symm
    refine ⟨t₀, ?_, hsame.symm⟩
    rw [flowerThread, hq']
    exact ht₀
  constructor
  · intro pid p tid hp hflower'
    obtain ⟨_, rfl⟩ | ⟨_, q, hq, hfields⟩ := h.user_cases hp
    · rw [h.flower] at hflower'
      cases hflower'
      rw [hthread]
      exact Option.some_ne_none _
    · obtain ⟨hq', hne⟩ := hflower pid p q hq hfields tid hflower'
      intro hnone
      have hkept := h.threads tid hne
      rw [hnone, Option.map_none] at hkept
      exact hinv.listed pid q tid hq hq' (Option.map_eq_none_iff.mp hkept.symm)
  · intro pid p t hp ht
    obtain ⟨_, rfl⟩ | ⟨_, q, hq, hfields⟩ := h.user_cases hp
    · rw [hchild] at ht
      cases ht
      exact .inr (.inr ⟨first, hrsp, htook.taken⟩)
    · obtain ⟨t₀, ht₀, hsame⟩ := hold pid p q t hq hfields ht
      rw [hsame]
      exact (hinv.placed pid q t₀ hq ht₀).kept htook.kept
  · intro pid pid' p p' t t' hne hp hp' ht ht'
    suffices hpair : FlowersApart s' p p' from hpair t t' ht ht'
    refine h.pairwise (R := FlowersApart s) ?_ ?_ ?_ ?_ hne hp hp'
    · intro p p' hdisjoint t t' ht ht'
      exact (hdisjoint t' t ht' ht).symm
    · intro _ _ p p' q q' _ hq hq' hfields hfields' hdisjoint t t' ht ht'
      obtain ⟨t₀, ht₀, hsame⟩ := hold _ p q t hq hfields ht
      obtain ⟨t₀', ht₀', hsame'⟩ := hold _ p' q' t' hq' hfields' ht'
      rw [stackRange, stackRange, hsame, hsame']
      exact hdisjoint t₀ t₀' ht₀ ht₀'
    · intro _ p q hq hfields t t' ht ht'
      rw [hchild] at ht
      cases ht
      obtain ⟨t₀', ht₀', hsame'⟩ := hold _ p q t' hq hfields ht'
      have hdisjoint := stackRange_disjoint htook hrsp (hinv.placed _ q t₀' hq ht₀')
      rw [stackRange, stackRange, hsame']
      exact hdisjoint
    · intro _ _ q q' hne hq hq' t t' ht ht'
      exact hinv.apart _ _ q q' t t' hne hq hq' ht ht'

/-- The state in which no process has been cloned yet: the blocks of the slab allocator are free,
and the memory of the processes of ring 3 is separate and lies elsewhere. -/
structure Booted (s : System) : Prop where
  maps : KernelMaps s.paging
  slabReady : s.newPagedPool.initialized = true
  slabFree : ∀ block < 4, s.newPagedPool.free block = true
  image : ∀ pid p, UserProcess s pid p → ∃ pa, ImageAt s p pa ∧
    (pa + IMAGE_REGION_SIZE ≤ EXTRAHEAP2_PA ∨ EXTRAHEAP2_PA + IMAGE_REGION_SIZE ≤ pa)
  imagesApart : ImagesDisjoint s
  heap : HeapSlices s
  slices : s.gHeapCount ≤ HEAP_COUNT_MAX
  stack : StackSlots s

theorem imageSource_block (h : ImageSource slab slab' imagePa) (hready : slab.initialized = true)
    (hk : k < 4) (htaken : ∀ block < k, slab.free block = false) (hfree : slab.free k = true) :
    imagePa = slabPa k ∧ slab' = { slab with free := Function.update slab.free k false } := by
  have hfind : (List.range 4).find? slab.free = some k := by
    rw [List.find?_range_eq_some]
    refine ⟨hfree, List.mem_range.mpr hk, ?_⟩
    intro block hblock
    rw [htaken block hblock]
    rfl
  cases h with
  | block block hfirst hpa hslab =>
      rw [hfind] at hfirst
      cases hfirst
      exact ⟨hpa, hslab⟩
  | pages _ hnone _ _ _ =>
      rcases hnone with hnot | hnone
      · rw [hready] at hnot
        cases hnot
      · rw [hfind] at hnone
        cases hnone

def Overlap (s : System) : Prop :=
  ∃ pid pid' p p' pa pa', pid ≠ pid' ∧ UserProcess s pid p ∧ UserProcess s pid' p' ∧
    ImageAt s p pa ∧ ImageAt s p' pa' ∧ pa < pa' + IMAGE_REGION_SIZE ∧ pa' < pa + IMAGE_REGION_SIZE

theorem Overlap.not_imagesDisjoint (h : Overlap s) : ¬ ImagesDisjoint s := by
  obtain ⟨pid, pid', p, p', pa, pa', hne, hp, hp', hat, hat', hlt, hlt'⟩ := h
  intro hdisjoint
  have hapart := (imageFrames_disjoint_iff hat hat').mp (hdisjoint _ _ _ _ hne hp hp')
  omega

theorem overlap_cloned (hoverlap : Overlap s) (h : Cloned s s' childPid childTid child) :
    Overlap s' := by
  obtain ⟨pid, pid', q, q', pa, pa', hne, hq, hq', hat, hat', hlt⟩ := hoverlap
  obtain ⟨_, p, hp, hfields⟩ := h.user_kept hq
  obtain ⟨_, p', hp', hfields'⟩ := h.user_kept hq'
  exact ⟨pid, pid', p, p', pa, pa', hne, hp, hp', imageAt_kept h hfields hat,
    imageAt_kept h hfields' hat', hlt⟩

theorem first_image (hboot : Booted s) (h : Cloned s s' childPid childTid child) :
    ImageAt s' child (slabPa 0) ∧ s'.newPagedPool =
      { s.newPagedPool with free := Function.update s.newPagedPool.free 0 false } := by
  obtain ⟨imagePa, hsource, hat⟩ := h.image
  obtain ⟨rfl, hslab⟩ := imageSource_block hsource hboot.slabReady (k := 0) (by decide)
    (fun block hblock => absurd hblock (Nat.not_lt_zero block)) (hboot.slabFree 0 (by decide))
  exact ⟨hat, hslab⟩

theorem imagesDisjoint_first (hboot : Booted s) (h : Cloned s s' childPid childTid child) :
    ImagesDisjoint s' := by
  obtain ⟨hat, _⟩ := first_image hboot h
  have hkept : ∀ pid p q, UserProcess s pid q → memoryFields p = memoryFields q →
      imageFrames s' p = imageFrames s q := by
    intro pid p q hq hfields
    obtain ⟨pa, hatQ, _⟩ := hboot.image pid q hq
    rw [imageFrames_eq hatQ, imageFrames_eq (imageAt_kept h hfields hatQ)]
  intro pid pid' p p' hne hp hp'
  apply h.pairwise (R := fun q q' => Disjoint (imageFrames s q) (imageFrames s q')) _ _ _
    hboot.imagesApart hne hp hp'
  · intro p p' hdisjoint
    exact hdisjoint.symm
  · intro pid pid' p p' q q' _ hq hq' hfields hfields' hdisjoint
    rw [hkept pid p q hq hfields, hkept pid' p' q' hq' hfields']
    exact hdisjoint
  · intro pid p q hq hfields
    obtain ⟨pa, hatQ, hapart⟩ := hboot.image pid q hq
    rw [imageFrames_disjoint_iff hat (imageAt_kept h hfields hatQ)]
    have hslab : slabPa 0 = EXTRAHEAP2_PA := rfl
    rw [hslab]
    exact hapart.symm

theorem overlap_second {s₁ s₂ : System} {childPid' childTid' : Nat} (hboot : Booted s)
    (h : Cloned s s₁ childPid childTid child) (h' : Cloned s₁ s₂ childPid' childTid' child') :
    Overlap s₂ := by
  obtain ⟨hat, hslab⟩ := first_image hboot h
  obtain ⟨imagePa, hsource, hat'⟩ := h'.image
  rw [hslab] at hsource
  have htaken : ∀ block < 1, Function.update s.newPagedPool.free 0 false block = false := by
    intro block hblock
    obtain rfl : block = 0 := by omega
    exact Function.update_self _ _ _
  have hfree : Function.update s.newPagedPool.free 0 false 1 = true := by
    rw [Function.update_of_ne Nat.one_ne_zero]
    exact hboot.slabFree 1 (by decide)
  obtain ⟨rfl, _⟩ := imageSource_block hsource hboot.slabReady (k := 1) (by decide) htaken hfree
  obtain ⟨hne, p, hp, hfields⟩ := h'.user_kept h.user
  exact ⟨childPid, childPid', p, child', slabPa 0, slabPa 1, hne, hp, h'.user,
    imageAt_kept h' hfields hat, hat', by decide, by decide⟩

/-- A call of `copy_process00` by a thread of a process. -/
structure CloneEvent where
  pid : Int
  tid : Int
  call : CloneCall

def setCaller (s : System) (e : CloneEvent) : System :=
  { s with currentPid := e.pid, currentThread := e.tid }

def cloneStep (s : System) (e : CloneEvent) : Except String (Int × System) :=
  copyProcess00 (setCaller s e) e.call

def Succeeds (s : System) (e : CloneEvent) : Prop :=
  ∀ result t, cloneStep s e = .ok (result, t) → result ≠ -1

variable {e : CloneEvent} {events : List CloneEvent}

theorem cloneStep_cloned (hmaps : KernelMaps s.paging) (hsucceeds : Succeeds s e)
    (hstep : cloneStep s e = .ok (result, t)) :
    ∃ childPid childTid child, Cloned s t childPid childTid child := by
  obtain ⟨childPid, childTid, child, h⟩ := copyProcess00_cloned (s := setCaller s e) hmaps hstep
    (hsucceeds result t hstep)
  exact ⟨childPid, childTid, child, h.freshPid, h.user, h.others, h.heapStart, h.heapEnd, h.slices,
    h.flower, h.freshTid, h.threads, h.stack, h.tables, h.image⟩

structure ClonedMemory (s : System) : Prop where
  maps : KernelMaps s.paging
  heap : HeapSlices s
  stack : StackSlots s

theorem clonedMemory_step (h : ClonedMemory s) (hsucceeds : Succeeds s e)
    (hstep : cloneStep s e = .ok (result, t)) : ClonedMemory t := by
  obtain ⟨_, _, _, hcloned⟩ := cloneStep_cloned h.maps hsucceeds hstep
  exact ⟨h.maps.mono hcloned.tables, heapSlices_cloned h.heap hcloned,
    stackSlots_cloned h.stack hcloned⟩

theorem clonedMemory_run (h : ClonedMemory s) (hsucceeds : Guarded cloneStep Succeeds s events)
    (hrun : run cloneStep s events = .ok (outs, u)) : ClonedMemory u :=
  run_invariant ClonedMemory (fun _ _ _ _ hs hg hstep => clonedMemory_step hs hg hstep) h hsucceeds
    hrun

theorem overlap_run (h : ClonedMemory s) (hoverlap : Overlap s)
    (hsucceeds : Guarded cloneStep Succeeds s events)
    (hrun : run cloneStep s events = .ok (outs, u)) : Overlap u := by
  refine (run_invariant (fun s => ClonedMemory s ∧ Overlap s) ?_ ⟨h, hoverlap⟩ hsucceeds hrun).2
  rintro s e _ t ⟨hs, hoverlap⟩ hg hstep
  obtain ⟨_, _, _, hcloned⟩ := cloneStep_cloned hs.maps hg hstep
  exact ⟨clonedMemory_step hs hg hstep, overlap_cloned hoverlap hcloned⟩

theorem separate_none (h : Booted s) : MemorySeparate s :=
  ⟨h.imagesApart, h.stack.apart, h.heap.apart, heapsInPool_of_count h.heap h.slices⟩

theorem separate_one_iff (hboot : Booted s) (h : Cloned s u childPid childTid child) :
    MemorySeparate u ↔ s.gHeapCount + 1 ≤ HEAP_COUNT_MAX := by
  have hheap := heapSlices_cloned hboot.heap h
  constructor
  · intro hseparate
    exact (heapRange_inPool_iff ⟨h.heapStart, h.heapEnd⟩).mp (hseparate.pool childPid child h.user)
  · intro hcount
    refine ⟨imagesDisjoint_first hboot h, (stackSlots_cloned hboot.stack h).apart, hheap.apart, ?_⟩
    apply heapsInPool_of_count hheap
    rw [h.slices]
    exact hcount

/-- The memory of the processes after any number of successful clonings. The stacks and the heaps
are always disjoint. The images are, and the heaps lie in their pool, exactly if there has been at
most one cloning and there was a slice for its heap. -/
theorem memory_separate_iff {s u : System} {events : List CloneEvent} {outs : List Int}
    (h : Booted s) (hsucceeds : Guarded cloneStep Succeeds s events)
    (hrun : run cloneStep s events = .ok (outs, u)) :
    StacksDisjoint u ∧ HeapsDisjoint u ∧
      (MemorySeparate u ↔
        events.length ≤ 1 ∧ s.gHeapCount + events.length ≤ HEAP_COUNT_MAX) := by
  have hstart : ClonedMemory s := ⟨h.maps, h.heap, h.stack⟩
  have hend := clonedMemory_run hstart hsucceeds hrun
  refine ⟨hend.stack.apart, hend.heap.apart, ?_⟩
  cases events with
  | nil =>
      cases hrun
      exact iff_of_true (separate_none h) ⟨Nat.zero_le 1, h.slices⟩
  | cons e events =>
      obtain ⟨_, s₁, _, hstep, hrest, _⟩ := run_cons_ok hrun
      obtain ⟨_, _, _, hcloned⟩ := cloneStep_cloned h.maps hsucceeds.1 hstep
      cases events with
      | nil =>
          cases hrest
          rw [separate_one_iff h hcloned]
          exact (and_iff_right (Nat.le_refl 1)).symm
      | cons e' events =>
          have hlater := clonedMemory_step hstart hsucceeds.1 hstep
          have hguard := hsucceeds.tail hstep
          obtain ⟨_, s₂, _, hstep', hrest', _⟩ := run_cons_ok hrest
          obtain ⟨_, _, _, hcloned'⟩ := cloneStep_cloned hlater.maps hguard.1 hstep'
          have hoverlap := overlap_run (clonedMemory_step hlater hguard.1 hstep')
            (overlap_second h hcloned hcloned') (hguard.tail hstep') hrest'
          refine iff_of_false ?_ ?_
          · intro hseparate
            exact hoverlap.not_imagesDisjoint hseparate.image
          · rintro ⟨hlength, _⟩
            rw [List.length_cons, List.length_cons] at hlength
            omega

theorem user_bootSystem (h : UserProcess bootSystem pid p) : pid = 1 ∧ p = initProcess := by
  obtain ⟨hp, hcpl⟩ := h
  change bootProcesses.teList pid = some p at hp
  unfold bootProcesses at hp
  dsimp only at hp
  split at hp
  · cases hp
    cases hcpl
  · cases hp
    exact ⟨rfl, rfl⟩
  · cases hp

theorem booted_bootSystem : Booted bootSystem := by
  have hone : ∀ {pid pid' : Nat} {p p' : Process}, UserProcess bootSystem pid p →
      UserProcess bootSystem pid' p' → pid = pid' := by
    intro pid pid' p p' hp hp'
    rw [(user_bootSystem hp).1, (user_bootSystem hp').1]
  constructor
  · exact ⟨bootPaging_maps (k := 0) (.inl rfl) (by decide) (by decide) (by decide) (by decide),
      bootPaging_maps (k := 2) (.inl rfl) (by decide) (by decide) (by decide) (by decide),
      bootPaging_maps (k := 3) (.inl rfl) (by decide) (by decide) (by decide) (by decide),
      bootPaging_maps (k := 4) (.inl rfl) (by decide) (by decide) (by decide) (by decide)⟩
  · rfl
  · intro _ _
    rfl
  · intro pid p hp
    obtain ⟨_, rfl⟩ := user_bootSystem hp
    exact ⟨FLOWERTHREAD_BASE, bootPaging_maps (k := 1) (.inr rfl) (by decide) (by decide)
      (by decide) (by decide), .inl (by decide)⟩
  · intro pid pid' p p' hne hp hp'
    exact absurd (hone hp hp') hne
  · constructor
    · intro pid p hp
      obtain ⟨_, rfl⟩ := user_bootSystem hp
      exact ⟨1, by decide, rfl, rfl⟩
    · intro pid pid' p p' hne hp hp'
      exact absurd (hone hp hp') hne
  · decide
  · constructor
    · intro pid p tid hp hflower
      obtain ⟨_, rfl⟩ := user_bootSystem hp
      cases hflower
      exact Option.some_ne_none initThread
    · intro pid p t hp ht
      obtain ⟨_, rfl⟩ := user_bootSystem hp
      have hthread : some initThread = some t := ht
      cases hthread
      exact .inl (by decide)
    · intro pid pid' p p' t t' hne hp hp'
      exact absurd (hone hp hp') hne

def cloneByInit : CloneEvent := ⟨1, 0, bootCall 0⟩

/-- Once. -/
theorem memory_separate_iff_once :
    ∃ u, run cloneStep bootSystem [cloneByInit] = .ok ([2], u) ∧
      StacksDisjoint u ∧ HeapsDisjoint u ∧
        (MemorySeparate u ↔ [cloneByInit].length ≤ 1 ∧
          bootSystem.gHeapCount + [cloneByInit].length ≤ HEAP_COUNT_MAX) := by
  have houts : (run cloneStep bootSystem [cloneByInit]).toOption.map Prod.fst = some [2] := by
    decide +kernel
  cases hrun : run cloneStep bootSystem [cloneByInit] with
  | error e =>
      rw [hrun] at houts
      cases houts
  | ok r =>
      rw [hrun] at houts
      obtain ⟨outs, u⟩ := r
      obtain rfl : outs = [2] := Option.some.inj houts
      exact ⟨u, rfl, memory_separate_iff booted_bootSystem
        (guarded_outputs hrun (by decide)) hrun⟩

/-- Twice: the tables of the two children map the same frames. -/
theorem two_clones_overlap :
    ∃ u, run cloneStep bootSystem [cloneByInit, cloneByInit] = .ok ([2, 3], u) ∧
      Guarded cloneStep Succeeds bootSystem [cloneByInit, cloneByInit] ∧ ¬ MemorySeparate u := by
  have houts : (run cloneStep bootSystem [cloneByInit, cloneByInit]).toOption.map Prod.fst =
      some [2, 3] := by
    decide +kernel
  cases hrun : run cloneStep bootSystem [cloneByInit, cloneByInit] with
  | error e =>
      rw [hrun] at houts
      cases houts
  | ok r =>
      rw [hrun] at houts
      obtain ⟨outs, u⟩ := r
      obtain rfl : outs = [2, 3] := Option.some.inj houts
      have hsucceeds : Guarded cloneStep Succeeds bootSystem [cloneByInit, cloneByInit] :=
        guarded_outputs hrun (by decide)
      refine ⟨u, rfl, hsucceeds, ?_⟩
      obtain ⟨_, s₁, _, hstep, hrest, _⟩ := run_cons_ok hrun
      obtain ⟨_, _, _, hrest', hnil, _⟩ := run_cons_ok hrest
      cases hnil
      have hmaps := booted_bootSystem.maps
      obtain ⟨_, _, _, hcloned⟩ := cloneStep_cloned hmaps hsucceeds.1 hstep
      obtain ⟨_, _, _, hcloned'⟩ := cloneStep_cloned (hmaps.mono hcloned.tables)
        (hsucceeds.tail hstep).1 hrest'
      intro hseparate
      exact (overlap_second booted_bootSystem hcloned hcloned').not_imagesDisjoint hseparate.image

end Gramado.Ke.ProcessMemory
