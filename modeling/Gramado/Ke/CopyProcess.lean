import Gramado.Ke.Descriptors

/-! `copy_process00`: a process is created with the descriptors of its parent, a thread and an
image of its own. -/

namespace Gramado.Ke.CopyProcess

open Io.FileObject (ObjectType BUFSIZ)
open Ke.Descriptors Ke.ProcessTable
open Ke.Table (THREAD_COUNT_MAX)
open Mm.PagePool Mm.PageTables

def F_CLONE_UNIX_STYLE : Nat := 2
def F_CLONE_RETURN_TID : Nat := 4

def CONFIG_IMAGESIZE_LIMIT_IN_KB : Nat := 408
def CONFIG_RING3_STACK_SIZE_IN_KB : Nat := 64

def PAGEDPOOL_VA : Nat := 0x30600000
def HEAPPOOL_VA : Nat := 0x30800000
def EXTRAHEAP2_VA : Nat := 0x30C00000
def EXTRAHEAP3_VA : Nat := 0x30E00000
def FLOWERTHREAD_ENTRYPOINT : Nat := 0x00201000
def FLOWERTHREAD_STACK : Nat := 0x003FFFF0
def G_DEFAULT_PROCESSHEAP_SIZE : Nat := 32 * 1024

def USER_THRESHOLD_TID : Nat := 100
def PRIORITY_NORMAL_THRESHOLD : Nat := 1
def PRIORITY_SYSTEM_THRESHOLD : Nat := 4
def QUANTUM_NORMAL_THRESHOLD : Nat := 1
def QUANTUM_SYSTEM_THRESHOLD : Nat := 4
def QUANTUM_MIN : Nat := 1
def QUANTUM_MAX : Nat := 6

/-- A call, with what the allocators have room for and how the image file is loaded: room for the
process structure, its tty, the pages of the image and of the stack, the buffers of the two
connectors and the thread structure, then the results of `fs_load_image` and `fsCheckELFFile`. -/
structure CloneCall where
  filename : Option String
  pid : Int
  cloneFlags : Nat
  processRoom : Bool
  ttyRoom : Bool
  imageRoom : Nat → Bool
  imageConductor : Conductor
  stackRoom : Nat → Bool
  stackConductor : Conductor
  connector1Room : Bool
  connector2Room : Bool
  threadRoom : Bool
  loadStatus : Int
  elfStatus : Int

/-- The checks of the parent: the process and its flower thread, or none where the call fails. -/
def parentOf (s : System) (parentPid : Int) : Except String (Option (Process × Nat × Thread)) :=
  if parentPid < 0 ∨ PROCESS_COUNT_MAX ≤ parentPid then .ok none
  else
    match s.teList parentPid.toNat with
    | none => .ok none
    | some parent =>
        if ¬ parent.Valid then .ok none
        else if parent.cpl ≠ RING3 then .error "copy_process: cpl != RING3\n"
        else if parent.pml4Va = 0 then .ok none
        else if parent.pdpt0Va = 0 then .ok none
        else if parent.pd0Va = 0 then .ok none
        else
          match parent.flower with
          | none => .error "copy_process: parent_thread\n"
          | some tid =>
              match s.threadList tid with
              | none => .error "copy_process: parent_thread\n"
              | some thread =>
                  if thread.magic ≠ 1234 then .error "copy_process: parent_thread validation\n"
                  else if thread.cpl ≠ RING3 then .error "copy_process: parent_thread->cpl\n"
                  else .ok (some (parent, tid, thread))

def callerPanic (s : System) (parentPid : Int) (parent : Process) (thread : Thread) :
    Option String :=
  if thread.tgid ≠ parent.pid then some "copy_process: parent_thread->tgid\n"
  else if s.currentThread ≠ thread.tid then some "copy_process: current_thread mismatched\n"
  else if parentPid ≠ parent.pid then some "copy_process: parent_pid mismatched\n"
  else if parent.pid < 0 ∨ PROCESS_COUNT_MAX ≤ parent.pid then
    some "copy_process: parent_process->pid limits\n"
  else if s.currentPid ≠ parent.pid then
    some "copy_process: current_process != parent_process->pid\n"
  else none

/-- The process of `create_and_initialize_process_object`, with the heap slice `slice`. -/
def newProcess (pid slice : Nat) : Process where
  used := true
  magic := 1234
  pid := pid
  ppid := -1
  cpl := 0
  terminalConnection := ⟨0, 0, false, false⟩
  objects := fun _ => none
  flower := none
  pml4Va := 0
  pml4Pa := 0
  pdpt0Va := 0
  pdpt0Pa := 0
  pd0Va := 0
  pd0Pa := 0
  image := FLOWERTHREAD_BASE
  imagePa := 0
  childImage := 0
  childImagePa := 0
  childStack := 0
  childStackPa := 0
  heapStart := HEAPPOOL_VA + slice * G_DEFAULT_PROCESSHEAP_SIZE
  heapSize := G_DEFAULT_PROCESSHEAP_SIZE
  heapEnd := HEAPPOOL_VA + slice * G_DEFAULT_PROCESSHEAP_SIZE + G_DEFAULT_PROCESSHEAP_SIZE
  stackStart := FLOWERTHREAD_STACK
  stackSize := CONFIG_RING3_STACK_SIZE_IN_KB * 1024
  stackEnd := FLOWERTHREAD_STACK - CONFIG_RING3_STACK_SIZE_IN_KB * 1024

/-- The new process takes a place of `teList` and a slice of the heap pool. -/
def registerProcess (s : System) (pid : Nat) : System :=
  { s with
    gHeapCount := s.gHeapCount + 1
    processes := s.processes.set pid (newProcess pid s.gHeapCount) }

/-- `create_and_initialize_process_object`. The field of the flower thread that it sets is none
of this state: the pointer is `NULL` there. -/
def createAndInitializeProcessObject (s : System) (c : CloneCall) :
    Except String (Option Nat × System) :=
  if c.processRoom = false then .ok (none, s)
  else
    match getNewPID s with
    | none => .ok (none, s)
    | some pid =>
        if c.ttyRoom = false then .error "create_and_initialize_process_object: tty_create\n"
        else if s.gHeapCount = 0 then .error "create_and_initialize_process_object: g_heap_count\n"
        else .ok (some pid, registerProcess s pid)

def slabVa : Nat → Nat
  | 0 => EXTRAHEAP2_VA
  | 1 => EXTRAHEAP2_VA + 1024 * 1024
  | 2 => EXTRAHEAP3_VA
  | _ => EXTRAHEAP3_VA + 1024 * 1024

def takeBlock (s : System) (block : Nat) : System :=
  { s with
    newPagedPool := { s.newPagedPool with free := Function.update s.newPagedPool.free block false } }

def slab1MBAllocator (s : System) : Except String (Nat × System) :=
  if s.newPagedPool.initialized = false then .ok (0, s)
  else
    match currentProcess s with
    | none => .error "slab_1MB_allocator: process\n"
    | some _ =>
        match (List.range 4).find? s.newPagedPool.free with
        | none => .ok (0, s)
        | some block => .ok (slabVa block, takeBlock s block)

def pagePool (s : System) : Pool where
  pagedpoolVa := PAGEDPOOL_VA
  pageAllocList := s.pageAllocList
  virtualToPhysical va :=
    match virtualToPhysical s.paging.memory va KERNEL_PML4_PA with
    | .ok pa => pa
    | .error _ => 0

def mmAllocPages (s : System) (room : Nat → Bool) (conductor : Conductor) (size : Nat) :
    Except String (Nat × System) :=
  match allocPages (pagePool s) room conductor size with
  | .error e => .error e
  | .ok (va, pool) => .ok (va, { s with pageAllocList := pool.pageAllocList })

def allocImage (s : System) (c : CloneCall) : Except String (Nat × System) :=
  match slab1MBAllocator s with
  | .error e => .error e
  | .ok (base, s) =>
      if base = 0 then
        mmAllocPages s c.imageRoom c.imageConductor (CONFIG_IMAGESIZE_LIMIT_IN_KB * 1024 / 4096)
      else .ok (base, s)

def setBuffers (image imagePa stack stackPa : Nat) (parent : Process) : Process :=
  { parent with
    childImage := image
    childImagePa := imagePa
    childStack := stack
    childStackPa := stackPa }

def allocMemoryForImageAndStack (s : System) (c : CloneCall) (parentPid : Nat) (parent : Process) :
    Except String System :=
  match allocImage s c with
  | .error e => .error e
  | .ok (base, s) =>
  if base = 0 then .error "alloc_memory_for_image_and_stack: __new_base\n"
  else
  match mmAllocPages s c.stackRoom c.stackConductor (CONFIG_RING3_STACK_SIZE_IN_KB * 1024 / 4096) with
  | .error e => .error e
  | .ok (stack, s) =>
  if stack = 0 then .error "alloc_memory_for_image_and_stack: __new_stack\n"
  else
  match virtualToPhysical s.paging.memory base KERNEL_PML4_PA,
    virtualToPhysical s.paging.memory stack KERNEL_PML4_PA with
  | .ok basePa, .ok stackPa =>
      if basePa = 0 then .error "alloc_memory_for_image_and_stack: new_base_PA\n"
      else if stackPa = 0 then .error "copy_process: __alloc_memory_for_image_and_stack\n"
      else
        .ok (s.setProcess parentPid (setBuffers base basePa stack stackPa parent))
  | .error e, _ => .error e
  | _, .error e => .error e

/-- The loop of `copy_process_struct` over the descriptors. -/
def copyObjects (objects : Nat → Option Nat) : Nat → Process → List OpenFile →
    Process × List OpenFile
  | 0, child, files => (child, files)
  | n + 1, child, files =>
      let (child, files) := copyObjects objects n child files
      match objects n with
      | none => (child.setObject n none, files)
      | some fp => (child.setObject n (some fp), files.modify fp countUp)

def newStream (object : ObjectType) (f : OpenFile) : OpenFile :=
  { f with
    used := true
    magic := 1234
    object := object
    file := -1
    fdCounter := 1
    lbfsize := BUFSIZ }

/-- `new_file`: the first file structure of the table that no descriptor uses. -/
def newFile (s : System) (object : ObjectType) (room : Bool) : Except String (Nat × System) :=
  let isFree fp := (s.files[fp]?).any fun f => f.Valid ∧ f.fdCounter = 0
  match s.fileTable.find? isFree with
  | none => .error "new_file: slot"
  | some fp =>
      if room = false then .error "new_file: new_file->_base"
      else
        let isFreeInode i := i.used = true ∧ i.magic = 1234 ∧ i.filestructCounter = 0
        match s.inodes.findIdx? fun i => isFreeInode i with
        | none => .error "new_file: new_file inode slot\n"
        | some slot =>
            let inodes := s.inodes.modify slot fun i => { i with filestructCounter := 1 }
            .ok (fp, { s.modifyFile fp (newStream object) with inodes := inodes })

def placeConnectors (name : String) (p : Process) (fp1 fp2 : Nat) : Except String (Process) :=
  match freeSlot p 3 30 with
  | none => .error s!"copy_process_struct: No spot1 for {name}\n"
  | some spot1 =>
      let p := p.setObject spot1 (some fp1)
      match freeSlot p 3 30 with
      | none => .error s!"copy_process_struct: No spot2 for {name}\n"
      | some spot2 =>
          let connection := { p.terminalConnection with connector0 := spot1, connector1 := spot2 }
          .ok { p.setObject spot2 (some fp2) with terminalConnection := connection }

def setTerminal (isTerminal isChild : Bool) (p : Process) : Process :=
  { p with
    terminalConnection :=
      { p.terminalConnection with isTerminal := isTerminal, isChildOfTerminal := isChild } }

def createConnectors (s : System) (c : CloneCall) (parentPid childPid : Nat)
    (parent child : Process) : Except String System :=
  match newFile s .file c.connector1Room with
  | .error e => .error e
  | .ok (fp1, s) =>
  match newFile s .file c.connector2Room with
  | .error e => .error e
  | .ok (fp2, s) =>
  match placeConnectors "Process1" parent fp1 fp2 with
  | .error e => .error e
  | .ok parent =>
  match placeConnectors "Process2" child fp1 fp2 with
  | .error e => .error e
  | .ok child =>
      .ok ((s.setProcess parentPid (setTerminal true false parent)).setProcess childPid
        (setTerminal false true child))

def inherit (parent child : Process) : Process :=
  { child with
    ppid := parent.pid
    used := parent.used
    magic := parent.magic
    image := parent.childImage
    imagePa := parent.childImagePa
    childImage := 0
    childImagePa := 0
    cpl := parent.cpl }

def copyProcessStruct (s : System) (c : CloneCall) (parentPid childPid : Nat) :
    Except String System :=
  match validProcess s parentPid, validProcess s childPid with
  | some parent, some child =>
      let (child, files) := copyObjects parent.objects NUMBER_OF_FILES (inherit parent child) s.files
      let s := { s.setProcess childPid child with files := files }
      if parent.terminalConnection.isTerminal = true then
        createConnectors s c parentPid childPid parent child
      else .ok s
  | _, _ => .error "copy_process: [FAIL] copy_process_struct\n"

/-- The thread that `copy_thread_struct` makes of the father. -/
def cloneThread (father : Thread) (te : Nat) (process : Process) (tid : Nat) : Thread where
  used := true
  magic := 1234
  type := father.type
  te := te
  tgid := father.tgid
  tid := tid
  basePriority := father.basePriority
  priority := father.priority
  quantum := min (max father.quantum QUANTUM_MIN) QUANTUM_MAX
  state := .blocked
  newClone := false
  cpl := father.cpl
  rflagsInitialIopl := father.rflagsInitialIopl
  cs := father.cs % 2 ^ 16
  rip := father.rip
  rsp := father.rsp
  pml4Va := process.pml4Va
  pml4Pa := process.pml4Pa
  saved := father.saved

/-- The first free place of `threadList` for a user thread. -/
def freeThread (s : System) : Option Nat :=
  (List.range' USER_THRESHOLD_TID (THREAD_COUNT_MAX - USER_THRESHOLD_TID)).find? fun tid =>
    (s.threadList tid).isNone

def copyThreadStruct (s : System) (c : CloneCall) (father : Thread) :
    Except String (Nat × System) :=
  if father.magic ≠ 1234 then .error "copy_thread_struct: father validation\n"
  else if father.cpl ≠ RING3 then .error "copy_thread_struct: father_cpl!=RING3\n"
  else if father.tgid < 0 then .error "create_thread: [ERROR] pid\n"
  else if s.currentThread < 0 ∨ THREAD_COUNT_MAX ≤ s.currentThread then
    .error "copy_thread_struct: clone\n"
  else
    match validProcess s father.tgid.toNat with
    | none => .error "create_thread: Process\n"
    | some process =>
        if c.threadRoom = false then .error "create_thread: Thread\n"
        else
          match freeThread s with
          | none => .error "create_thread: [FAIL] No more slots\n"
          | some tid =>
              if THREAD_COUNT_MAX ≤ s.threadsCounter + 1 then
                .error "create_thread: [FAIL] UPProcessorBlock.threads_counter \n"
              else if father.rflagsInitialIopl ≠ 3 then
                .error "copy_thread_struct: clone rflags_initial_iopl\n"
              else if father.cs % 4 ≠ 3 then .error "copy_thread_struct: cpl\n"
              else
                let clone := cloneThread father father.tgid.toNat process tid
                .ok (tid, { s.setThread tid clone with threadsCounter := s.threadsCounter + 1 })

def setTables (parent : Process) (pml4Va pml4Pa : Nat) (child : Process) : Process :=
  { child with
    pml4Va := pml4Va
    pml4Pa := pml4Pa
    pdpt0Va := parent.pdpt0Va
    pdpt0Pa := parent.pdpt0Pa
    pd0Va := parent.pd0Va
    pd0Pa := parent.pd0Pa }

def placeImage (tid : Nat) (parent child : Process) : Process :=
  { child with
    flower := some tid
    image := parent.childImage
    imagePa := parent.childImagePa }

def setFlower (childPid stack : Nat) (child : Process) (thread : Thread) : Thread :=
  { thread with
    te := childPid
    tgid := childPid
    rip := FLOWERTHREAD_ENTRYPOINT
    rsp := stack + CONFIG_RING3_STACK_SIZE_IN_KB * 1024 - 1
    pml4Va := child.pml4Va
    pml4Pa := child.pml4Pa }

/-- What happens between the registration of the child and the loading of its image. -/
def prepareChild (s : System) (c : CloneCall) (parentPid parentTid childPid pml4Va : Nat) :
    Except String (Nat × System) :=
  if childPid = parentPid then .error "copy_process: child_pid == parent_pid\n"
  else if childPid = GRAMADO_PID_KERNEL then
    .error "copy_process: child_pid == GRAMADO_PID_KERNEL\n"
  else
  match virtualToPhysical s.paging.memory pml4Va KERNEL_PML4_PA with
  | .error e => .error e
  | .ok pml4Pa =>
  match s.teList parentPid, s.teList childPid, s.threadList parentTid with
  | some parent, some child, some father =>
      let s := s.setProcess childPid (setTables parent pml4Va pml4Pa child)
      match allocMemoryForImageAndStack s c parentPid parent with
      | .error e => .error e
      | .ok s =>
      match copyProcessStruct s c parentPid childPid with
      | .error e => .error e
      | .ok s =>
      match copyThreadStruct s c father with
      | .error e => .error e
      | .ok (tid, s) =>
      match s.teList parentPid, s.teList childPid, s.threadList tid with
      | some parent, some child, some thread =>
          if parent.childImage = 0 then .error "copy_process: [FAIL] child_process->Image\n"
          else if parent.childImagePa = 0 then .error "copy_process: [FAIL] child_process->ImagePA\n"
          else
            let child := placeImage tid parent child
            let thread := setFlower childPid parent.childStack child thread
            .ok (tid, (s.setProcess childPid child).setThread tid thread)
      | _, _, _ => .error "copy_process: [FAIL] copy_thread_struct\n"
  | _, _, _ => .error "copy_process: child_process validation\n"

def balance (system : Bool) (t : Thread) : Thread :=
  if system then
    { t with priority := PRIORITY_SYSTEM_THRESHOLD, quantum := QUANTUM_SYSTEM_THRESHOLD }
  else { t with priority := PRIORITY_NORMAL_THRESHOLD, quantum := QUANTUM_NORMAL_THRESHOLD }

def selectForExecution (t : Thread) : Thread :=
  { t with rip := FLOWERTHREAD_ENTRYPOINT, saved := false, newClone := true, state := .standby }

def setDirectories (dirs : Directories) (child : Process) : Process :=
  { child with
    pdpt0Va := dirs.pdpt0Va
    pdpt0Pa := dirs.pdpt0Pa
    pd0Va := dirs.pd0Va
    pd0Pa := dirs.pd0Pa
    image := FLOWERTHREAD_BASE }

def setPaging (s : System) (paging : Paging) : System := { s with paging := paging }

def startChild (s : System) (parentTid childPid childTid : Nat) : Except String System :=
  match s.teList childPid, s.threadList parentTid, s.threadList childTid with
  | some child, some father, some thread =>
      if child.pml4Va = 0 then .error "copy_process: [2nd time] child_process->pml4_VA\n"
      else if child.pdpt0Va = 0 then .error "copy_process: [2nd time] child_process->pdpt0_VA\n"
      else if child.pd0Va = 0 then .error "copy_process: [2nd time] child_process->pd0_VA\n"
      else
        match mapImage s.paging child.pml4Va child.imagePa with
        | .error e => .error e
        | .ok (dirs, paging) =>
            let system := father.type = .system ∨ thread.type = .system
            let s := setPaging s paging
            let s := s.setProcess childPid (setDirectories dirs child)
            let s := s.setThread parentTid (balance system father)
            .ok (s.setThread childTid (selectForExecution (balance system thread)))
  | _, _, _ => .error "copy_process: child_process validation\n"

def setRunning (t : Thread) : Thread := { t with state := .running }

def copyProcess00 (s : System) (c : CloneCall) : Except String (Int × System) :=
  match c.filename with
  | none => .error "copy_process: filename\n"
  | some filename =>
  if filename = "" then .error "copy_process: *filename\n"
  else if c.cloneFlags &&& F_CLONE_UNIX_STYLE ≠ 0 then .ok (-1, s)
  else
  match cloneKernelPML4 s.paging with
  | .error e => .error e
  | .ok (pml4Va, paging) =>
  let s := setPaging s paging
  match parentOf s c.pid with
  | .error e => .error e
  | .ok none => .ok (-1, s)
  | .ok (some (parent, parentTid, parentThread)) =>
  let s := s.setThread parentTid (setRunning parentThread)
  match callerPanic s c.pid parent parentThread with
  | some e => .error e
  | none =>
  match createAndInitializeProcessObject s c with
  | .error e => .error e
  | .ok (none, s) => .ok (-1, s)
  | .ok (some childPid, s) =>
  match prepareChild s c c.pid.toNat parentTid childPid pml4Va with
  | .error e => .error e
  | .ok (childTid, s) =>
  if c.loadStatus ≠ 0 then .ok (-1, s)
  else if c.elfStatus < 0 then .ok (-1, s)
  else
  match startChild s parentTid childPid childTid with
  | .error e => .error e
  | .ok s =>
      .ok (if c.cloneFlags &&& F_CLONE_RETURN_TID ≠ 0 then (childTid : Int) else childPid, s)

variable {s s' : System} {parent : Process}
  {tid size va base parentPid parentTid childPid childTid : Nat} {c : CloneCall} {room : Nat → Bool}
  {conductor : Conductor}

theorem parentOf_some {parentPid : Int} {thread : Thread}
    (h : parentOf s parentPid = .ok (some (parent, tid, thread))) :
    0 ≤ parentPid ∧ parentPid.toNat < PROCESS_COUNT_MAX ∧
      s.teList parentPid.toNat = some parent ∧ parent.Valid ∧ parent.flower = some tid ∧
        s.threadList tid = some thread ∧ parent.cpl = RING3 := by
  rw [parentOf] at h
  split at h
  · cases h
  rename_i hrange
  split at h
  · cases h
  rename_i p hp
  split at h
  · cases h
  rename_i hvalid
  split at h
  · cases h
  rename_i hcpl
  split at h
  · cases h
  split at h
  · cases h
  split at h
  · cases h
  split at h
  · cases h
  rename_i t hflower
  split at h
  · cases h
  rename_i th hthread
  split at h
  · cases h
  split at h
  · cases h
  cases h
  exact ⟨by omega, by omega, hp, not_not.mp hvalid, hflower, hthread, not_not.mp hcpl⟩

theorem createAndInitializeProcessObject_ok {found : Option Nat}
    (h : createAndInitializeProcessObject s c = .ok (found, s')) :
    found = none ∧ s' = s ∧ (c.processRoom = false ∨ getNewPID s = none) ∨
      ∃ pid, found = some pid ∧ c.processRoom = true ∧ getNewPID s = some pid ∧
        s' = registerProcess s pid := by
  rw [createAndInitializeProcessObject] at h
  split at h
  · rename_i hroom
    cases h
    exact .inl ⟨rfl, rfl, .inl hroom⟩
  rename_i hroom
  split at h
  · rename_i hpid
    cases h
    exact .inl ⟨rfl, rfl, .inr hpid⟩
  rename_i pid hpid
  split at h
  · cases h
  split at h
  · cases h
  cases h
  exact .inr ⟨pid, rfl, Bool.eq_true_of_not_eq_false hroom, hpid, rfl⟩

theorem mmAllocPages_ok (h : mmAllocPages s room conductor size = .ok (va, s')) :
    ∃ pool, allocPages (pagePool s) room conductor size = .ok (va, pool) ∧
      s' = { s with pageAllocList := pool.pageAllocList } := by
  rw [mmAllocPages] at h
  split at h
  · cases h
  rename_i va' pool hpool
  cases h
  exact ⟨pool, hpool, rfl⟩

def OnlyPools (s s' : System) : Prop :=
  ∃ slab list, s' = { s with newPagedPool := slab, pageAllocList := list }

theorem OnlyPools.trans {s'' : System} (h : OnlyPools s s') (h' : OnlyPools s' s'') :
    OnlyPools s s'' := by
  obtain ⟨_, _, rfl⟩ := h
  obtain ⟨slab, list, rfl⟩ := h'
  exact ⟨slab, list, rfl⟩

theorem onlyPools_mmAllocPages (h : mmAllocPages s room conductor size = .ok (va, s')) :
    OnlyPools s s' := by
  obtain ⟨pool, _, rfl⟩ := mmAllocPages_ok h
  exact ⟨s.newPagedPool, pool.pageAllocList, rfl⟩

theorem slabVa_ne_zero (block : Nat) : slabVa block ≠ 0 := by
  unfold slabVa
  split <;> decide

theorem allocImage_ok (h : allocImage s c = .ok (base, s')) :
    (∃ block, (List.range 4).find? s.newPagedPool.free = some block ∧ base = slabVa block ∧
        s' = takeBlock s block) ∨
      (s.newPagedPool.initialized = false ∨ (List.range 4).find? s.newPagedPool.free = none) ∧
        mmAllocPages s c.imageRoom c.imageConductor (CONFIG_IMAGESIZE_LIMIT_IN_KB * 1024 / 4096) =
          .ok (base, s') := by
  unfold allocImage at h
  split at h
  · cases h
  rename_i base' s₁ hslab
  unfold slab1MBAllocator at hslab
  split at hslab
  · rename_i hinitialized
    cases hslab
    rw [if_pos rfl] at h
    exact .inr ⟨.inl hinitialized, h⟩
  split at hslab
  · cases hslab
  split at hslab
  · rename_i hnone
    cases hslab
    rw [if_pos rfl] at h
    exact .inr ⟨.inr hnone, h⟩
  · rename_i block hblock
    obtain ⟨rfl, rfl⟩ := Prod.mk.inj (Except.ok.inj hslab)
    rw [if_neg (slabVa_ne_zero block)] at h
    obtain ⟨rfl, rfl⟩ := Prod.mk.inj (Except.ok.inj h)
    exact .inl ⟨block, hblock, rfl, rfl⟩

theorem onlyPools_allocImage (h : allocImage s c = .ok (base, s')) : OnlyPools s s' := by
  obtain ⟨block, _, _, rfl⟩ | ⟨_, hpages⟩ := allocImage_ok h
  · exact ⟨_, s.pageAllocList, rfl⟩
  · exact onlyPools_mmAllocPages hpages

theorem allocMemoryForImageAndStack_ok
    (h : allocMemoryForImageAndStack s c parentPid parent = .ok s') :
    ∃ base s₁ stack s₂ basePa stackPa, allocImage s c = .ok (base, s₁) ∧
      mmAllocPages s₁ c.stackRoom c.stackConductor (CONFIG_RING3_STACK_SIZE_IN_KB * 1024 / 4096) =
        .ok (stack, s₂) ∧
      virtualToPhysical s₂.paging.memory base KERNEL_PML4_PA = .ok basePa ∧
      s' = s₂.setProcess parentPid (setBuffers base basePa stack stackPa parent) := by
  unfold allocMemoryForImageAndStack at h
  split at h
  · cases h
  rename_i base s₁ himage
  split at h
  · cases h
  split at h
  · cases h
  rename_i stack s₂ hstack
  split at h
  · cases h
  split at h
  · rename_i basePa stackPa hbase _
    split at h
    · cases h
    split at h
    · cases h
    cases h
    exact ⟨base, s₁, stack, s₂, basePa, stackPa, himage, hstack, hbase, rfl⟩
  · cases h
  · cases h

theorem freeThread_some (h : freeThread s = some tid) : s.threadList tid = none := by
  have hnone : (s.threadList tid).isNone = true :=
    List.find?_some (p := fun tid => (s.threadList tid).isNone) h
  exact Option.isNone_iff_eq_none.mp hnone

theorem copyThreadStruct_ok {father : Thread} (h : copyThreadStruct s c father = .ok (tid, s')) :
    ∃ process, freeThread s = some tid ∧
      s' = { s.setThread tid (cloneThread father father.tgid.toNat process tid) with
        threadsCounter := s.threadsCounter + 1 } := by
  unfold copyThreadStruct at h
  split at h
  · cases h
  split at h
  · cases h
  split at h
  · cases h
  split at h
  · cases h
  split at h
  · cases h
  rename_i process hprocess
  split at h
  · cases h
  split at h
  · cases h
  rename_i tid' hfree
  split at h
  · cases h
  split at h
  · cases h
  split at h
  · cases h
  obtain ⟨rfl, rfl⟩ := Prod.mk.inj (Except.ok.inj h)
  exact ⟨process, hfree, rfl⟩

theorem startChild_ok (h : startChild s parentTid childPid childTid = .ok s') :
    ∃ child father thread dirs paging system, s.teList childPid = some child ∧
      s.threadList parentTid = some father ∧ s.threadList childTid = some thread ∧
      mapImage s.paging child.pml4Va child.imagePa = .ok (dirs, paging) ∧
      s' = (((setPaging s paging).setProcess childPid (setDirectories dirs child)).setThread
        parentTid (balance system father)).setThread childTid
          (selectForExecution (balance system thread)) := by
  unfold startChild at h
  split at h
  · rename_i child father thread hchild hfather hthread
    split at h
    · cases h
    split at h
    · cases h
    split at h
    · cases h
    split at h
    · cases h
    rename_i dirs paging hmap
    cases h
    exact ⟨child, father, thread, dirs, paging, _, hchild, hfather, hthread, hmap, rfl⟩
  · cases h

theorem prepareChild_ok {pml4Va : Nat}
    (h : prepareChild s c parentPid parentTid childPid pml4Va = .ok (childTid, s')) :
    ∃ pml4Pa parent child father s₁ s₂ s₃ parent' child' thread, childPid ≠ parentPid ∧
      virtualToPhysical s.paging.memory pml4Va KERNEL_PML4_PA = .ok pml4Pa ∧
      s.teList parentPid = some parent ∧ s.teList childPid = some child ∧
      s.threadList parentTid = some father ∧
      allocMemoryForImageAndStack (s.setProcess childPid (setTables parent pml4Va pml4Pa child)) c
        parentPid parent = .ok s₁ ∧
      copyProcessStruct s₁ c parentPid childPid = .ok s₂ ∧
      copyThreadStruct s₂ c father = .ok (childTid, s₃) ∧
      s₃.teList parentPid = some parent' ∧ s₃.teList childPid = some child' ∧
      s₃.threadList childTid = some thread ∧
      s' = (s₃.setProcess childPid (placeImage childTid parent' child')).setThread childTid
        (setFlower childPid parent'.childStack (placeImage childTid parent' child') thread) := by
  rw [prepareChild] at h
  split at h
  · cases h
  rename_i hne
  split at h
  · cases h
  split at h
  · cases h
  rename_i pml4Pa hpml4Pa
  split at h
  · rename_i parent child father hparent hchild hfather
    dsimp only at h
    split at h
    · cases h
    rename_i s₁ halloc
    split at h
    · cases h
    rename_i s₂ hcopy
    split at h
    · cases h
    rename_i tid s₃ hthread
    split at h
    · rename_i parent' child' thread hparent' hchild' hthread'
      split at h
      · cases h
      split at h
      · cases h
      obtain ⟨rfl, rfl⟩ := Prod.mk.inj (Except.ok.inj h)
      exact ⟨pml4Pa, parent, child, father, s₁, s₂, s₃, parent', child', thread, hne, hpml4Pa,
        hparent, hchild, hfather, halloc, hcopy, hthread, hparent', hchild', hthread', rfl⟩
    · cases h
  · cases h

/-- The state in which the child is created: the tables have a copy of the kernel's `pml4`, and
the thread of the caller is running. -/
def callerState (s : System) (paging : Paging) (tid : Nat) (thread : Thread) : System :=
  (setPaging s paging).setThread tid (setRunning thread)

inductive FailsEarly (s : System) (c : CloneCall) : System → Prop where
  | flags (h : c.cloneFlags &&& F_CLONE_UNIX_STYLE ≠ 0) : FailsEarly s c s
  | parent {pml4Va : Nat} {paging : Paging} (hflags : c.cloneFlags &&& F_CLONE_UNIX_STYLE = 0)
      (hpml4 : cloneKernelPML4 s.paging = .ok (pml4Va, paging))
      (h : parentOf (setPaging s paging) c.pid = .ok none) : FailsEarly s c (setPaging s paging)
  | object {pml4Va : Nat} {paging : Paging} {parent : Process} {tid : Nat} {thread : Thread}
      (hflags : c.cloneFlags &&& F_CLONE_UNIX_STYLE = 0)
      (hpml4 : cloneKernelPML4 s.paging = .ok (pml4Va, paging))
      (hparent : parentOf (setPaging s paging) c.pid = .ok (some (parent, tid, thread)))
      (h : c.processRoom = false ∨ getNewPID s = none) :
      FailsEarly s c (callerState s paging tid thread)

/-- A call that has created and prepared a child, up to the loading of the image. -/
structure Creates (s : System) (c : CloneCall) (parentTid childPid childTid : Nat) (s' : System) :
    Prop where
  flags : c.cloneFlags &&& F_CLONE_UNIX_STYLE = 0
  room : c.processRoom = true
  newPid : getNewPID s = some childPid
  steps : ∃ pml4Va paging parent thread,
    cloneKernelPML4 s.paging = .ok (pml4Va, paging) ∧
    parentOf (setPaging s paging) c.pid = .ok (some (parent, parentTid, thread)) ∧
    callerPanic (callerState s paging parentTid thread) c.pid parent thread = none ∧
    prepareChild (registerProcess (callerState s paging parentTid thread) childPid) c c.pid.toNat
      parentTid childPid pml4Va = .ok (childTid, s')

theorem copyProcess00_ok {result : Int} (h : copyProcess00 s c = .ok (result, s')) :
    FailsEarly s c s' ∧ result = -1 ∨ ∃ parentTid childPid childTid,
        Creates s c parentTid childPid childTid s' ∧ result = -1 ∧
            (c.loadStatus ≠ 0 ∨ c.elfStatus < 0) ∨
          ∃ s₁, Creates s c parentTid childPid childTid s₁ ∧ 0 ≤ result ∧
            c.loadStatus = 0 ∧ 0 ≤ c.elfStatus ∧
              startChild s₁ parentTid childPid childTid = .ok s' := by
  rw [copyProcess00] at h
  split at h
  · cases h
  rename_i filename hfilename
  split at h
  · cases h
  split at h
  · rename_i hflags
    cases h
    exact .inl ⟨.flags hflags, rfl⟩
  rename_i hflags
  rw [not_not] at hflags
  split at h
  · cases h
  rename_i pml4Va paging hpml4
  dsimp only at h
  split at h
  · cases h
  · rename_i hparent
    cases h
    exact .inl ⟨.parent hflags hpml4 hparent, rfl⟩
  rename_i parent parentTid thread hparent
  split at h
  · cases h
  rename_i hcaller
  split at h
  · cases h
  · rename_i s₁ hcreate
    obtain ⟨_, rfl, hroom⟩ | ⟨_, hpid, _⟩ := createAndInitializeProcessObject_ok hcreate
    · cases h
      exact .inl ⟨.object hflags hpml4 hparent hroom, rfl⟩
    · cases hpid
  rename_i childPid s₁ hcreate
  obtain ⟨hpid, _⟩ | ⟨pid, hpid, hroom, hnew, rfl⟩ := createAndInitializeProcessObject_ok hcreate
  · cases hpid
  cases hpid
  split at h
  · cases h
  rename_i childTid s₂ hprepare
  have hcreates : Creates s c parentTid childPid childTid s₂ :=
    ⟨hflags, hroom, hnew, pml4Va, paging, parent, thread, hpml4, hparent, hcaller, hprepare⟩
  refine .inr ⟨parentTid, childPid, childTid, ?_⟩
  split at h
  · rename_i hload
    cases h
    exact .inl ⟨hcreates, rfl, .inl hload⟩
  rename_i hload
  split at h
  · rename_i helf
    cases h
    exact .inl ⟨hcreates, rfl, .inr helf⟩
  rename_i helf
  split at h
  · cases h
  rename_i s₃ hstart
  obtain ⟨rfl, rfl⟩ := Prod.mk.inj (Except.ok.inj h)
  refine .inr ⟨s₂, hcreates, ?_, not_not.mp hload, by omega, hstart⟩
  split <;> exact Int.natCast_nonneg _

def kernelProcess : Process :=
  { newProcess GRAMADO_PID_KERNEL 0 with
    pml4Va := KERNEL_PML4_PA
    pml4Pa := KERNEL_PML4_PA
    pdpt0Va := KERNEL_PDPT_PA
    pdpt0Pa := KERNEL_PDPT_PA
    pd0Va := KERNEL_PD_PA
    pd0Pa := KERNEL_PD_PA }

def initProcess : Process :=
  { newProcess 1 1 with
    cpl := RING3
    flower := some 0
    pml4Va := 0x2000
    pml4Pa := 0x2000
    pdpt0Va := KERNEL_PDPT_PA
    pdpt0Pa := KERNEL_PDPT_PA
    pd0Va := KERNEL_PD_PA
    pd0Pa := KERNEL_PD_PA
    imagePa := FLOWERTHREAD_BASE }

def initThread : Thread where
  used := true
  magic := 1234
  type := .system
  te := 1
  tgid := 1
  tid := 0
  basePriority := PRIORITY_SYSTEM_THRESHOLD
  priority := PRIORITY_SYSTEM_THRESHOLD
  quantum := QUANTUM_SYSTEM_THRESHOLD
  state := .running
  newClone := false
  cpl := RING3
  rflagsInitialIopl := 3
  cs := 0x1B
  rip := FLOWERTHREAD_ENTRYPOINT
  rsp := FLOWERTHREAD_STACK
  pml4Va := 0x2000
  pml4Pa := 0x2000
  saved := false

def bootProcesses : ProcessList where
  teList
    | 0 => some kernelProcess
    | 1 => some initProcess
    | _ => none
  lt_max := by
    intro pid p h
    split at h
    · decide
    · decide
    · cases h

def bootSystem : System where
  processes := bootProcesses
  files := []
  sockets := fun _ => ⟨false, 0⟩
  fileTable := []
  inodes := []
  currentPid := 1
  currentThread := 0
  threadList := Function.update (fun _ => none) 0 (some initThread)
  threadsCounter := 1
  gHeapCount := 2
  newPagedPool := ⟨true, fun _ => true⟩
  pageAllocList := Function.update (fun _ => none) 0 (some (newPage 0))
  paging := bootPaging

/-- A call of the first process for which there is room, with the result of the loading. -/
def bootCall (loadStatus : Int) : CloneCall where
  filename := some "SHELL.BIN"
  pid := 1
  cloneFlags := 0
  processRoom := true
  ttyRoom := true
  imageRoom := fun _ => true
  imageConductor := .elsewhere
  stackRoom := fun _ => true
  stackConductor := .elsewhere
  connector1Room := true
  connector2Room := true
  threadRoom := true
  loadStatus := loadStatus
  elfStatus := 0

end Gramado.Ke.CopyProcess
