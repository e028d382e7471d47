import Gramado.Ke.CopyProcess

/-! `sys_pipe` with the buffer and the pipe information that the two ends share, and what it
leaves behind when an allocation fails. -/

namespace Gramado.Ke.PipeCreation

open Io.FileObject (BUFSIZ)
open Ke.ProcessTable
open Ke.Descriptors (currentProcess storeObject pipeFile)

/-- The fields of `struct file_d` that a pipe sets besides those of `OpenFile`. The buffer and
the pipe information are addresses. -/
structure PipeStream where
  base : Nat
  p : Nat
  lbfsize : Int
  fsize : Int
  cnt : Int
  r : Int
  w : Int
  canRead : Bool
  canWrite : Bool
  pipeInfo : Option Nat

/-- `struct pipe_info_d`. -/
structure PipeInfo where
  base : Nat
  bufferSize : Nat
  counter : Int
  readPos : Nat
  writePos : Nat

/-- The kernel state with the streams of the files and the pipe information by address. -/
structure Kernel where
  system : System
  streams : Nat → PipeStream
  infos : Nat → PipeInfo

/-- The blocks that `kmalloc` gives to `sys_pipe`, or none where it fails: the addresses of the
buffer and of the pipe information, and what the memory of the file structures contains. -/
structure PipeBlocks where
  buffer : Option Nat
  first : Option (OpenFile × PipeStream)
  second : Option (OpenFile × PipeStream)
  info : Option Nat

def pipeStream (memory : PipeStream) (shBuff : Nat) : PipeStream :=
  { memory with
    base := shBuff
    p := shBuff
    lbfsize := BUFSIZ
    fsize := 0
    cnt := BUFSIZ
    r := 0
    w := 0
    canRead := true
    canWrite := true }

def clearSlots (k : Kernel) (p : Process) (slot1 slot2 : Nat) : Kernel :=
  { k with system := storeObject k.system (p.setObject slot1 none) slot2 none }

def installEnds (k : Kernel) (p : Process) (slot1 slot2 shBuff : Nat)
    (m1 m2 : OpenFile × PipeStream) : Kernel :=
  let f1 := k.system.files.length
  let f2 := k.system.files.length + 1
  let system := { k.system with
    files := k.system.files ++ [pipeFile m1.1 slot1, pipeFile m2.1 slot2] }
  { k with
    system := storeObject system (p.setObject slot1 (some f1)) slot2 (some f2)
    streams := Function.update (Function.update k.streams f1 (pipeStream m1.2 shBuff)) f2
      (pipeStream m2.2 shBuff) }

/-- Both ends get the pipe information at the address `pi`. -/
def shareInfo (k : Kernel) (f1 f2 shBuff pi : Nat) : Kernel :=
  { k with
    streams := Function.update
      (Function.update k.streams f1 { k.streams f1 with pipeInfo := some pi }) f2
      { k.streams f2 with pipeInfo := some pi }
    infos := Function.update k.infos pi
      { base := shBuff, bufferSize := BUFSIZ, counter := 0, readPos := 0, writePos := 0 } }

/-- The result, the caller's pair of descriptors and the state after the call. -/
structure PipeOutcome where
  result : Int
  pipefd : Int × Int
  kernel : Kernel

def sysPipe (k : Kernel) (pipefd : Int × Int) (memory : PipeBlocks) : PipeOutcome :=
  match currentProcess k.system with
  | none => ⟨-1, pipefd, k⟩
  | some p =>
      match freeSlot p 3 NUMBER_OF_FILES with
      | none => ⟨-1, pipefd, k⟩
      | some slot1 =>
          match freeSlot p (slot1 + 1) NUMBER_OF_FILES with
          | none => ⟨-1, pipefd, k⟩
          | some slot2 =>
              match memory.buffer with
              | none => ⟨-1, pipefd, clearSlots k p slot1 slot2⟩
              | some shBuff =>
                  match memory.first, memory.second with
                  | some m1, some m2 =>
                      let f1 := k.system.files.length
                      let f2 := k.system.files.length + 1
                      let k := installEnds k p slot1 slot2 shBuff m1 m2
                      match memory.info with
                      | none => ⟨-1, (slot1, slot2), k⟩
                      | some pi => ⟨0, (slot1, slot2), shareInfo k f1 f2 shBuff pi⟩
                  | _, _ => ⟨-1, pipefd, clearSlots k p slot1 slot2⟩

def PipeBlocks.memory (m : PipeBlocks) : Descriptors.PipeMemory where
  buffer := m.buffer.isSome
  first := m.first.map Prod.fst
  second := m.second.map Prod.fst
  info := m.info.isSome

/-- A file is the end of a pipe: its descriptor refers to it and has counted the reference. -/
structure IsEnd (k : Kernel) (fd f shBuff pi : Nat) : Prop where
  file : ∃ m : OpenFile, k.system.files[f]? = some (pipeFile m fd) ∧ m.fdCounter = 1
  base : (k.streams f).base = shBuff
  pipeInfo : (k.streams f).pipeInfo = some pi

/-- Two empty slots have become the read end and the write end of one pipe. -/
structure Connects (k k' : Kernel) (pipefd : Int × Int) (p : Process)
    (slot1 slot2 f1 f2 shBuff pi : Nat) : Prop where
  process : currentProcess k.system = some p
  distinct : slot1 ≠ slot2
  inTable : slot1 < NUMBER_OF_FILES ∧ slot2 < NUMBER_OF_FILES
  empty : p.objects slot1 = none ∧ p.objects slot2 = none
  pipefd : pipefd = (↑slot1, ↑slot2)
  table : k'.system.teList = Function.update k.system.teList k.system.currentPid.toNat
    (some ((p.setObject slot1 (some f1)).setObject slot2 (some f2)))
  readEnd : IsEnd k' slot1 f1 shBuff pi
  canRead : (k'.streams f1).canRead = true
  writeEnd : IsEnd k' slot2 f2 shBuff pi
  canWrite : (k'.streams f2).canWrite = true
  buffer : (k'.infos pi).base = shBuff ∧ (k'.infos pi).bufferSize = BUFSIZ

/-- A call that fails leaves the descriptors and the caller's pair alone; one that succeeds has
connected two slots. -/
def Atomic (k : Kernel) (pipefd : Int × Int) (o : PipeOutcome) : Prop :=
  (o.result = 0 ∧ ∃ p slot1 slot2 f1 f2 shBuff pi,
      Connects k o.kernel o.pipefd p slot1 slot2 f1 f2 shBuff pi) ∨
    (o.result = -1 ∧ o.pipefd = pipefd ∧ o.kernel.system.teList = k.system.teList)

/-- The files of the pipe are installed with these blocks. -/
structure Installs (k : Kernel) (memory : PipeBlocks) (p : Process) (slot1 slot2 shBuff : Nat)
    (m1 m2 : OpenFile × PipeStream) : Prop where
  process : currentProcess k.system = some p
  free1 : freeSlot p 3 NUMBER_OF_FILES = some slot1
  free2 : freeSlot p (slot1 + 1) NUMBER_OF_FILES = some slot2
  buffer : memory.buffer = some shBuff
  first : memory.first = some m1
  second : memory.second = some m2

/-- The call fails before it installs the ends, or else the last allocation succeeds and the
memory of both file structures happens to hold a counter of one. -/
def CountsOrFailsEarly (k : Kernel) (memory : PipeBlocks) : Prop :=
  ∀ p slot1 slot2 shBuff m1 m2, Installs k memory p slot1 slot2 shBuff m1 m2 →
    memory.info.isSome = true ∧ m1.1.fdCounter = 1 ∧ m2.1.fdCounter = 1

variable {s : System} {p q : Process} {k : Kernel} {slot1 slot2 shBuff : Nat} {memory : PipeBlocks}
  {m1 m2 : OpenFile × PipeStream}

theorem currentProcess_some (h : currentProcess s = some p) :
    s.teList s.currentPid.toNat = some p := by
  rw [currentProcess] at h
  split at h
  · cases h
  · exact (validProcess_some h).1

theorem storeObject_teList (fd : Nat) (fp : Option Nat) (h : s.teList s.currentPid.toNat = some q) :
    (storeObject s p fd fp).teList =
      Function.update s.teList s.currentPid.toNat (some (p.setObject fd fp)) :=
  s.processes.set_teList _ (s.processes.lt_max _ q h)

theorem setObject_objects (p : Process) (fd : Nat) (fp : Option Nat) :
    (p.setObject fd fp).objects = Function.update p.objects fd fp :=
  rfl

theorem setObject_of_empty {fd : Nat} (h : p.objects fd = none) : p.setObject fd none = p := by
  rw [Process.setObject, Function.update_eq_self_iff.mpr h.symm]

theorem set_self {T : ProcessList} {pid : Nat} (h : T.teList pid = some p) : T.set pid p = T := by
  have hlist := (T.set_teList p (T.lt_max pid p h)).trans (Function.update_eq_self_iff.mpr h.symm)
  rcases hset : T.set pid p with ⟨list, hlt⟩
  rcases T with ⟨list', hlt'⟩
  rw [hset] at hlist
  obtain rfl : list = list' := hlist
  rfl

theorem clearSlots_self (hp : currentProcess k.system = some p) (h1 : p.objects slot1 = none)
    (h2 : p.objects slot2 = none) : clearSlots k p slot1 slot2 = k := by
  have hset : storeObject k.system p slot2 none = k.system := by
    rw [storeObject, setObject_of_empty h2, System.setProcess, set_self (currentProcess_some hp)]
  rw [clearSlots, setObject_of_empty h1, hset]

theorem sysPipe_view (k : Kernel) (pipefd : Int × Int) (memory : PipeBlocks) :
    (sysPipe k pipefd memory).result = (Descriptors.sysPipe k.system memory.memory).1.result ∧
      (sysPipe k pipefd memory).kernel.system = (Descriptors.sysPipe k.system memory.memory).2 := by
  rcases memory with ⟨buffer, first, second, info⟩
  unfold sysPipe Descriptors.sysPipe
  cases hp : currentProcess k.system with
  | none => exact ⟨rfl, rfl⟩
  | some p =>
      dsimp only
      cases hslot1 : freeSlot p 3 NUMBER_OF_FILES with
      | none => exact ⟨rfl, rfl⟩
      | some slot1 =>
          dsimp only
          cases hslot2 : freeSlot p (slot1 + 1) NUMBER_OF_FILES with
          | none => exact ⟨rfl, rfl⟩
          | some slot2 =>
              have hclear := clearSlots_self hp (freeSlot_some hslot1).1 (freeSlot_some hslot2).1
              dsimp only
              rw [hclear]
              rcases buffer with _ | shBuff
              · exact ⟨rfl, rfl⟩
              · rcases first with _ | m1
                · exact ⟨rfl, rfl⟩
                · rcases second with _ | m2
                  · exact ⟨rfl, rfl⟩
                  · rcases info with _ | pi
                    · exact ⟨rfl, rfl⟩
                    · exact ⟨rfl, rfl⟩

def installed (k : Kernel) (memory : PipeBlocks) (p : Process) (slot1 slot2 shBuff : Nat)
    (m1 m2 : OpenFile × PipeStream) : PipeOutcome :=
  match memory.info with
  | none => ⟨-1, (slot1, slot2), installEnds k p slot1 slot2 shBuff m1 m2⟩
  | some pi =>
      ⟨0, (slot1, slot2), shareInfo (installEnds k p slot1 slot2 shBuff m1 m2)
        k.system.files.length (k.system.files.length + 1) shBuff pi⟩

theorem sysPipe_installs (h : Installs k memory p slot1 slot2 shBuff m1 m2) (pipefd : Int × Int) :
    sysPipe k pipefd memory = installed k memory p slot1 slot2 shBuff m1 m2 := by
  rw [sysPipe, h.process]
  dsimp only
  rw [h.free1]
  dsimp only
  rw [h.free2]
  dsimp only
  rw [h.buffer, h.first, h.second]
  rfl

theorem sysPipe_early (pipefd : Int × Int)
    (h : ∀ p slot1 slot2 shBuff m1 m2, ¬ Installs k memory p slot1 slot2 shBuff m1 m2) :
    (sysPipe k pipefd memory).result = -1 ∧ (sysPipe k pipefd memory).pipefd = pipefd ∧
      (sysPipe k pipefd memory).kernel.system.teList = k.system.teList := by
  unfold sysPipe
  split
  · exact ⟨rfl, rfl, rfl⟩
  rename_i p hp
  split
  · exact ⟨rfl, rfl, rfl⟩
  rename_i slot1 hslot1
  split
  · exact ⟨rfl, rfl, rfl⟩
  rename_i slot2 hslot2
  have hclear := clearSlots_self hp (freeSlot_some hslot1).1 (freeSlot_some hslot2).1
  split
  · exact ⟨rfl, rfl, by rw [hclear]⟩
  rename_i shBuff hbuffer
  split
  · rename_i m1 m2 hfirst hsecond
    exact absurd ⟨hp, hslot1, hslot2, hbuffer, hfirst, hsecond⟩ (h p slot1 slot2 shBuff m1 m2)
  · exact ⟨rfl, rfl, by rw [hclear]⟩

section Installed

variable {k : Kernel} {memory : PipeBlocks} {p : Process} {slot1 slot2 shBuff : Nat}
  {m1 m2 : OpenFile × PipeStream}

theorem installEnds_teList (h : Installs k memory p slot1 slot2 shBuff m1 m2) :
    (installEnds k p slot1 slot2 shBuff m1 m2).system.teList =
      Function.update k.system.teList k.system.currentPid.toNat
        (some ((p.setObject slot1 (some k.system.files.length)).setObject slot2
          (some (k.system.files.length + 1)))) :=
  storeObject_teList (s := { k.system with
    files := k.system.files ++ [pipeFile m1.1 slot1, pipeFile m2.1 slot2] }) _ _
    (currentProcess_some h.process)

theorem installEnds_ne (h : Installs k memory p slot1 slot2 shBuff m1 m2) :
    (installEnds k p slot1 slot2 shBuff m1 m2).system.teList ≠ k.system.teList := by
  intro heq
  have hbefore := currentProcess_some h.process
  rw [← heq, installEnds_teList h, Function.update_self, Option.some_inj] at hbefore
  have hempty := (freeSlot_some h.free2).1
  rw [← hbefore, setObject_objects, Function.update_self] at hempty
  cases hempty

theorem installEnds_files (k : Kernel) (p : Process) (slot1 slot2 shBuff : Nat)
    (m1 m2 : OpenFile × PipeStream) :
    (installEnds k p slot1 slot2 shBuff m1 m2).system.files[k.system.files.length]? =
        some (pipeFile m1.1 slot1) ∧
      (installEnds k p slot1 slot2 shBuff m1 m2).system.files[k.system.files.length + 1]? =
        some (pipeFile m2.1 slot2) := by
  change (k.system.files ++ [pipeFile m1.1 slot1, pipeFile m2.1 slot2])[_]? = _ ∧
    (k.system.files ++ [pipeFile m1.1 slot1, pipeFile m2.1 slot2])[_]? = _
  rw [List.getElem?_append_right (Nat.le_refl _), List.getElem?_append_right (Nat.le_add_right _ _),
    Nat.sub_self, Nat.add_sub_cancel_left]
  exact ⟨rfl, rfl⟩

theorem installs_connects (h : Installs k memory p slot1 slot2 shBuff m1 m2) (pi : Nat)
    (h1 : m1.1.fdCounter = 1) (h2 : m2.1.fdCounter = 1) :
    Connects k (shareInfo (installEnds k p slot1 slot2 shBuff m1 m2) k.system.files.length
      (k.system.files.length + 1) shBuff pi) (slot1, slot2) p slot1 slot2 k.system.files.length
        (k.system.files.length + 1) shBuff pi := by
  obtain ⟨hempty1, _, hlt1⟩ := freeSlot_some h.free1
  obtain ⟨hempty2, hle2, hlt2⟩ := freeSlot_some h.free2
  obtain ⟨hfile1, hfile2⟩ := installEnds_files k p slot1 slot2 shBuff m1 m2
  refine ⟨h.process, by omega, ⟨hlt1, hlt2⟩, ⟨hempty1, hempty2⟩, rfl, installEnds_teList h,
    ⟨⟨m1.1, hfile1, h1⟩, ?_, ?_⟩, ?_, ⟨⟨m2.1, hfile2, h2⟩, ?_, ?_⟩, ?_, ?_⟩
  all_goals simp [shareInfo, installEnds, pipeStream]

theorem connects_counters (h : Installs k memory p slot1 slot2 shBuff m1 m2) {pi : Nat}
    {slot1' slot2' f1 f2 shBuff' pi' : Nat}
    (hc : Connects k (shareInfo (installEnds k p slot1 slot2 shBuff m1 m2) k.system.files.length
      (k.system.files.length + 1) shBuff pi) (slot1, slot2) q slot1' slot2' f1 f2 shBuff' pi') :
    m1.1.fdCounter = 1 ∧ m2.1.fdCounter = 1 := by
  obtain rfl := Option.some.inj (h.process.symm.trans hc.process)
  obtain ⟨hslot1, hslot2⟩ := Prod.mk.inj hc.pipefd
  obtain rfl := Int.ofNat_inj.mp hslot1
  obtain rfl := Int.ofNat_inj.mp hslot2
  have htable := congrFun ((installEnds_teList h).symm.trans hc.table)
    k.system.currentPid.toNat
  rw [Function.update_self, Function.update_self, Option.some_inj] at htable
  have hobjects := congrArg Process.objects htable
  simp only [setObject_objects] at hobjects
  have hsecond := congrFun hobjects slot2
  rw [Function.update_self, Function.update_self, Option.some_inj] at hsecond
  have hfirst := congrFun hobjects slot1
  rw [Function.update_of_ne hc.distinct, Function.update_of_ne hc.distinct, Function.update_self,
    Function.update_self, Option.some_inj] at hfirst
  obtain ⟨hfile1, hfile2⟩ := installEnds_files k p slot1 slot2 shBuff m1 m2
  obtain ⟨n1, hend1, h1⟩ := hc.readEnd.file
  obtain ⟨n2, hend2, h2⟩ := hc.writeEnd.file
  rw [← hfirst] at hend1
  rw [← hsecond] at hend2
  have hcounter1 := congrArg OpenFile.fdCounter (Option.some.inj (hfile1.symm.trans hend1))
  have hcounter2 := congrArg OpenFile.fdCounter (Option.some.inj (hfile2.symm.trans hend2))
  exact ⟨Eq.trans hcounter1 h1, Eq.trans hcounter2 h2⟩

theorem atomic_iff_of_installs (h : Installs k memory p slot1 slot2 shBuff m1 m2)
    (pipefd : Int × Int) : Atomic k pipefd (sysPipe k pipefd memory) ↔
      memory.info.isSome = true ∧ m1.1.fdCounter = 1 ∧ m2.1.fdCounter = 1 := by
  rw [sysPipe_installs h, installed]
  cases hinfo : memory.info with
  | none =>
      refine iff_of_false ?_ (by simp)
      rintro (⟨hzero, _⟩ | ⟨_, _, hsame⟩)
      · exact absurd (show (-1 : Int) = 0 from hzero) (by decide)
      · exact installEnds_ne h hsame
  | some pi =>
      constructor
      · rintro (⟨_, q, slot1', slot2', f1, f2, shBuff', pi', hc⟩ | ⟨hfail, _⟩)
        · exact ⟨rfl, connects_counters h hc⟩
        · exact absurd (show (0 : Int) = -1 from hfail) (by decide)
      · rintro ⟨_, h1, h2⟩
        exact .inl ⟨rfl, _, _, _, _, _, _, _, installs_connects h pi h1 h2⟩

end Installed

theorem countsOrFailsEarly_iff (h : Installs k memory p slot1 slot2 shBuff m1 m2) :
    CountsOrFailsEarly k memory ↔
      memory.info.isSome = true ∧ m1.1.fdCounter = 1 ∧ m2.1.fdCounter = 1 := by
  constructor
  · intro hall
    exact hall p slot1 slot2 shBuff m1 m2 h
  · intro hcounts p' slot1' slot2' shBuff' m1' m2' h'
    obtain rfl := Option.some.inj (h.first.symm.trans h'.first)
    obtain rfl := Option.some.inj (h.second.symm.trans h'.second)
    exact hcounts

/-- The call is atomic exactly if it fails before it installs the ends, or all allocations
succeed on memory that holds counters of one. -/
theorem sysPipe_atomic_iff (k : Kernel) (pipefd : Int × Int) (memory : PipeBlocks) :
    Atomic k pipefd (sysPipe k pipefd memory) ↔ CountsOrFailsEarly k memory := by
  by_cases hinstalls : ∃ p slot1 slot2 shBuff m1 m2, Installs k memory p slot1 slot2 shBuff m1 m2
  · obtain ⟨p, slot1, slot2, shBuff, m1, m2, h⟩ := hinstalls
    rw [atomic_iff_of_installs h, countsOrFailsEarly_iff h]
  · have hnone : ∀ p slot1 slot2 shBuff m1 m2, ¬ Installs k memory p slot1 slot2 shBuff m1 m2 :=
      fun p slot1 slot2 shBuff m1 m2 h => hinstalls ⟨p, slot1, slot2, shBuff, m1, m2, h⟩
    refine iff_of_true (.inr (sysPipe_early pipefd hnone)) ?_
    intro p slot1 slot2 shBuff m1 m2 h
    exact absurd h (hnone p slot1 slot2 shBuff m1 m2)

def clearedFile : OpenFile × PipeStream :=
  (⟨false, 0, .null, false, 0, 0, 0, none⟩, ⟨0, 0, 0, 0, 0, 0, 0, false, false, none⟩)

def bootKernel : Kernel where
  system := CopyProcess.bootSystem
  streams _ := clearedFile.2
  infos _ := ⟨0, 0, 0, 0, 0⟩

def clearedBlocks (info : Option Nat) : PipeBlocks where
  buffer := some 0x1000
  first := some clearedFile
  second := some clearedFile
  info := info

theorem installs_clearedBlocks (info : Option Nat) :
    Installs bootKernel (clearedBlocks info) CopyProcess.initProcess 3 4 0x1000 clearedFile
      clearedFile :=
  ⟨rfl, rfl, rfl, rfl, rfl, rfl⟩

theorem pipe_left_behind (info : Option Nat) :
    ¬ Atomic bootKernel (0, 0) (sysPipe bootKernel (0, 0) (clearedBlocks info)) := by
  rw [atomic_iff_of_installs (installs_clearedBlocks info)]
  rintro ⟨_, hcounter, _⟩
  exact absurd hcounter (by decide)

/-- The last allocation fails, or none does. -/
theorem pipe_not_atomic :
    ((sysPipe bootKernel (0, 0) (clearedBlocks none)).result = -1 ∧
        ¬ Atomic bootKernel (0, 0) (sysPipe bootKernel (0, 0) (clearedBlocks none))) ∧
      (sysPipe bootKernel (0, 0) (clearedBlocks (some 0x2000))).result = 0 ∧
        ¬ Atomic bootKernel (0, 0) (sysPipe bootKernel (0, 0) (clearedBlocks (some 0x2000))) :=
  ⟨⟨rfl, pipe_left_behind none⟩, rfl, pipe_left_behind (some 0x2000)⟩

end Gramado.Ke.PipeCreation
