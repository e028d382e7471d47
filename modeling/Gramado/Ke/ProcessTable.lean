import Gramado.Io.FileObject
import Gramado.Ke.Table
import Gramado.Mm.PagePool
import Gramado.Mm.PageTables

/-! The processes, the files that their descriptors refer to, and the part of the kernel state
that the cloning of a process changes. -/

namespace Gramado.Ke.ProcessTable

open Io.FileObject
open Ke.Table (ThreadState)
open Mm.PagePool Mm.PageTables

def NUMBER_OF_FILES : Nat := 32
def PROCESS_COUNT_MAX : Nat := 1024
def GRAMADO_PID_KERNEL : Nat := 0
def RING3 : Nat := 3
def EFAULT : Int := 14
def EMFILE : Int := 24

/-- The fields of `struct file_d` that the descriptors and their reference counts concern. The
field `socket` is the number of the socket of the file. -/
structure OpenFile where
  used : Bool
  magic : Int
  object : ObjectType
  isDevice : Bool
  file : Int
  fdCounter : Int
  lbfsize : Int
  socket : Option Nat
  deriving DecidableEq, Repr

def OpenFile.Valid (f : OpenFile) : Prop :=
  f.used = true ∧ f.magic = 1234

instance (f : OpenFile) : Decidable f.Valid :=
  inferInstanceAs (Decidable (_ ∧ _))

/-- What `used` and `magic` of a socket say. -/
structure SocketStamp where
  used : Bool
  magic : Int
  deriving DecidableEq, Repr

/-- `struct inode_d`. -/
structure Inode where
  used : Bool
  magic : Int
  filestructCounter : Int
  deriving DecidableEq, Repr

structure TerminalConnection where
  connector0 : Int
  connector1 : Int
  isTerminal : Bool
  isChildOfTerminal : Bool
  deriving DecidableEq, Repr

/-- `struct te_d`. A pointer to a file is its place in the list of the files, and one to a thread
its place in `threadList`. -/
structure Process where
  used : Bool
  magic : Int
  pid : Int
  ppid : Int
  cpl : Nat
  terminalConnection : TerminalConnection
  objects : Nat → Option Nat
  flower : Option Nat
  pml4Va : Nat
  pml4Pa : Nat
  pdpt0Va : Nat
  pdpt0Pa : Nat
  pd0Va : Nat
  pd0Pa : Nat
  image : Nat
  imagePa : Nat
  childImage : Nat
  childImagePa : Nat
  childStack : Nat
  childStackPa : Nat
  heapStart : Nat
  heapSize : Nat
  heapEnd : Nat
  stackStart : Nat
  stackSize : Nat
  stackEnd : Nat

def Process.Valid (p : Process) : Prop :=
  p.used = true ∧ p.magic = 1234

instance (p : Process) : Decidable p.Valid :=
  inferInstanceAs (Decidable (_ ∧ _))

/-- `teList`. -/
structure ProcessList where
  teList : Nat → Option Process
  lt_max : ∀ pid p, teList pid = some p → pid < PROCESS_COUNT_MAX

def ProcessList.set (T : ProcessList) (pid : Nat) (p : Process) : ProcessList where
  teList := if pid < PROCESS_COUNT_MAX then Function.update T.teList pid (some p) else T.teList
  lt_max := by
    intro i q h
    split at h
    · rename_i hlt
      rcases eq_or_ne i pid with rfl | hne
      · exact hlt
      · rw [Function.update_of_ne hne] at h
        exact T.lt_max i q h
    · exact T.lt_max i q h

variable {pid : Nat} {p : Process}

theorem ProcessList.set_teList (T : ProcessList) (p : Process) (h : pid < PROCESS_COUNT_MAX) :
    (T.set pid p).teList = Function.update T.teList pid (some p) :=
  if_pos h

theorem ProcessList.set_same {T : ProcessList} {q : Process} (h : T.teList pid = some q)
    (p : Process) : (T.set pid p).teList pid = some p := by
  rw [T.set_teList p (T.lt_max pid q h), Function.update_self]

theorem ProcessList.set_other (T : ProcessList) {i : Nat} (p : Process) (h : i ≠ pid) :
    (T.set pid p).teList i = T.teList i := by
  rw [ProcessList.set]
  dsimp only
  split
  · exact Function.update_of_ne h _ _
  · rfl

theorem ProcessList.set_set (T : ProcessList) (pid : Nat) (p q : Process) :
    (T.set pid p).set pid q = T.set pid q := by
  unfold ProcessList.set
  congr 1
  split
  · exact Function.update_idem _ _ _
  · rfl

/-- `thread_type_t`. -/
inductive ThreadType where
  | null
  | system
  | normal
  deriving DecidableEq, Repr

/-- The fields of `struct thread_d` that a cloning copies or sets. -/
structure Thread where
  used : Bool
  magic : Int
  type : ThreadType
  te : Nat
  tgid : Int
  tid : Int
  basePriority : Nat
  priority : Nat
  quantum : Nat
  state : ThreadState
  newClone : Bool
  cpl : Nat
  rflagsInitialIopl : Nat
  cs : Nat
  rip : Nat
  rsp : Nat
  pml4Va : Nat
  pml4Pa : Nat
  saved : Bool
  deriving DecidableEq, Repr

/-- `struct newpagedpool_d`, with the regions of the extra heaps 2 and 3. -/
structure SlabPool where
  initialized : Bool
  free : Nat → Bool

/-- The kernel state. The files are those that have ever been allocated. -/
structure System where
  processes : ProcessList
  files : List OpenFile
  sockets : Nat → SocketStamp
  fileTable : List Nat
  inodes : List Inode
  currentPid : Int
  currentThread : Int
  threadList : Nat → Option Thread
  threadsCounter : Nat
  gHeapCount : Nat
  newPagedPool : SlabPool
  pageAllocList : Nat → Option Page
  paging : Paging

def System.teList (s : System) : Nat → Option Process := s.processes.teList

def System.setProcess (s : System) (pid : Nat) (p : Process) : System :=
  { s with processes := s.processes.set pid p }

def System.setThread (s : System) (tid : Nat) (t : Thread) : System :=
  { s with threadList := Function.update s.threadList tid (some t) }

def System.modifyFile (s : System) (fp : Nat) (f : OpenFile → OpenFile) : System :=
  { s with files := s.files.modify fp f }

def Process.setObject (p : Process) (fd : Nat) (fp : Option Nat) : Process :=
  { p with objects := Function.update p.objects fd fp }

/-- The process at a place of `teList`, if it is a valid one. -/
def validProcess (s : System) (pid : Nat) : Option Process :=
  (s.teList pid).filter fun p => p.Valid

variable {s : System}

theorem validProcess_some (h : validProcess s pid = some p) : s.teList pid = some p ∧ p.Valid := by
  rw [validProcess, Option.filter_eq_some_iff] at h
  exact ⟨h.1, of_decide_eq_true h.2⟩

def getNewPID (s : System) : Option Nat :=
  (List.range PROCESS_COUNT_MAX).find? fun pid => (s.teList pid).isNone

theorem getNewPID_some (h : getNewPID s = some pid) :
    s.teList pid = none ∧ pid < PROCESS_COUNT_MAX := by
  obtain ⟨hnone, hlt, _⟩ := List.find?_range_eq_some.mp h
  exact ⟨Option.isNone_iff_eq_none.mp hnone, List.mem_range.mp hlt⟩

/-- The first free descriptor of a process from `first` on. -/
def freeSlot (p : Process) (first last : Nat) : Option Nat :=
  (List.range' first (last - first)).find? fun fd => (p.objects fd).isNone

theorem freeSlot_some {first last fd : Nat} (h : freeSlot p first last = some fd) :
    p.objects fd = none ∧ first ≤ fd ∧ fd < last := by
  have hnone := List.find?_some h
  have hmem := List.mem_range'_1.mp (List.mem_of_find?_eq_some h)
  exact ⟨Option.isNone_iff_eq_none.mp hnone, by omega, by omega⟩

end Gramado.Ke.ProcessTable
