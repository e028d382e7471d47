import Gramado.Ke.ProcessTable

/-! The descriptors of a process: `open`, `pipe`, `dup` and its kin, the devices and `close`. -/

namespace Gramado.Ke.Descriptors

open Io.FileObject Ke.ProcessTable

def STDOUT_FILENO : Int := 1

/-- The result of a call, the descriptors that it stores in the caller's array, and the file
that it has passed to `k_fclose`. -/
structure Answer where
  result : Int
  stored : List Nat
  released : Option Nat
  deriving DecidableEq, Repr

def answer (result : Int) : Answer := ⟨result, [], none⟩

/-- `get_current_process_struct`, or the checks that stand in its place. -/
def currentProcess (s : System) : Option Process :=
  if s.currentPid < 0 then none else validProcess s s.currentPid.toNat

def kFclose (f : OpenFile) : OpenFile :=
  if f.used ≠ true then f
  else if f.magic ≠ 1234 then f
  else { f with used := true, magic := 4321 }

def countUp (f : OpenFile) : OpenFile := { f with fdCounter := f.fdCounter + 1 }

/-- `fp->fd_counter--`, and `k_fclose` if that was the last reference. -/
def countDown (f : OpenFile) : OpenFile :=
  let f := { f with fdCounter := f.fdCounter - 1 }
  if f.fdCounter ≤ 0 then kFclose f else f

def storeObject (s : System) (p : Process) (fd : Nat) (fp : Option Nat) : System :=
  s.setProcess s.currentPid.toNat (p.setObject fd fp)

def sysDup (s : System) (oldfd : Int) : Answer × System :=
  if oldfd < 0 ∨ OPEN_MAX ≤ oldfd then (answer (-EBADF), s)
  else
    match currentProcess s with
    | none => (answer (-EBADF), s)
    | some p =>
        match p.objects oldfd.toNat with
        | none => (answer (-EBADF), s)
        | some fp =>
            match freeSlot p 0 NUMBER_OF_FILES with
            | none => (answer (-EMFILE), s)
            | some newfd => (answer newfd, (storeObject s p newfd (some fp)).modifyFile fp countUp)

/-- The file that `newfd` refers to loses this reference. -/
def closeTarget (s : System) (p : Process) (newfd : Nat) : Option Nat × Process × System :=
  match p.objects newfd with
  | none => (none, p, s)
  | some old =>
      let released := (s.files[old]?).bind fun f => if f.fdCounter - 1 ≤ 0 then some old else none
      let s := s.modifyFile old countDown
      (released, p.setObject newfd none, storeObject s p newfd none)

/-- What `sys_dup2` and `sys_dup3` do once the arguments are right. -/
def replaceObject (s : System) (p : Process) (newfd fp : Nat) : Answer × System :=
  let (released, p, s) := closeTarget s p newfd
  (⟨newfd, [], released⟩, (storeObject s p newfd (some fp)).modifyFile fp countUp)

def sysDup2 (s : System) (oldfd newfd : Int) : Answer × System :=
  if oldfd < 0 ∨ OPEN_MAX ≤ oldfd ∨ newfd < 0 ∨ OPEN_MAX ≤ newfd then (answer (-EBADF), s)
  else
    match currentProcess s with
    | none => (answer (-EBADF), s)
    | some p =>
        match p.objects oldfd.toNat with
        | none => (answer (-EBADF), s)
        | some fp =>
            if oldfd = newfd then (answer newfd, s) else replaceObject s p newfd.toNat fp

def sysDup3 (s : System) (oldfd newfd : Int) : Answer × System :=
  if oldfd < 0 ∨ OPEN_MAX ≤ oldfd ∨ newfd < 0 ∨ OPEN_MAX ≤ newfd then (answer (-EBADF), s)
  else if oldfd = newfd then (answer (-EINVAL), s)
  else
    match currentProcess s with
    | none => (answer (-EBADF), s)
    | some p =>
        match p.objects oldfd.toNat with
        | none => (answer (-EBADF), s)
        | some fp => replaceObject s p newfd.toNat fp

/-- What `kmalloc` gives to `sys_pipe`: if there is room for the buffer and for the pipe
information, and for both file structures what their memory contains. -/
structure PipeMemory where
  buffer : Bool
  first : Option OpenFile
  second : Option OpenFile
  info : Bool

/-- The file structures of a pipe are not cleared: the fields that `sys_pipe` does not set, the
counter among them, have what was in their memory. -/
def pipeFile (memory : OpenFile) (slot : Nat) : OpenFile :=
  { memory with used := true, magic := 1234, object := .pipe, file := slot, lbfsize := BUFSIZ }

def sysPipe (s : System) (memory : PipeMemory) : Answer × System :=
  match currentProcess s with
  | none => (answer (-1), s)
  | some p =>
      match freeSlot p 3 NUMBER_OF_FILES with
      | none => (answer (-1), s)
      | some slot1 =>
          match freeSlot p (slot1 + 1) NUMBER_OF_FILES with
          | none => (answer (-1), s)
          | some slot2 =>
              if memory.buffer = false then (answer (-1), s)
              else
                match memory.first, memory.second with
                | some m1, some m2 =>
                    let f1 := s.files.length
                    let f2 := s.files.length + 1
                    let s := { s with files := s.files ++ [pipeFile m1 slot1, pipeFile m2 slot2] }
                    let p := p.setObject slot1 (some f1)
                    let s := storeObject s p slot2 (some f2)
                    (⟨if memory.info = true then 0 else -1, [slot1, slot2], none⟩, s)
                | _, _ => (answer (-1), s)

/-- The answers of the device list, the file system and `kmalloc` to an `open`: the file of a
device with this path; if the directory has the file, or else gets it because of `O_CREAT`; if
there is room for the file structure and for its first buffer; the size of the file; if there is
room for a larger buffer; and if the file can be loaded. -/
structure OpenAnswers where
  device : Option Nat
  found : Bool
  created : Bool
  structureRoom : Bool
  bufferRoom : Bool
  fileSize : Int
  largeRoom : Bool
  loaded : Bool

/-- The file structure of `do_read_file_from_disk`, with the buffer size at the end. -/
def regularFile (slot : Nat) (lbfsize : Int) : OpenFile where
  used := true
  magic := 1234
  object := .file
  isDevice := false
  file := slot
  fdCounter := 1
  lbfsize := lbfsize
  socket := none

/-- The buffer size of the file structure, or none where the file cannot be loaded. -/
def loadedSize (a : OpenAnswers) : Option Int :=
  if a.bufferRoom = false then none
  else if a.fileSize ≤ 0 then none
  else if a.fileSize < BUFSIZ then if a.loaded = true then some BUFSIZ else none
  else if 8 * 1024 < a.fileSize then none
  else if a.largeRoom = false then none
  else if a.loaded = true then some (a.fileSize + 8)
  else none

/-- `do_read_file_from_disk`, with the place of the file structure. -/
def doReadFileFromDisk (s : System) (a : OpenAnswers) : Option Nat × System :=
  if a.found = false ∧ a.created = false then (none, s)
  else
    match currentProcess s with
    | none => (none, s)
    | some p =>
        match freeSlot p 0 NUMBER_OF_FILES with
        | none => (none, s)
        | some slot =>
            if a.structureRoom = false then (none, s)
            else
              let fp := s.files.length
              match loadedSize a with
              | none => (none, { s with files := s.files ++ [regularFile slot BUFSIZ] })
              | some lbfsize =>
                  let s := { s with files := s.files ++ [regularFile slot lbfsize] }
                  (some fp, storeObject s p slot (some fp))

def consolePath (pathname : String) : Bool :=
  ["/dev/tty", "/DEV/TTY", "/dev/console", "/DEV/CONSOLE"].any fun name =>
    name.toList.isPrefixOf pathname.toList

def openedDevice (s : System) (a : OpenAnswers) : Option Nat :=
  a.device.filter fun fp => (s.files[fp]?).any OpenFile.isDevice

def openImp (s : System) (pathname : Option String) (a : OpenAnswers) : Answer × System :=
  match pathname with
  | none => (answer (-EFAULT), s)
  | some pathname =>
      if pathname = "" then (answer (-EFAULT), s)
      else
        match currentProcess s with
        | none => (answer (-1), s)
        | some p =>
            if consolePath pathname = true then (answer STDOUT_FILENO, s)
            else
              match openedDevice s a with
              | some fp =>
                  match freeSlot p 0 NUMBER_OF_FILES with
                  | none => (answer (-EMFILE), s)
                  | some fd =>
                      let s := s.modifyFile fp fun f => { f with file := fd }
                      (answer fd, (storeObject s p fd (some fp)).modifyFile fp countUp)
              | none =>
                  match doReadFileFromDisk s a with
                  | (none, s) => (answer (-1), s)
                  | (some fp, s) =>
                      match s.files[fp]? with
                      | none => (answer (-1), s)
                      | some f =>
                          if ¬ f.Valid then (answer (-1), s)
                          else if f.file < 0 ∨ 31 < f.file then (answer (-1), s)
                          else (answer f.file, s)

/-- `sys_open_device_by_number`, where `fp` is the file of the entry, if it is initialized. -/
def sysOpenDeviceByNumber (s : System) (index : Int) (fp : Option Nat) :
    Except String (Answer × System) :=
  if index < 0 ∨ 32 ≤ index then .ok (answer (-EINVAL), s)
  else
    match fp with
    | none => .ok (answer (-1), s)
    | some fp =>
        if ((s.files[fp]?).any fun f => f.magic = 1234) = false then .ok (answer (-1), s)
        else
          match currentProcess s with
          | none => .ok (answer (-1), s)
          | some p =>
              match freeSlot p 0 NUMBER_OF_FILES with
              | none => .error "sys_open_device_by_number: No slots!\n"
              | some slot => .ok (answer slot, storeObject s p slot (some fp))

/-- The objects that `__close_imp` takes out of the table. -/
def closes : ObjectType → Bool
  | .socket | .pipe | .tty | .file => true
  | _ => false

/-- The field of a regular file that `__close_imp` adjusts before it saves the file. -/
def adjustSize (f : OpenFile) : OpenFile :=
  if f.lbfsize < 512 then { f with lbfsize := 512 } else f

def closeObject (s : System) (fp : Nat) (f : OpenFile) : System :=
  match f.object with
  | .socket =>
      match f.socket with
      | none => s
      | some socket => { s with sockets := Function.update s.sockets socket ⟨false, 0⟩ }
  | .file => s.modifyFile fp adjustSize
  | _ => s

def closeImp (s : System) (fd : Int) : Answer × System :=
  if fd < 0 ∨ OPEN_MAX ≤ fd then (answer (-EBADF), s)
  else if fd = 0 ∨ fd = 1 ∨ fd = 2 then (answer (-EBADF), s)
  else
    match currentProcess s with
    | none => (answer (-1), s)
    | some p =>
        match p.objects fd.toNat with
        | none => (answer (-1), s)
        | some fp =>
            match s.files[fp]? with
            | none => (answer (-1), s)
            | some f =>
                if ¬ f.Valid then (answer (-1), s)
                else if f.object = .virtualConsole then (answer 0, s)
                else if closes f.object = false then (answer (-1), s)
                else (answer 0, storeObject (closeObject s fp f) p fd.toNat none)

end Gramado.Ke.Descriptors
