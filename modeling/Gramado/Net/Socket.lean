import Gramado.Io.SocketFile

/-! Sockets, the processes that own them, and the calls `listen`, `connect` and `accept`. -/

namespace Gramado.Net.Socket

open Io.FileObject

inductive SocketState where
  | null
  | listening
  | unconnected
  | connecting
  | connected
  | disconnecting
  deriving DecidableEq, Repr

/-- `struct socket_d`. Sockets and files are named by their places in the kernel heap. -/
structure SocketObject where
  used : Bool
  magic : Int
  port : Nat
  pendingServerEndpoints : Nat → Option Nat
  pendingServerCount : Nat
  pendingClientEndpoints : Nat → Option Nat
  pendingClientCount : Nat
  backlogMax : Nat
  backlogHead : Nat
  isAcceptingConnections : Bool
  link : Option Nat
  state : SocketState
  clientfdOnServer : Int
  privateFile : Option Nat
  magicString : Nat → UInt8

def SocketObject.Valid (sock : SocketObject) : Prop :=
  sock.used = true ∧ sock.magic = 1234

instance (sock : SocketObject) : Decidable sock.Valid :=
  inferInstanceAs (Decidable (_ ∧ _))

def createSocketObject : SocketObject where
  used := true
  magic := 1234
  port := 0
  pendingServerEndpoints := fun _ => none
  pendingServerCount := 0
  pendingClientEndpoints := fun _ => none
  pendingClientCount := 0
  backlogMax := 4
  backlogHead := 0
  isAcceptingConnections := false
  link := none
  state := .unconnected
  clientfdOnServer := -1
  privateFile := none
  magicString := fun _ => 0

structure Process where
  used : Bool
  magic : Int
  objects : Nat → Option Nat
  priv : Option Nat

structure NetState where
  teList : Nat → Option Process
  files : Nat → File
  sockets : Nat → SocketObject
  gramadoPorts : Nat → Int
  newClientPortNumber : Nat

def PROCESS_COUNT_MAX : Int := 1024
def FLOWERTHREAD_BASE : Nat := 0x00200000

/-- `teList[pid]`, or `none` where `pid` is out of limits or the entry is `NULL`. -/
def NetState.process (s : NetState) (pid : Int) : Option Process :=
  if pid < 0 ∨ PROCESS_COUNT_MAX ≤ pid then none else s.teList pid.toNat

def NetState.modifySocket (s : NetState) (sock : Nat) (f : SocketObject → SocketObject) :
    NetState :=
  { s with sockets := Function.update s.sockets sock (f (s.sockets sock)) }

def NetState.setObject (s : NetState) (pid : Int) (p : Process) (fd : Nat) (fp : Nat) :
    NetState :=
  { s with
    teList := Function.update s.teList pid.toNat
      (some { p with objects := Function.update p.objects fd (some fp) }) }

def isSocket (f : File) : Bool :=
  f.magic = 1234 ∧ f.object = .socket

abbrev SockAddr := Nat → UInt8

/-- `sa_family`, which overlaps `sin_len` and `sin_family`. -/
def saFamily (addr : SockAddr) : Nat := (addr 0).toNat + 256 * (addr 1).toNat
def saData (addr : SockAddr) (i : Nat) : UInt8 := addr (2 + i)
def sinFamily (addr : SockAddr) : Nat := (addr 1).toNat
def sinPort (addr : SockAddr) : Nat := (addr 2).toNat + 256 * (addr 3).toNat
def sinAddr (addr : SockAddr) (i : Nat) : UInt8 := addr (4 + i)

def AF_UNIX : Nat := 1
def AF_INET : Nat := 2
def AF_GRAMADO : Nat := 8000
def GRAMADO_PORT_WS : Nat := 11
def GRAMADO_PORT_NS : Nat := 14
def GRAMADO_PORT_FS : Nat := 16
def PORTS_WS : Nat := 4040
def PORTS_NS : Nat := 4041

/-- The backlog of `connect`: the insertion index goes round and the socket of the client is
stored there. -/
def pushPending (server : SocketObject) (client : Nat) : SocketObject :=
  let backlogTail :=
    if server.backlogMax ≤ server.pendingClientCount + 1 then 0
    else server.pendingClientCount + 1
  { server with
    pendingClientCount := backlogTail
    pendingClientEndpoints :=
      Function.update server.pendingClientEndpoints backlogTail (some client) }

def linkPending (s : NetState) (targetPid : Int) (sProcess : Process) (slot f client server : Nat) :
    NetState :=
  let s := s.setObject targetPid sProcess 31 f
  let s := s.modifySocket client fun sock =>
    { sock with
      clientfdOnServer := slot
      link := some server
      state := .connecting
      magicString := Function.update (Function.update sock.magicString 0 0x43) 1 0 }
  s.modifySocket server fun sock =>
    pushPending
      { sock with clientfdOnServer := slot, link := some client, state := .connecting } client

def assignPort (s : NetState) (client : Nat) : NetState :=
  let port := (s.newClientPortNumber + 1) % 2 ^ 16
  { s with newClientPortNumber := port }.modifySocket client fun sock =>
    { sock with port := port }

/-- What `__connect_inet` and `__connect_local` do once they have the target process. -/
def connectTo (noSlot : String) (s : NetState) (currentProcess clientSocketFd targetPid : Int) :
    Except String (Int × NetState) :=
  match s.process currentProcess with
  | none => .ok (-1, s)
  | some cProcess =>
      match cProcess.objects clientSocketFd.toNat with
      | none => .ok (-1, s)
      | some f =>
          if isSocket (s.files f) = false then .ok (-ENOTSOCK, s)
          else if (s.files f).sync.canConnect = false then .ok (-1, s)
          else
            match (s.files f).socket with
            | none => .ok (-1, s)
            | some client =>
                if (s.sockets client).state ≠ .unconnected then .ok (-1, s)
                else
                  let s := assignPort s client
                  match s.process targetPid with
                  | none => .ok (-1, s)
                  | some sProcess =>
                      match (List.range' 3 28).find? fun i => sProcess.objects i = none with
                      | none => .error noSlot
                      | some slot =>
                          match sProcess.priv with
                          | none => .ok (-1, s)
                          | some server =>
                              .ok (0, linkPending s targetPid sProcess slot f client server)

/-- The server that an `AF_INET` address names, if it is one of this machine. -/
def targetInet (s : NetState) (addr : SockAddr) : Option Int :=
  let inLocalhost :=
    sinAddr addr 3 = 127 ∧ sinAddr addr 2 = 0 ∧ sinAddr addr 1 = 0 ∧ sinAddr addr 0 = 1
  if saFamily addr = AF_UNIX ∨ saFamily addr = AF_GRAMADO then none
  else if sinFamily addr ≠ AF_INET then none
  else if sinPort addr = PORTS_WS then
    if inLocalhost then some (s.gramadoPorts GRAMADO_PORT_WS) else none
  else if sinPort addr = PORTS_NS then
    if inLocalhost then some (s.gramadoPorts GRAMADO_PORT_NS) else none
  else none

def targetLocal (s : NetState) (addr : SockAddr) : Option Int :=
  if saFamily addr ≠ AF_GRAMADO then none
  else if saData addr 1 ≠ 0x73 then none
  else
    let targetPid :=
      if saData addr 0 = 0x64 then some (s.gramadoPorts GRAMADO_PORT_WS)
      else if saData addr 0 = 0x6E then some (s.gramadoPorts GRAMADO_PORT_NS)
      else if saData addr 0 = 0x66 then some (s.gramadoPorts GRAMADO_PORT_FS)
      else none
    targetPid.filter fun pid => 0 ≤ pid ∧ pid < PROCESS_COUNT_MAX

/-- `connect` up to the target process, which the address gives in its own way for each
family. -/
def connectWith (target : NetState → SockAddr → Option Int) (noSlot : String) (s : NetState)
    (currentProcess sockfd : Int) (addr : Option SockAddr) : Except String (Int × NetState) :=
  if sockfd < 0 ∨ OPEN_MAX ≤ sockfd then .ok (-EINVAL, s)
  else
    match addr with
    | none => .ok (-EINVAL, s)
    | some addr =>
        match target s addr with
        | none => .ok (-1, s)
        | some targetPid => connectTo noSlot s currentProcess sockfd targetPid

def connectInet : NetState → Int → Int → Option SockAddr → Except String (Int × NetState) :=
  connectWith targetInet "__connect_inet: [FIXME] We need a slot in the server\n"

def connectLocal : NetState → Int → Int → Option SockAddr → Except String (Int × NetState) :=
  connectWith targetLocal "__connect_local: [FIXME] We need a slot in the server\n"

def listenImp (s : NetState) (currentProcess sockfd backlog : Int) :
    Except String (Int × NetState) :=
  if sockfd < 0 ∨ OPEN_MAX ≤ sockfd then .ok (-EBADF, s)
  else
    match s.process currentProcess with
    | none => .ok (-1, s)
    | some p =>
        match p.objects sockfd.toNat with
        | none => .ok (-1, s)
        | some f =>
            if isSocket (s.files f) = false then .ok (-ENOTSOCK, s)
            else
              match (s.files f).socket with
              | none => .ok (-1, s)
              | some server =>
                  if (s.files f).socket ≠ p.priv then
                    .error "sys_listen: [TEST] f->socket != p->priv\n"
                  else
                    let desiredBacklog := if backlog ≤ 0 then 1 else backlog
                    let desiredBacklog := if 32 ≤ desiredBacklog then 31 else desiredBacklog
                    .ok (0, s.modifySocket server fun sock =>
                      { sock with
                        backlogMax := desiredBacklog.toNat
                        pendingServerEndpoints := fun i =>
                          if i < 32 then none else sock.pendingServerEndpoints i
                        pendingClientEndpoints := fun i =>
                          if i < 32 then none else sock.pendingClientEndpoints i
                        pendingServerCount := 0
                        pendingClientCount := 0
                        state := .listening
                        isAcceptingConnections := true })

/-- The backlog of `accept`: the removal index goes round and the first socket from there
on, without wrapping, is taken. -/
def firstPending (sock : SocketObject) (i : Nat) : Option Nat :=
  (List.range' i (sock.backlogMax + 1 - i)).findSome? sock.pendingClientEndpoints

def advanceHead (s : NetState) (listening : Nat) : NetState :=
  s.modifySocket listening fun sock =>
    { sock with
      state := .connected
      backlogHead :=
        if sock.backlogMax ≤ sock.backlogHead + 1 then 0 else sock.backlogHead + 1 }

def restoreState (s : NetState) (listening : Nat) (oldState : SocketState) : NetState :=
  s.modifySocket listening fun sock => { sock with state := oldState }

/-- The pending socket gets connected, and its file the descriptor 31 of the server. -/
def acceptClient (s : NetState) (pid : Int) (sProcess : Process) (pending : Nat) :
    Except String (Int × NetState) :=
  let s := s.modifySocket pending fun sock => { sock with state := .connected }
  match (s.sockets pending).privateFile with
  | none => .error "page fault"
  | some fp =>
      let s := s.setObject pid sProcess 31 fp
      .ok (31, { s with files := Function.update s.files fp { s.files fp with file := 31 } })

/-- `__accept_imp` on a socket that can accept, in the process `pid`. -/
def acceptPending (s : NetState) (pid : Int) (sProcess : Process) (listening : Nat) :
    Except String (Int × NetState) :=
  let oldState := (s.sockets listening).state
  if oldState = .listening ∨ oldState = .connecting ∨ oldState = .connected then
    let s := advanceHead s listening
    let i := (s.sockets listening).backlogHead
    if (s.sockets listening).backlogMax ≤ i then .error "__accept_imp: Backlog limits\n"
    else
      match firstPending (s.sockets listening) i with
      | none => .ok (-1, restoreState s listening oldState)
      | some pending =>
          if ¬ (s.sockets pending).Valid then .ok (-1, restoreState s listening oldState)
          else acceptClient s pid sProcess pending
  else .ok (-1, s)

/-- `addr` and `addrlen` are the addresses that the caller passes. -/
def acceptImp (s : NetState) (currentProcess sockfd : Int) (addr addrlen : Nat) :
    Except String (Int × NetState) :=
  if sockfd < 0 ∨ OPEN_MAX ≤ sockfd then .ok (-EBADF, s)
  else if addr = 0 then .ok (-EINVAL, s)
  else if addr < FLOWERTHREAD_BASE then .error "__accept_imp: addr is not ring3\n"
  else if addrlen = 0 then .ok (-EINVAL, s)
  else
    match s.process currentProcess with
    | none => .ok (-1, s)
    | some sProcess =>
        if ¬ (sProcess.used = true ∧ sProcess.magic = 1234) then .ok (-1, s)
        else
          match sProcess.objects sockfd.toNat with
          | none => .ok (-1, s)
          | some f =>
              if ¬ (s.files f).Valid then .ok (-1, s)
              else if isSocket (s.files f) = false then .ok (-ENOTSOCK, s)
              else if (s.files f).sync.canAccept = false then .ok (-1, s)
              else
                match (s.files f).socket with
                | none => .ok (-1, s)
                | some listening =>
                    if ¬ (s.sockets listening).Valid then .ok (-1, s)
                    else acceptPending s currentProcess sProcess listening

end Gramado.Net.Socket
