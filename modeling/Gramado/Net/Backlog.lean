import Gramado.Net.Socket

namespace Gramado.Net.Backlog

open Library Io.FileObject Net.Socket

def socketOf (s : NetState) (pid fd : Int) : Option Nat :=
  ((s.process pid).bind fun p => p.objects fd.toNat).bind fun f => (s.files f).socket

theorem assignPort_sockets (s : NetState) (client sock : Nat) :
    ∃ port, (assignPort s client).sockets sock = { s.sockets sock with port := port } := by
  rcases eq_or_ne sock client with rfl | hne
  · exact ⟨_, Function.update_self ..⟩
  · exact ⟨(s.sockets sock).port, Function.update_of_ne hne ..⟩

variable {noSlot : String} {s t : NetState} {pid fd targetPid rc cpid cfd : Int}
  {p sProcess : Process} {server listening client addr addrlen : Nat}
  {g : SocketObject → SocketObject} {sock : SocketObject} {pending : List Nat}
  {target : NetState → SockAddr → Option Int}

theorem connectTo_cases (h : connectTo noSlot s pid fd targetPid = .ok (rc, t)) : (rc ≠ 0 ∧ t = s) ∨
    ∃ client, socketOf s pid fd = some client ∧ (s.sockets client).state = .unconnected ∧
      ((rc ≠ 0 ∧ t = assignPort s client) ∨
        ∃ sProcess slot f server, rc = 0 ∧ (s.files f).socket = some client ∧
          (assignPort s client).process targetPid = some sProcess ∧
          sProcess.priv = some server ∧
          t = linkPending (assignPort s client) targetPid sProcess slot f client server) := by
  unfold connectTo at h
  split at h
  · cases h
    exact .inl ⟨by decide, rfl⟩
  rename_i cProcess hprocess
  split at h
  · cases h
    exact .inl ⟨by decide, rfl⟩
  rename_i f hf
  split at h
  · cases h
    exact .inl ⟨by decide, rfl⟩
  split at h
  · cases h
    exact .inl ⟨by decide, rfl⟩
  split at h
  · cases h
    exact .inl ⟨by decide, rfl⟩
  rename_i client hclient
  split at h
  · cases h
    exact .inl ⟨by decide, rfl⟩
  rename_i hstate
  have hsocket : socketOf s pid fd = some client := by
    rw [socketOf, hprocess, Option.bind_some, hf, Option.bind_some, hclient]
  refine .inr ⟨client, hsocket, not_not.mp hstate, ?_⟩
  dsimp only at h
  split at h
  · cases h
    exact .inl ⟨by decide, rfl⟩
  rename_i sProcess htarget
  split at h
  · cases h
  rename_i slot hslot
  split at h
  · cases h
    exact .inl ⟨by decide, rfl⟩
  rename_i server hserver
  cases h
  exact .inr ⟨sProcess, slot, f, server, rfl, hclient, htarget, hserver, rfl⟩

theorem process_setObject (h : s.process pid = some p) (fd f : Nat) (pid' : Int) :
    (s.setObject pid p fd f).process pid' =
      if pid' = pid then some { p with objects := Function.update p.objects fd (some f) }
      else s.process pid' := by
  unfold NetState.process at h ⊢
  split at h
  · cases h
  rename_i hrange
  split
  · rename_i hrange'
    rw [if_neg (by omega)]
  · rename_i hrange'
    simp only [NetState.setObject]
    rcases eq_or_ne pid' pid with rfl | hne
    · rw [Function.update_self, if_pos rfl]
    · rw [Function.update_of_ne (by omega), if_neg hne]

@[simp] theorem process_modifySocket (s : NetState) (sock : Nat)
    (g : SocketObject → SocketObject) (pid : Int) :
    (s.modifySocket sock g).process pid = s.process pid := rfl

@[simp] theorem sockets_setObject (s : NetState) (pid : Int) (p : Process) (fd f : Nat) :
    (s.setObject pid p fd f).sockets = s.sockets := rfl

theorem sockets_modifySocket (s : NetState) (sock : Nat) (g : SocketObject → SocketObject)
    (sock' : Nat) :
    (s.modifySocket sock g).sockets sock' =
      if sock' = sock then g (s.sockets sock) else s.sockets sock' := by
  exact Function.update_apply ..

/-- A process with a private socket that it can accept on, and no other process with that
socket. Every socket that a file names is in good order and has a file. -/
structure ServerProcess (s : NetState) (pid fd : Int) (server : Nat) : Prop where
  fd_range : 0 ≤ fd ∧ fd < 31
  process : ∃ p f, s.process pid = some p ∧ p.used = true ∧ p.magic = 1234 ∧
    p.priv = some server ∧ p.objects fd.toNat = some f ∧ (s.files f).Valid ∧
    (s.files f).object = .socket ∧ (s.files f).sync.canAccept = true ∧
    (s.files f).socket = some server
  owner : ∀ pid' p, s.process pid' = some p → p.priv = some server → pid' = pid
  bound : ∀ f sock, (s.files f).socket = some sock → (s.sockets sock).Valid ∧
    ∃ f', (s.sockets sock).privateFile = some f' ∧ (s.files f').socket = some sock

theorem serverProcess_modifySocket (h : ServerProcess s pid fd server) (sock : Nat)
    (hg : ∀ x, ((g x).Valid ↔ x.Valid) ∧ (g x).privateFile = x.privateFile) :
    ServerProcess (s.modifySocket sock g) pid fd server := by
  refine ⟨h.fd_range, h.process, h.owner, ?_⟩
  intro f sock' hsock
  obtain ⟨hvalid, f', hfile, hf'⟩ := h.bound f sock' hsock
  rw [sockets_modifySocket]
  split
  · rename_i heq
    subst heq
    exact ⟨(hg _).1.mpr hvalid, f', (hg _).2.trans hfile, hf'⟩
  · exact ⟨hvalid, f', hfile, hf'⟩

theorem serverProcess_setObject (h : ServerProcess s pid fd server) {pid' : Int}
    (hp : s.process pid' = some p) (f : Nat) :
    ServerProcess (s.setObject pid' p 31 f) pid fd server := by
  have hrange := h.fd_range
  obtain ⟨q, fl, hq, hused, hmagic, hpriv, hobject, hfile⟩ := h.process
  refine ⟨hrange, ?_, ?_, h.bound⟩
  · rw [process_setObject hp]
    split
    · rename_i heq
      subst heq
      rw [hp] at hq
      cases hq
      refine ⟨_, fl, rfl, hused, hmagic, hpriv, ?_, hfile⟩
      change Function.update p.objects 31 (some f) fd.toNat = some fl
      rw [Function.update_of_ne (by omega)]
      exact hobject
    · exact ⟨q, fl, hq, hused, hmagic, hpriv, hobject, hfile⟩
  · intro pid'' p'' hp'' hpriv''
    rw [process_setObject hp] at hp''
    split at hp''
    · rename_i heq
      subst heq
      cases hp''
      exact h.owner pid'' p hp hpriv''
    · exact h.owner pid'' p'' hp'' hpriv''

theorem serverProcess_setFileNumber (h : ServerProcess s pid fd server) (f : Nat) (number : Int) :
    ServerProcess
      { s with files := Function.update s.files f { s.files f with file := number } }
      pid fd server := by
  have hfile : ∀ f', ∃ n, Function.update s.files f { s.files f with file := number } f' =
      { s.files f' with file := n } := by
    intro f'
    rcases eq_or_ne f' f with rfl | hne
    · exact ⟨_, Function.update_self ..⟩
    · exact ⟨(s.files f').file, Function.update_of_ne hne ..⟩
  obtain ⟨q, fl, hq, hused, hmagic, hpriv, hobject, hvalid, htype, haccept, hsocket⟩ := h.process
  refine ⟨h.fd_range, ?_, h.owner, ?_⟩
  · refine ⟨q, fl, hq, hused, hmagic, hpriv, hobject, ?_⟩
    obtain ⟨n, hn⟩ := hfile fl
    dsimp only
    rw [hn]
    exact ⟨hvalid, htype, haccept, hsocket⟩
  · intro f' sock hsock
    dsimp only at hsock ⊢
    obtain ⟨n, hn⟩ := hfile f'
    rw [hn] at hsock
    obtain ⟨hsockvalid, f'', hpf, hf''⟩ := h.bound f' sock hsock
    obtain ⟨n', hn'⟩ := hfile f''
    refine ⟨hsockvalid, f'', hpf, ?_⟩
    rw [hn']
    exact hf''

/-- The backlog of a server socket holds the pending sockets in the order in which they
connected, behind the removal index. -/
structure QueueInv (sock : SocketObject) (pending : List Nat) : Prop where
  max_pos : 0 < sock.backlogMax
  head_lt : sock.backlogHead < sock.backlogMax
  count_eq : sock.pendingClientCount = (sock.backlogHead + pending.length) % sock.backlogMax
  length_le : pending.length ≤ sock.backlogMax
  slots : Ring.window sock.pendingClientEndpoints sock.backlogMax (sock.backlogHead + 1)
    pending.length = pending.map some
  state : sock.state = .listening ∨ sock.state = .connecting ∨ sock.state = .connected

theorem queueInv_pushPending (h : QueueInv sock pending) (hlt : pending.length < sock.backlogMax)
    (client : Nat) :
    QueueInv (pushPending sock client) (pending ++ [client]) := by
  have hcount : sock.pendingClientCount < sock.backlogMax := by
    rw [h.count_eq]
    exact Nat.mod_lt _ h.max_pos
  have hnext : Ring.next sock.backlogMax sock.pendingClientCount =
      (sock.backlogHead + 1 + pending.length) % sock.backlogMax := by
    rw [Ring.next_eq_mod hcount, h.count_eq, Nat.mod_add_mod]
    congr 1
    omega
  refine ⟨h.max_pos, h.head_lt, ?_, ?_, ?_, h.state⟩
  · change Ring.next sock.backlogMax sock.pendingClientCount = _
    rw [hnext, List.length_append, List.length_singleton]
    change _ = (sock.backlogHead + (pending.length + 1)) % sock.backlogMax
    congr 1
    omega
  · rw [List.length_append, List.length_singleton]
    exact hlt
  · rw [List.length_append, List.length_singleton, List.map_append, List.map_singleton, ← h.slots]
    exact Ring.window_push _ _ hlt hnext

theorem sockets_advanceHead (s : NetState) (listening : Nat) :
    (advanceHead s listening).sockets listening = { s.sockets listening with
        state := .connected
        backlogHead :=
          Ring.next (s.sockets listening).backlogMax (s.sockets listening).backlogHead } := by
  unfold advanceHead
  rw [sockets_modifySocket, if_pos rfl]
  rfl

theorem queueInv_advanceHead (h : QueueInv (s.sockets listening) (client :: pending)) :
    let sock := (advanceHead s listening).sockets listening
    sock.backlogHead < sock.backlogMax ∧ firstPending sock sock.backlogHead = some client ∧
      QueueInv sock pending := by
  generalize hsock : s.sockets listening = sock at h
  have hnext := Ring.next_eq_mod h.head_lt
  have hlt := Ring.next_lt h.head_lt
  have hle := h.length_le
  have hslots := h.slots
  rw [List.length_cons, List.map_cons, Ring.window_succ, List.cons.injEq] at hslots
  rw [List.length_cons] at hle
  rw [sockets_advanceHead, hsock]
  refine ⟨hlt, ?_, h.max_pos, hlt, ?_, ?_, ?_, .inr (.inr rfl)⟩
  · obtain ⟨n, hn⟩ : ∃ n, sock.backlogMax + 1 -
        Ring.next sock.backlogMax sock.backlogHead = n + 1 :=
      ⟨sock.backlogMax - Ring.next sock.backlogMax sock.backlogHead, by omega⟩
    rw [firstPending, hn, List.range'_succ, List.findSome?_cons, hnext, hslots.1]
  · change sock.pendingClientCount = _
    rw [h.count_eq, List.length_cons]
    change _ = (Ring.next sock.backlogMax sock.backlogHead + pending.length) % sock.backlogMax
    rw [hnext, Nat.mod_add_mod]
    congr 1
    omega
  · exact Nat.le_of_succ_le hle
  · rw [← hslots.2]
    apply Ring.window_modEq
    change (Ring.next sock.backlogMax sock.backlogHead + 1) % sock.backlogMax = _
    rw [hnext, Nat.mod_add_mod]

/-- The sockets of the machine and the connections to one server that are pending: those
that `connect` has made and `accept` has not returned yet, the oldest first. -/
structure BacklogSystem where
  net : NetState
  pending : List Nat

inductive BacklogCall where
  | connectInet (pid fd : Int) (addr : Option SockAddr)
  | connectLocal (pid fd : Int) (addr : Option SockAddr)
  | accept (addr addrlen : Nat)

/-- The result of a call and the client socket that it has connected or accepted. -/
structure BacklogOutcome where
  result : Int
  connection : Option Nat
  deriving DecidableEq, Repr

/-- The client socket that a successful `connect` has linked to the server. -/
def connectedTo (server : Nat) (s : NetState) (pid fd : Int) (rc : Int) (t : NetState) :
    Option Nat :=
  if rc = 0 then
    (socketOf s pid fd).filter fun client => (t.sockets client).link = some server
  else none

/-- A `connect` and its place in the list of pending connections. -/
def recordConnect (server : Nat) (s : BacklogSystem) (pid fd : Int) :
    Except String (Int × NetState) → Except String (BacklogOutcome × BacklogSystem)
  | .error e => .error e
  | .ok (rc, t) =>
      let client := connectedTo server s.net pid fd rc t
      .ok (⟨rc, client⟩, ⟨t, s.pending ++ client.toList⟩)

/-- The calls on the server socket of the process `pid`, which names it by `fd`. -/
def backlogStep (pid fd : Int) (server : Nat) (s : BacklogSystem) :
    BacklogCall → Except String (BacklogOutcome × BacklogSystem)
  | .connectInet cpid cfd addr => recordConnect server s cpid cfd (connectInet s.net cpid cfd addr)
  | .connectLocal cpid cfd addr =>
      recordConnect server s cpid cfd (connectLocal s.net cpid cfd addr)
  | .accept addr addrlen =>
      match acceptImp s.net pid fd addr addrlen with
      | .error e => .error e
      | .ok (rc, t) =>
          let client := if rc = 31 then socketOf t pid 31 else none
          .ok (⟨rc, client⟩, ⟨t, s.pending.diff client.toList⟩)

/-- Connections are made while the backlog has room, and accepted while one is pending. -/
def InTurn (server : Nat) (s : BacklogSystem) : BacklogCall → Prop
  | .connectInet _ _ _ => s.pending.length < (s.net.sockets server).backlogMax
  | .connectLocal _ _ _ => s.pending.length < (s.net.sockets server).backlogMax
  | .accept addr addrlen => addr ≠ 0 → addrlen ≠ 0 → s.pending ≠ []

instance (server : Nat) (s : BacklogSystem) : ∀ call, Decidable (InTurn server s call)
  | .connectInet _ _ _ => inferInstanceAs (Decidable (_ < _))
  | .connectLocal _ _ _ => inferInstanceAs (Decidable (_ < _))
  | .accept _ _ => inferInstanceAs (Decidable (_ → _ → _))

def connected : BacklogCall → BacklogOutcome → List Nat
  | .accept _ _, _ => []
  | _, out => out.connection.toList

def accepted : BacklogCall → BacklogOutcome → List Nat
  | .accept _ _, out => out.connection.toList
  | _, _ => []

structure BacklogInv (pid fd : Int) (server : Nat) (s : BacklogSystem) : Prop where
  process : ServerProcess s.net pid fd server
  queue : QueueInv (s.net.sockets server) s.pending
  clients : ∀ client ∈ s.pending, ∃ f, (s.net.files f).socket = some client

variable {out : BacklogOutcome} {call : BacklogCall}

theorem queueInv_congr {sock' : SocketObject} (h : QueueInv sock pending)
    (hmax : sock'.backlogMax = sock.backlogMax) (hhead : sock'.backlogHead = sock.backlogHead)
    (hcount : sock'.pendingClientCount = sock.pendingClientCount)
    (hslots : sock'.pendingClientEndpoints = sock.pendingClientEndpoints)
    (hstate : sock'.state = .listening ∨ sock'.state = .connecting ∨ sock'.state = .connected) :
    QueueInv sock' pending := by
  obtain ⟨hpos, hlt, hcount', hle, hslots', _⟩ := h
  refine ⟨?_, ?_, ?_, ?_, ?_, hstate⟩
  · rw [hmax]
    exact hpos
  · rw [hmax, hhead]
    exact hlt
  · rw [hcount, hmax, hhead]
    exact hcount'
  · rw [hmax]
    exact hle
  · rw [hslots, hmax, hhead]
    exact hslots'

theorem backlogInv_assignPort {s : BacklogSystem} (h : BacklogInv pid fd server s) (client : Nat) :
    BacklogInv pid fd server { s with net := assignPort s.net client } := by
  refine ⟨?_, ?_, h.clients⟩
  · unfold assignPort
    dsimp only
    apply serverProcess_modifySocket
    · exact ⟨h.process.fd_range, h.process.process, h.process.owner, h.process.bound⟩
    · exact fun _ => ⟨Iff.rfl, rfl⟩
  · obtain ⟨port, hport⟩ := assignPort_sockets s.net client server
    dsimp only
    rw [hport]
    exact queueInv_congr h.queue rfl rfl rfl rfl h.queue.state

theorem serverProcess_linkPending (h : ServerProcess s pid fd server)
    (hprocess : s.process targetPid = some sProcess) (slot f client target : Nat) :
    ServerProcess (linkPending s targetPid sProcess slot f client target) pid fd server := by
  unfold linkPending
  apply serverProcess_modifySocket
  · apply serverProcess_modifySocket
    · exact serverProcess_setObject h hprocess f
    · exact fun _ => ⟨Iff.rfl, rfl⟩
  · exact fun _ => ⟨Iff.rfl, rfl⟩

theorem link_linkPending (s : NetState) (targetPid : Int) (sProcess : Process)
    (slot f client target : Nat) :
    ((linkPending s targetPid sProcess slot f client target).sockets client).link =
      some target := by
  unfold linkPending
  dsimp only
  rw [sockets_modifySocket]
  split
  · rename_i heq
    rw [← heq]
    rfl
  · rw [sockets_modifySocket, if_pos rfl]

theorem queueInv_linkPending (h : QueueInv (s.sockets server) pending) (targetPid : Int)
    (sProcess : Process) (slot f client target : Nat)
    (hstate : (s.sockets client).state = .unconnected)
    (hlt : pending.length < (s.sockets server).backlogMax) :
    QueueInv ((linkPending s targetPid sProcess slot f client target).sockets server)
      (pending ++ if target = server then [client] else []) := by
  have hne : server ≠ client := by
    rintro rfl
    have hserver := h.state
    rw [hstate] at hserver
    rcases hserver with hserver | hserver | hserver <;> cases hserver
  unfold linkPending
  dsimp only
  rw [sockets_modifySocket, sockets_modifySocket]
  split
  · rename_i heq
    subst heq
    rw [if_neg hne, if_pos rfl, sockets_setObject]
    apply queueInv_pushPending
    · exact queueInv_congr h rfl rfl rfl rfl (.inr (.inl rfl))
    · exact hlt
  · rename_i htarget
    rw [sockets_modifySocket, if_neg hne, if_neg (Ne.symm htarget), List.append_nil]
    exact h

theorem backlogInv_connectTo {s : BacklogSystem} (h : BacklogInv pid fd server s)
    (hlt : s.pending.length < (s.net.sockets server).backlogMax)
    (hconnect : connectTo noSlot s.net cpid cfd targetPid = .ok (rc, t)) :
    BacklogInv pid fd server
      ⟨t, s.pending ++ (connectedTo server s.net cpid cfd rc t).toList⟩ := by
  rcases connectTo_cases hconnect with ⟨hrc, rfl⟩ |
    ⟨client, hsocket, hstate, ⟨hrc, rfl⟩ | ⟨sProcess, slot, f, target, rfl, hf, hp, hpriv, rfl⟩⟩
  · rw [connectedTo, if_neg hrc, Option.toList_none, List.append_nil]
    exact h
  · rw [connectedTo, if_neg hrc, Option.toList_none, List.append_nil]
    exact backlogInv_assignPort h client
  · have hassign := backlogInv_assignPort h client
    obtain ⟨port, hport⟩ := assignPort_sockets s.net client client
    obtain ⟨port', hport'⟩ := assignPort_sockets s.net client server
    have hqueue := queueInv_linkPending hassign.queue targetPid sProcess slot f client
      target (by rw [hport]; exact hstate) (by rw [hport']; exact hlt)
    have hlist : (connectedTo server s.net cpid cfd 0
        (linkPending (assignPort s.net client) targetPid sProcess slot f client target)).toList =
          if target = server then [client] else [] := by
      rw [connectedTo, if_pos rfl, hsocket]
      rcases eq_or_ne target server with heq | hne
      · rw [Option.filter_some, link_linkPending, if_pos (by rw [heq]; exact decide_eq_true rfl),
          if_pos heq, Option.toList_some]
      · rw [Option.filter_some, link_linkPending, if_neg (by simpa using hne), if_neg hne,
          Option.toList_none]
    rw [hlist]
    refine ⟨serverProcess_linkPending hassign.process hp slot f client target, hqueue, ?_⟩
    intro client' hclient'
    rw [List.mem_append] at hclient'
    rcases hclient' with hold | hnew
    · exact h.clients client' hold
    · split at hnew
      · rw [List.mem_singleton] at hnew
        rw [hnew]
        exact ⟨f, hf⟩
      · cases hnew

theorem backlogInv_connectWith {s : BacklogSystem} (h : BacklogInv pid fd server s)
    (hlt : s.pending.length < (s.net.sockets server).backlogMax) {addr : Option SockAddr}
    (hconnect : connectWith target noSlot s.net cpid cfd addr = .ok (rc, t)) :
    BacklogInv pid fd server
      ⟨t, s.pending ++ (connectedTo server s.net cpid cfd rc t).toList⟩ := by
  have hfailed : rc ≠ 0 → t = s.net → BacklogInv pid fd server
      ⟨t, s.pending ++ (connectedTo server s.net cpid cfd rc t).toList⟩ := by
    rintro hrc rfl
    rw [connectedTo, if_neg hrc, Option.toList_none, List.append_nil]
    exact h
  unfold connectWith at hconnect
  split at hconnect
  · cases hconnect
    exact hfailed (by decide) rfl
  cases addr with
  | none =>
      cases hconnect
      exact hfailed (by decide) rfl
  | some addr =>
      dsimp only at hconnect
      split at hconnect
      · cases hconnect
        exact hfailed (by decide) rfl
      · exact backlogInv_connectTo h hlt hconnect

theorem acceptClient_spec {f : Nat} (h : ServerProcess s pid fd server)
    (hqueue : QueueInv (s.sockets server) pending) (hprocess : s.process pid = some sProcess)
    (hf : (s.files f).socket = some client) :
    ∃ t, acceptClient s pid sProcess client = .ok (31, t) ∧
      socketOf t pid 31 = some client ∧ ServerProcess t pid fd server ∧
      QueueInv (t.sockets server) pending ∧
      ∀ f', (t.files f').socket = (s.files f').socket := by
  let s1 := s.modifySocket client fun sock => { sock with state := .connected }
  have hs1 : ServerProcess s1 pid fd server := by
    apply serverProcess_modifySocket h
    exact fun _ => ⟨Iff.rfl, rfl⟩
  obtain ⟨_, fp, hfp, hsocket⟩ := hs1.bound f client hf
  let s2 := s1.setObject pid sProcess 31 fp
  let t : NetState :=
    { s2 with files := Function.update s2.files fp { s2.files fp with file := 31 } }
  have hfiles : ∀ f', (t.files f').socket = (s.files f').socket := by
    intro f'
    change (Function.update s.files fp { s.files fp with file := 31 } f').socket = _
    rcases eq_or_ne f' fp with rfl | hne
    · rw [Function.update_self]
    · rw [Function.update_of_ne hne]
  refine ⟨t, ?_, ?_, ?_, ?_, hfiles⟩
  · unfold acceptClient
    dsimp only
    rw [hfp]
  · have hobject : t.process pid =
        some { sProcess with objects := Function.update sProcess.objects 31 (some fp) } := by
      have hprocess1 : s1.process pid = some sProcess := hprocess
      change (s1.setObject pid sProcess 31 fp).process pid = _
      rw [process_setObject hprocess1, if_pos rfl]
    rw [socketOf, hobject, Option.bind_some]
    change (Option.bind (Function.update sProcess.objects 31 (some fp) 31) _) = _
    rw [Function.update_self, Option.bind_some, hfiles]
    exact hsocket
  · exact serverProcess_setFileNumber (serverProcess_setObject hs1 hprocess fp) fp 31
  · change QueueInv (s1.sockets server) pending
    rw [sockets_modifySocket]
    split
    · rename_i heq
      rw [← heq]
      exact queueInv_congr hqueue rfl rfl rfl rfl (.inr (.inr rfl))
    · exact hqueue

theorem backlogInv_acceptPending {s : BacklogSystem} (h : BacklogInv pid fd server s)
    (hpending : s.pending = client :: pending) (hprocess : s.net.process pid = some sProcess) :
    ∃ t, acceptPending s.net pid sProcess server = .ok (31, t) ∧
      socketOf t pid 31 = some client ∧ BacklogInv pid fd server ⟨t, pending⟩ := by
  have hqueue := h.queue
  rw [hpending] at hqueue
  obtain ⟨hlt, hfirst, hrest⟩ := queueInv_advanceHead hqueue
  obtain ⟨f, hf⟩ := h.clients client (by rw [hpending]; exact List.mem_cons_self)
  have hnet : ServerProcess (advanceHead s.net server) pid fd server := by
    apply serverProcess_modifySocket h.process
    exact fun _ => ⟨Iff.rfl, rfl⟩
  obtain ⟨hvalid, _⟩ := hnet.bound f client hf
  obtain ⟨t, haccept, hsocket, ht, htqueue, hfiles⟩ := acceptClient_spec hnet hrest hprocess hf
  refine ⟨t, ?_, hsocket, ht, htqueue, ?_⟩
  · unfold acceptPending
    dsimp only
    rw [if_pos hqueue.state, if_neg (not_le_of_gt hlt), hfirst]
    dsimp only
    rw [if_neg (not_not_intro hvalid), haccept]
  · intro client' hclient'
    obtain ⟨f', hf'⟩ := h.clients client' (by rw [hpending]; exact List.mem_cons_of_mem _ hclient')
    exact ⟨f', (hfiles f').trans hf'⟩

theorem acceptImp_eq (h : ServerProcess s pid fd server) (haddr : FLOWERTHREAD_BASE ≤ addr)
    (haddrlen : addrlen ≠ 0) :
    ∃ sProcess, s.process pid = some sProcess ∧
      acceptImp s pid fd addr addrlen = acceptPending s pid sProcess server := by
  obtain ⟨p, f, hp, hused, hmagic, _, hobject, hvalid, htype, haccept, hsocket⟩ := h.process
  have hrange := h.fd_range
  have hpos : 0 < FLOWERTHREAD_BASE := by decide
  have hmax : OPEN_MAX = 32 := rfl
  have his : ¬ isSocket (s.files f) = false := by
    rw [isSocket, hvalid.2, htype]
    decide
  have hcan : ¬ (s.files f).sync.canAccept = false := by
    rw [haccept]
    decide
  refine ⟨p, hp, ?_⟩
  unfold acceptImp
  rw [if_neg (by omega), if_neg (by omega), if_neg (by omega), if_neg haddrlen, hp]
  dsimp only
  rw [if_neg (not_not_intro ⟨hused, hmagic⟩), hobject]
  dsimp only
  rw [if_neg (not_not_intro hvalid), if_neg his, if_neg hcan, hsocket]
  dsimp only
  rw [if_neg (not_not_intro (h.bound f server hsocket).1)]

theorem backlogInv_accept {s : BacklogSystem} (h : BacklogInv pid fd server s)
    (hturn : InTurn server s (.accept addr addrlen))
    (haccept : acceptImp s.net pid fd addr addrlen = .ok (rc, t)) :
    (rc ≠ 31 ∧ t = s.net ∧ (addr = 0 ∨ addrlen = 0)) ∨
    ∃ client pending, s.pending = client :: pending ∧ rc = 31 ∧
      socketOf t pid 31 = some client ∧ BacklogInv pid fd server ⟨t, pending⟩ := by
  have hrange := h.process.fd_range
  have hmax : OPEN_MAX = 32 := rfl
  rcases eq_or_ne addr 0 with haddr | haddr
  · unfold acceptImp at haccept
    rw [if_neg (by omega), if_pos haddr] at haccept
    cases haccept
    exact .inl ⟨by decide, rfl, .inl haddr⟩
  rcases lt_or_ge addr FLOWERTHREAD_BASE with hring | hring
  · unfold acceptImp at haccept
    rw [if_neg (by omega), if_neg haddr, if_pos hring] at haccept
    cases haccept
  rcases eq_or_ne addrlen 0 with hlen | hlen
  · unfold acceptImp at haccept
    rw [if_neg (by omega), if_neg haddr, if_neg (not_lt_of_ge hring), if_pos hlen] at haccept
    cases haccept
    exact .inl ⟨by decide, rfl, .inr hlen⟩
  obtain ⟨sProcess, hprocess, heq⟩ := acceptImp_eq h.process hring hlen
  obtain ⟨client, pending, hpending⟩ := List.exists_cons_of_ne_nil (hturn haddr hlen)
  obtain ⟨t', hstep, hsocket, hinv⟩ := backlogInv_acceptPending h hpending hprocess
  rw [heq, hstep] at haccept
  cases haccept
  exact .inr ⟨client, pending, hpending, rfl, hsocket, hinv⟩

/-- Whether a call has found an answer for the server: an `accept` with valid arguments
returns a connection. -/
def Served : BacklogCall → BacklogOutcome → Prop
  | .accept addr addrlen, out => addr ≠ 0 → addrlen ≠ 0 → out.result = 31 ∧ out.connection.isSome
  | _, _ => True

theorem recordConnect_ok {s t : BacklogSystem} {result : Except String (Int × NetState)}
    (h : recordConnect server s pid fd result = .ok (out, t)) :
    ∃ rc net, result = .ok (rc, net) ∧ out = ⟨rc, connectedTo server s.net pid fd rc net⟩ ∧
      t = ⟨net, s.pending ++ (connectedTo server s.net pid fd rc net).toList⟩ := by
  cases result with
  | error e => cases h
  | ok pair =>
      cases h
      exact ⟨_, _, rfl, rfl, rfl⟩

theorem backlogStep_spec {s t : BacklogSystem} (h : BacklogInv pid fd server s)
    (hturn : InTurn server s call) (hstep : backlogStep pid fd server s call = .ok (out, t)) :
    s.pending ++ connected call out = accepted call out ++ t.pending ∧ Served call out ∧
      BacklogInv pid fd server t := by
  cases call with
  | connectInet cpid cfd addr =>
      obtain ⟨rc, net, hconnect, rfl, rfl⟩ := recordConnect_ok hstep
      exact ⟨rfl, trivial, backlogInv_connectWith h hturn hconnect⟩
  | connectLocal cpid cfd addr =>
      obtain ⟨rc, net, hconnect, rfl, rfl⟩ := recordConnect_ok hstep
      exact ⟨rfl, trivial, backlogInv_connectWith h hturn hconnect⟩
  | accept addr addrlen =>
      rw [backlogStep] at hstep
      split at hstep
      · cases hstep
      · rename_i rc net haccept
        cases hstep
        rcases backlogInv_accept h hturn haccept with
          ⟨hrc, rfl, harg⟩ | ⟨client, pending, hpending, rfl, hsocket, hinv⟩
        · rw [if_neg hrc]
          refine ⟨List.append_nil _, ?_, h⟩
          intro haddr haddrlen
          rcases harg with hzero | hzero
          · exact absurd hzero haddr
          · exact absurd hzero haddrlen
        · rw [if_pos rfl, hsocket]
          have hrest : s.pending.diff (some client).toList = pending := by
            rw [hpending, Option.toList_some, List.diff_cons, List.erase_cons_head, List.diff_nil]
          rw [hrest]
          refine ⟨?_, fun _ _ => ⟨rfl, rfl⟩, hinv⟩
          change s.pending ++ [] = [client] ++ pending
          rw [hpending, List.append_nil]
          rfl

def Taken (s t : NetState) : Prop :=
  ∀ sock, (s.sockets sock).state ≠ .unconnected → (t.sockets sock).state ≠ .unconnected

theorem taken_modifySocket (s : NetState) (sock : Nat)
    (hg : (s.sockets sock).state ≠ .unconnected → (g (s.sockets sock)).state ≠ .unconnected) :
    Taken s (s.modifySocket sock g) := by
  intro sock' hstate
  rw [sockets_modifySocket]
  split
  · rename_i heq
    rw [heq] at hstate
    exact hg hstate
  · exact hstate

theorem Taken.trans {u : NetState} (hst : Taken s t) (htu : Taken t u) : Taken s u :=
  fun sock hstate => htu sock (hst sock hstate)

theorem taken_assignPort (s : NetState) (client : Nat) : Taken s (assignPort s client) := by
  intro sock hstate
  obtain ⟨port, hport⟩ := assignPort_sockets s client sock
  rw [hport]
  exact hstate

theorem taken_linkPending (s : NetState) (targetPid : Int) (sProcess : Process)
    (slot f client server : Nat) :
    Taken s (linkPending s targetPid sProcess slot f client server) ∧
      ((linkPending s targetPid sProcess slot f client server).sockets client).state ≠
        .unconnected := by
  have hconnecting : SocketState.connecting ≠ .unconnected := by decide
  constructor
  · unfold linkPending
    have hobject : Taken s (s.setObject targetPid sProcess 31 f) := fun _ hstate => hstate
    apply hobject.trans
    exact (taken_modifySocket _ client fun _ => hconnecting).trans
      (taken_modifySocket _ server fun _ => hconnecting)
  · unfold linkPending
    apply taken_modifySocket _ server fun _ => hconnecting
    rw [sockets_modifySocket, if_pos rfl]
    exact hconnecting

theorem taken_connectWith {addr : Option SockAddr}
    (h : connectWith target noSlot s pid fd addr = .ok (rc, t)) :
    Taken s t ∧ ∀ client ∈ connectedTo server s pid fd rc t,
      (s.sockets client).state = .unconnected ∧ (t.sockets client).state ≠ .unconnected := by
  have hfailed : rc ≠ 0 → Taken s t → Taken s t ∧ ∀ client ∈ connectedTo server s pid fd rc t,
        (s.sockets client).state = .unconnected ∧ (t.sockets client).state ≠ .unconnected := by
    intro hrc htaken
    refine ⟨htaken, ?_⟩
    rw [connectedTo, if_neg hrc]
    rintro client ⟨⟩
  have hrefl : Taken s s := fun _ hstate => hstate
  unfold connectWith at h
  split at h
  · cases h
    exact hfailed (by decide) hrefl
  cases addr with
  | none =>
      cases h
      exact hfailed (by decide) hrefl
  | some addr =>
      dsimp only at h
      split at h
      · cases h
        exact hfailed (by decide) hrefl
      rcases connectTo_cases h with ⟨hrc, rfl⟩ |
        ⟨client, hsocket, hstate, ⟨hrc, rfl⟩ |
          ⟨sProcess, slot, f, srv, rfl, hf, hp, hpriv, rfl⟩⟩
      · exact hfailed hrc hrefl
      · exact hfailed hrc (taken_assignPort s client)
      · obtain ⟨hlink, hnew⟩ := taken_linkPending (assignPort s client) _ sProcess slot f client srv
        refine ⟨(taken_assignPort s client).trans hlink, ?_⟩
        intro client' hclient'
        rw [connectedTo, if_pos rfl, hsocket] at hclient'
        obtain rfl := Option.mem_some_iff.mp (Option.mem_filter_iff.mp hclient').1
        exact ⟨hstate, hnew⟩

theorem taken_acceptClient {pending : Nat} (h : acceptClient s pid sProcess pending = .ok (rc, t)) :
    Taken s t := by
  have hconnected : SocketState.connected ≠ .unconnected := by decide
  unfold acceptClient at h
  dsimp only at h
  split at h
  · cases h
  · cases h
    exact taken_modifySocket s pending (g := fun sock => { sock with state := .connected })
      fun _ => hconnected

theorem taken_acceptPending (h : acceptPending s pid sProcess listening = .ok (rc, t)) :
    Taken s t := by
  have hconnected : SocketState.connected ≠ .unconnected := by decide
  have hadvance : Taken s (advanceHead s listening) :=
    taken_modifySocket s listening fun _ => hconnected
  unfold acceptPending at h
  dsimp only at h
  split at h
  · rename_i hstate
    have hrestore : Taken (advanceHead s listening)
        (restoreState (advanceHead s listening) listening (s.sockets listening).state) := by
      apply taken_modifySocket
      intro _ hunconnected
      dsimp only at hunconnected
      rw [hunconnected] at hstate
      rcases hstate with hstate | hstate | hstate <;> cases hstate
    split at h
    · cases h
    split at h
    · cases h
      exact hadvance.trans hrestore
    split at h
    · cases h
      exact hadvance.trans hrestore
    · exact hadvance.trans (taken_acceptClient h)
  · cases h
    exact fun _ hstate => hstate

theorem acceptImp_cases (h : acceptImp s pid fd addr addrlen = .ok (rc, t)) : (rc ≠ 31 ∧ t = s) ∨
      ∃ sProcess listening, s.process pid = some sProcess ∧ sProcess.used = true ∧
        sProcess.magic = 1234 ∧ acceptPending s pid sProcess listening = .ok (rc, t) := by
  unfold acceptImp at h
  split at h
  · cases h
    exact .inl ⟨by decide, rfl⟩
  split at h
  · cases h
    exact .inl ⟨by decide, rfl⟩
  split at h
  · cases h
  split at h
  · cases h
    exact .inl ⟨by decide, rfl⟩
  split at h
  · cases h
    exact .inl ⟨by decide, rfl⟩
  rename_i sProcess hprocess
  split at h
  · cases h
    exact .inl ⟨by decide, rfl⟩
  rename_i hvalid
  obtain ⟨hused, hmagic⟩ := not_not.mp hvalid
  split at h
  · cases h
    exact .inl ⟨by decide, rfl⟩
  split at h
  · cases h
    exact .inl ⟨by decide, rfl⟩
  split at h
  · cases h
    exact .inl ⟨by decide, rfl⟩
  split at h
  · cases h
    exact .inl ⟨by decide, rfl⟩
  split at h
  · cases h
    exact .inl ⟨by decide, rfl⟩
  split at h
  · cases h
    exact .inl ⟨by decide, rfl⟩
  · exact .inr ⟨sProcess, _, hprocess, hused, hmagic, h⟩

theorem taken_acceptImp (h : acceptImp s pid fd addr addrlen = .ok (rc, t)) : Taken s t := by
  rcases acceptImp_cases h with ⟨_, rfl⟩ | ⟨_, _, _, _, _, hpending⟩
  · exact fun _ hstate => hstate
  · exact taken_acceptPending hpending

theorem backlogStep_taken {s t : BacklogSystem}
    (hstep : backlogStep pid fd server s call = .ok (out, t)) :
    Taken s.net t.net ∧ (connected call out).Nodup ∧ ∀ client ∈ connected call out,
      (s.net.sockets client).state = .unconnected ∧
        (t.net.sockets client).state ≠ .unconnected := by
  have hsingle : ∀ client : Option Nat, client.toList.Nodup := by
    rintro (_ | client)
    · exact List.nodup_nil
    · exact List.pairwise_singleton _ client
  cases call with
  | connectInet cpid cfd addr =>
      obtain ⟨rc, net, hconnect, rfl, rfl⟩ := recordConnect_ok hstep
      obtain ⟨htaken, hclient⟩ := taken_connectWith hconnect
      exact ⟨htaken, hsingle _, fun client hmem => hclient client (Option.mem_toList.mp hmem)⟩
  | connectLocal cpid cfd addr =>
      obtain ⟨rc, net, hconnect, rfl, rfl⟩ := recordConnect_ok hstep
      obtain ⟨htaken, hclient⟩ := taken_connectWith hconnect
      exact ⟨htaken, hsingle _, fun client hmem => hclient client (Option.mem_toList.mp hmem)⟩
  | accept addr addrlen =>
      rw [backlogStep] at hstep
      split at hstep
      · cases hstep
      · rename_i rc net haccept
        cases hstep
        refine ⟨taken_acceptImp haccept, List.nodup_nil, ?_⟩
        rintro client ⟨⟩

theorem connected_nodup {s u : BacklogSystem} {calls : List BacklogCall}
    {outs : List BacklogOutcome}
    (hrun : Run.run (backlogStep pid fd server) s calls = .ok (outs, u)) :
    (∀ client ∈ Run.gather connected calls outs, (s.net.sockets client).state = .unconnected) ∧
    (Run.gather connected calls outs).Nodup := by
  induction calls generalizing s outs with
  | nil =>
      cases hrun
      exact ⟨fun client hmem => (by cases hmem), List.nodup_nil⟩
  | cons call calls ih =>
      obtain ⟨out, t, outs', hstep, htail, rfl⟩ := Run.run_cons_ok hrun
      obtain ⟨htaken, hnodup, hclient⟩ := backlogStep_taken hstep
      obtain ⟨hlater, hrest⟩ := ih htail
      have hbefore : ∀ client ∈ Run.gather connected calls outs',
          (s.net.sockets client).state = .unconnected := by
        intro client hmem
        by_contra hne
        exact htaken client hne (hlater client hmem)
      rw [Run.gather_cons]
      constructor
      · intro client hmem
        rcases List.mem_append.mp hmem with hmem | hmem
        · exact (hclient client hmem).1
        · exact hbefore client hmem
      · rw [List.nodup_append]
        refine ⟨hnodup, hrest, ?_⟩
        rintro client hmem client' hmem' rfl
        exact (hclient client hmem).2 (hlater client hmem')

/-- A listening socket as `listen` finds it: new, with nothing removed from its backlog. -/
structure NewServer (s : NetState) (pid fd : Int) (server : Nat) : Prop where
  process : ServerProcess s pid fd server
  head : (s.sockets server).backlogHead = 0

theorem listenImp_inv {backlog : Int} (h : NewServer s pid fd server)
    (hlisten : listenImp s pid fd backlog = .ok (rc, t)) :
    (t.sockets server).backlogMax = (max 1 (min backlog 31)).toNat ∧
      BacklogInv pid fd server ⟨t, []⟩ := by
  have hserver := h.process
  have hrange := hserver.fd_range
  have hmax : OPEN_MAX = 32 := rfl
  obtain ⟨p, f, hp, hused, hmagic, hpriv, hobject, hvalid, htype, haccept, hsocket⟩ :=
    hserver.process
  have his : ¬ isSocket (s.files f) = false := by
    rw [isSocket, hvalid.2, htype]
    decide
  unfold listenImp at hlisten
  rw [if_neg (by omega), hp] at hlisten
  dsimp only at hlisten
  rw [hobject] at hlisten
  dsimp only at hlisten
  rw [if_neg his, hsocket] at hlisten
  dsimp only at hlisten
  rw [hpriv, if_neg (not_not_intro rfl)] at hlisten
  have hclamp : (if 32 ≤ (if backlog ≤ 0 then 1 else backlog) then 31
      else (if backlog ≤ 0 then 1 else backlog)) = max 1 (min backlog 31) := by
    split <;> split <;> omega
  rw [hclamp] at hlisten
  cases hlisten
  have hpos : 0 < (max 1 (min backlog 31)).toNat := by omega
  rw [sockets_modifySocket, if_pos rfl]
  refine ⟨rfl, ?_, ?_, ?_⟩
  · dsimp only
    apply serverProcess_modifySocket hserver
    exact fun _ => ⟨Iff.rfl, rfl⟩
  · dsimp only
    rw [sockets_modifySocket, if_pos rfl]
    refine ⟨hpos, ?_, ?_, Nat.zero_le _, rfl, .inl rfl⟩
    · dsimp only
      rw [h.head]
      exact hpos
    · dsimp only
      rw [h.head]
      exact (Nat.zero_mod _).symm
  · rintro client ⟨⟩

/-- In every run of connects and accepts after `listen` in which each connect finds room
and each accept a pending connection, the connections are accepted in the order in which
they were made and each at most once, those not yet accepted are all in the backlog, and
every accept with valid arguments returns one. -/
theorem backlog_run_fifo {s t : NetState} {pid fd backlog rc : Int} {server : Nat}
    (hnew : NewServer s pid fd server) (hlisten : listenImp s pid fd backlog = .ok (rc, t))
    {calls : List BacklogCall}
    (hturn : Run.Guarded (backlogStep pid fd server) (InTurn server) ⟨t, []⟩ calls)
    {outs : List BacklogOutcome} {u : BacklogSystem}
    (hrun : Run.run (backlogStep pid fd server) ⟨t, []⟩ calls = .ok (outs, u)) :
    Run.gather connected calls outs = Run.gather accepted calls outs ++ u.pending ∧
      (Run.gather connected calls outs).Nodup ∧
      (let sock := u.net.sockets server
       Ring.window sock.pendingClientEndpoints sock.backlogMax (sock.backlogHead + 1)
         u.pending.length = u.pending.map some) ∧
      List.Forall₂ Served calls outs := by
  obtain ⟨_, hinit⟩ := listenImp_inv hnew hlisten
  have hstep : ∀ s call out t, BacklogInv pid fd server s → InTurn server s call →
      backlogStep pid fd server s call = .ok (out, t) →
      s.pending ++ connected call out = accepted call out ++ t.pending ∧ Served call out ∧
        BacklogInv pid fd server t :=
    fun s call out t hs hguard hst => backlogStep_spec hs hguard hst
  have hfifo := Run.run_fifo (BacklogInv pid fd server) BacklogSystem.pending connected
    accepted
    (fun s call out t hs hguard hst =>
      ⟨(hstep s call out t hs hguard hst).1, (hstep s call out t hs hguard hst).2.2⟩)
    hinit hturn hrun
  have hserved := Run.run_forall₂ (BacklogInv pid fd server) Served
    (fun s call out t hs hguard hst => (hstep s call out t hs hguard hst).2) hinit hturn hrun
  have hu := Run.run_invariant (BacklogInv pid fd server)
    (fun s call out t hs hguard hst => (hstep s call out t hs hguard hst).2.2) hinit hturn hrun
  exact ⟨hfifo, (connected_nodup hrun).2, hu.queue.slots, hserved⟩

/-- A machine with the processes 1, 2 and 3, each with a socket at descriptor 3, and the
first of them behind every Gramado port. -/
def threeProcesses : NetState where
  teList pid :=
    if 1 ≤ pid ∧ pid ≤ 3 then
      some
        { used := true, magic := 1234, priv := some pid,
          objects := fun fd => if fd = 3 then some pid else none }
    else none
  files f := if 1 ≤ f ∧ f ≤ 3 then Io.SocketFile.socketFile f 3 0x1000 fun _ => 0 else zeroFile
  sockets sock := { createSocketObject with privateFile := some sock }
  gramadoPorts _ := 1
  newClientPortNumber := 0

def dsAddr : SockAddr
  | 0 => 0x40
  | 1 => 0x1F
  | 2 => 0x64
  | 3 => 0x73
  | _ => 0

theorem threeProcesses_newServer : NewServer threeProcesses 1 3 1 := by
  refine ⟨⟨by decide, ⟨_, 1, rfl, rfl, rfl, rfl, rfl, ⟨rfl, rfl⟩, rfl, rfl, rfl⟩, ?_, ?_⟩, rfl⟩
  · intro pid p hp hpriv
    unfold NetState.process threeProcesses at hp
    dsimp only at hp
    split at hp
    · cases hp
    · split at hp
      · cases hp
        have heq : pid.toNat = 1 := Option.some.inj hpriv
        omega
      · cases hp
  · intro f sock hsock
    unfold threeProcesses at hsock ⊢
    dsimp only at hsock ⊢
    split at hsock
    · rename_i hf
      cases hsock
      refine ⟨⟨rfl, rfl⟩, f, rfl, ?_⟩
      rw [if_pos hf]
      rfl
    · cases hsock

def threeListening : NetState :=
  match listenImp threeProcesses 1 3 5 with
  | .ok (_, t) => t
  | .error _ => threeProcesses

theorem backlog_run_fifo_example :
    ∃ outs u, listenImp threeProcesses 1 3 5 = .ok (0, threeListening) ∧
      Run.run (backlogStep 1 3 1) ⟨threeListening, []⟩
        [.connectLocal 2 3 (some dsAddr), .connectLocal 3 3 (some dsAddr),
          .accept 0x200000 0x200010, .accept 0x200000 0x200010] = .ok (outs, u) ∧
      List.Forall₂ Served
        [.connectLocal 2 3 (some dsAddr), .connectLocal 3 3 (some dsAddr),
          .accept 0x200000 0x200010, .accept 0x200000 0x200010] outs := by
  have hlisten : listenImp threeProcesses 1 3 5 = .ok (0, threeListening) := rfl
  have hrun : Run.run (backlogStep 1 3 1) ⟨threeListening, []⟩
      [.connectLocal 2 3 (some dsAddr), .connectLocal 3 3 (some dsAddr),
        .accept 0x200000 0x200010, .accept 0x200000 0x200010] = .ok (_, _) := rfl
  exact ⟨_, _, hlisten, hrun,
    (backlog_run_fifo threeProcesses_newServer hlisten (by decide) hrun).2.2.2⟩

/-- The bound under which no connection may be lost: each connect finds room. -/
def HasRoom (server : Nat) (s : BacklogSystem) : BacklogCall → Prop
  | .accept _ _ => True
  | _ => s.pending.length < (s.net.sockets server).backlogMax

instance (server : Nat) (s : BacklogSystem) : ∀ call, Decidable (HasRoom server s call)
  | .connectInet _ _ _ => inferInstanceAs (Decidable (_ < _))
  | .connectLocal _ _ _ => inferInstanceAs (Decidable (_ < _))
  | .accept _ _ => inferInstanceAs (Decidable True)

/-- An `accept` that finds nothing pending moves the removal index all the same, so that of
two connections made after it the second is accepted first. -/
theorem accept_out_of_order :
    ¬ ∀ (calls : List BacklogCall) (outs : List BacklogOutcome) (u : BacklogSystem),
      Run.Guarded (backlogStep 1 3 1) (HasRoom 1) ⟨threeListening, []⟩ calls →
      Run.run (backlogStep 1 3 1) ⟨threeListening, []⟩ calls = .ok (outs, u) →
      Run.gather accepted calls outs <+: Run.gather connected calls outs := by
  intro hclaim
  have hprefix := hclaim
    [.accept 0x200000 0x200010, .connectLocal 2 3 (some dsAddr),
      .connectLocal 3 3 (some dsAddr), .accept 0x200000 0x200010] _ _ (by decide) rfl
  exact absurd hprefix (by decide)

end Gramado.Net.Backlog
