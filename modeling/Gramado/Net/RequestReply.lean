import Gramado.Io.MessageSlot
import Gramado.Net.Backlog

namespace Gramado.Net.RequestReply

open Library Io.FileObject Io.SocketFile Io.MessageSlot Net.Socket Net.Backlog

section

variable (otherWrite : File → (Nat → UInt8) → Int → Except String (IoResult × File))
variable (otherRead : File → Int → Except String (IoResult × File))

def sysWrite (s : NetState) (pid tid fd : Int) (ubuf : Option (Nat → UInt8)) (count : Int) :
    Except String (IoResult × NetState) :=
  match s.process pid with
  | none => .ok (⟨-1, [], []⟩, s)
  | some p =>
      if ¬ (p.used = true ∧ p.magic = 1234) then .ok (⟨-1, [], []⟩, s)
      else
        match p.objects fd.toNat with
        | none => .ok (⟨noFile fd ubuf.isSome count, [], []⟩, s)
        | some f =>
            match writeImp otherWrite tid fd (s.files f) ubuf count with
            | .error e => .error e
            | .ok (out, fp) => .ok (out, { s with files := Function.update s.files f fp })

def sysRead (s : NetState) (pid tid fd : Int) (ubuf : Bool) (count : Int) :
    Except String (IoResult × NetState) :=
  match s.process pid with
  | none => .ok (⟨-1, [], []⟩, s)
  | some p =>
      if ¬ (p.used = true ∧ p.magic = 1234) then .ok (⟨-1, [], []⟩, s)
      else
        match p.objects fd.toNat with
        | none => .ok (⟨noFile fd ubuf count, [], []⟩, s)
        | some f =>
            match readImp otherRead tid fd (s.files f) ubuf count with
            | .error e => .error e
            | .ok (out, fp) => .ok (out, { s with files := Function.update s.files f fp })

end

/-- A client that names its socket file by `clientFd` and a server that names it by 31. -/
structure Connection where
  clientPid : Int
  clientFd : Int
  serverPid : Int
  clientFd_range : 0 ≤ clientFd ∧ clientFd < 31

inductive Endpoint where
  | client
  | server
  deriving DecidableEq, Repr

def Connection.pid (c : Connection) : Endpoint → Int
  | .client => c.clientPid
  | .server => c.serverPid

def Connection.fd (c : Connection) : Endpoint → Int
  | .client => c.clientFd
  | .server => 31

/-- The machine and the process that wrote the message pending in the shared file. -/
structure ExchangeSystem where
  net : NetState
  writer : Option Int

inductive ExchangeCall where
  | write (e : Endpoint) (tid : Int) (ubuf : Option (Nat → UInt8)) (count : Int)
  | read (e : Endpoint) (tid : Int) (ubuf : Bool) (count : Int)

section

variable (otherWrite : File → (Nat → UInt8) → Int → Except String (IoResult × File))
variable (otherRead : File → Int → Except String (IoResult × File))

def exchangeStep (c : Connection) (s : ExchangeSystem) :
    ExchangeCall → Except String (IoResult × ExchangeSystem)
  | .write e tid ubuf count =>
      match sysWrite otherWrite s.net (c.pid e) tid (c.fd e) ubuf count with
      | .error e => .error e
      | .ok (out, net) =>
          .ok (out, ⟨net, if 0 < out.result then some (c.pid e) else s.writer⟩)
  | .read e tid ubuf count =>
      match sysRead otherRead s.net (c.pid e) tid (c.fd e) ubuf count with
      | .error e => .error e
      | .ok (out, net) => .ok (out, ⟨net, if 0 < out.result then none else s.writer⟩)

/-- Whatever the call returns, it is no message that the calling process wrote. -/
def NotOwnMessage (c : Connection) (s : ExchangeSystem) (call : ExchangeCall) : Prop :=
  ∀ out t, exchangeStep otherWrite otherRead c s call = .ok (out, t) →
    match call with
    | .write _ _ _ _ => True
    | .read e _ _ _ => 0 < out.result → s.writer ≠ some (c.pid e)

end

def WaitsForReply (c : Connection) (s : ExchangeSystem) : ExchangeCall → Prop
  | .write _ _ _ _ => True
  | .read e _ ubuf count => s.writer = some (c.pid e) → Passes (c.fd e) ubuf count →
      count % 0x10000 = 0 ∨ (BUFSIZ : Int) < count % 0x10000

instance (c : Connection) (s : ExchangeSystem) : ∀ call, Decidable (WaitsForReply c s call)
  | .write _ _ _ _ => inferInstanceAs (Decidable True)
  | .read _ _ _ _ => inferInstanceAs (Decidable (_ → _ → _))

def WrittenBy (f : File) (writer : Option Int) : Prop :=
  SocketReady f ∧ ∃ slot, Holds f slot ∧ (writer ≠ none ↔ ∃ message, slot = .full message)

/-- A process that names the file `f` by the descriptor `fd`. -/
def Names (s : NetState) (pid fd : Int) (f : Nat) : Prop :=
  ∃ p, s.process pid = some p ∧ p.used = true ∧ p.magic = 1234 ∧ p.objects fd.toNat = some f

/-- Both endpoints name one file, in which the recorded process has written. -/
structure ExchangeInv (c : Connection) (f : Nat) (s : ExchangeSystem) : Prop where
  names : ∀ e, Names s.net (c.pid e) (c.fd e) f
  written : WrittenBy (s.net.files f) s.writer

variable {c : Connection} {f : Nat} {s : ExchangeSystem} {fp : File} {writer : Option Int}
  {pid fd : Int} {out : IoResult} {t : NetState}

theorem exchangeInv_update (h : ExchangeInv c f s) (hfp : WrittenBy fp writer) : ExchangeInv c f
      ⟨{ s.net with files := Function.update s.net.files f fp }, writer⟩ := by
  refine ⟨h.names, ?_⟩
  dsimp only
  rw [Function.update_self]
  exact hfp

section

variable (otherWrite : File → (Nat → UInt8) → Int → Except String (IoResult × File))
variable (otherRead : File → Int → Except String (IoResult × File))

theorem sysWrite_eq {s : NetState} (h : Names s pid fd f) (tid : Int) (ubuf : Option (Nat → UInt8))
    (count : Int) (hwrite : writeImp otherWrite tid fd (s.files f) ubuf count = .ok (out, fp)) :
    sysWrite otherWrite s pid tid fd ubuf count =
      .ok (out, { s with files := Function.update s.files f fp }) := by
  obtain ⟨p, hp, hused, hmagic, hobject⟩ := h
  unfold sysWrite
  rw [hp]
  dsimp only
  rw [if_neg (not_not_intro ⟨hused, hmagic⟩), hobject]
  dsimp only
  rw [hwrite]

theorem sysRead_eq {s : NetState} (h : Names s pid fd f) (tid : Int) (ubuf : Bool) (count : Int)
    (hread : readImp otherRead tid fd (s.files f) ubuf count = .ok (out, fp)) :
    sysRead otherRead s pid tid fd ubuf count =
      .ok (out, { s with files := Function.update s.files f fp }) := by
  obtain ⟨p, hp, hused, hmagic, hobject⟩ := h
  unfold sysRead
  rw [hp]
  dsimp only
  rw [if_neg (not_not_intro ⟨hused, hmagic⟩), hobject]
  dsimp only
  rw [hread]

theorem exchangeStep_write (h : ExchangeInv c f s) (e : Endpoint) (tid : Int)
    (ubuf : Option (Nat → UInt8)) (count : Int) :
    ∃ out t, exchangeStep otherWrite otherRead c s (.write e tid ubuf count) = .ok (out, t) ∧
      ExchangeInv c f t := by
  obtain ⟨hready, slot, hholds, hwriter⟩ := h.written
  obtain ⟨out, fp, slot', hwrite, hfp, hholds', heffect⟩ :=
    writeImp_effect otherWrite tid (c.fd e) hready hholds ubuf count
  rw [exchangeStep, sysWrite_eq otherWrite (h.names e) tid ubuf count hwrite]
  refine ⟨_, _, rfl, exchangeInv_update h ⟨hfp, slot', hholds', ?_⟩⟩
  cases heffect with
  | failed _ hresult _ =>
      rw [if_neg (not_lt_of_ge hresult)]
      exact hwriter
  | written p hubuf hpasses hlt hresult =>
      rw [if_pos (by rw [hresult]; exact hpasses.2.2)]
      exact ⟨fun _ => ⟨_, rfl⟩, fun _ => Option.some_ne_none _⟩
  | oversized hpasses hge hresult =>
      rw [if_neg (not_lt_of_ge hresult)]
      constructor
      · intro hsome
        obtain ⟨message, hmessage⟩ := hwriter.mp hsome
        cases hmessage
      · rintro ⟨message, hmessage⟩
        cases hmessage

theorem exchangeStep_read (h : ExchangeInv c f s) (e : Endpoint) (tid : Int) (ubuf : Bool)
    (count : Int) :
    ∃ out t, exchangeStep otherWrite otherRead c s (.read e tid ubuf count) = .ok (out, t) ∧
      ExchangeInv c f t ∧
      (0 < out.result ↔ s.writer ≠ none ∧ Passes (c.fd e) ubuf count ∧
        ¬ (count % 0x10000 = 0 ∨ (BUFSIZ : Int) < count % 0x10000)) := by
  obtain ⟨hready, slot, hholds, hwriter⟩ := h.written
  obtain ⟨out, fp, slot', hread, hfp, hholds', heffect⟩ :=
    readImp_effect otherRead tid (c.fd e) hready hholds ubuf count
  rw [exchangeStep, sysRead_eq otherRead (h.names e) tid ubuf count hread]
  refine ⟨_, _, rfl, exchangeInv_update h ⟨hfp, slot', hholds', ?_⟩, ?_⟩
  · cases heffect with
    | failed _ hresult _ =>
        rw [if_neg (not_lt_of_ge hresult)]
        exact hwriter
    | read message hpasses hpos hle hresult hbytes =>
        rw [if_pos (by omega)]
        constructor
        · intro hsome
          exact absurd rfl hsome
        · rintro ⟨message', hmessage'⟩
          cases hmessage'
  · cases heffect with
    | failed _ hresult hfull =>
        constructor
        · intro hpos
          omega
        · rintro ⟨hsome, hpasses, hnot⟩
          exact absurd (hfull (hwriter.mp hsome) hpasses) hnot
    | read message hpasses hpos hle hresult hbytes =>
        constructor
        · intro _
          exact ⟨hwriter.mpr ⟨message, rfl⟩, hpasses, by omega⟩
        · intro _
          omega

theorem exchangeStep_total (h : ExchangeInv c f s) (call : ExchangeCall) :
    ∃ out t, exchangeStep otherWrite otherRead c s call = .ok (out, t) ∧ ExchangeInv c f t := by
  cases call with
  | write e tid ubuf count => exact exchangeStep_write otherWrite otherRead h e tid ubuf count
  | read e tid ubuf count =>
      obtain ⟨out, t, hstep, ht, _⟩ := exchangeStep_read otherWrite otherRead h e tid ubuf count
      exact ⟨out, t, hstep, ht⟩

theorem waitsForReply_iff (h : ExchangeInv c f s) (call : ExchangeCall) :
    WaitsForReply c s call ↔ NotOwnMessage otherWrite otherRead c s call := by
  cases call with
  | write e tid ubuf count =>
      constructor
      · intro _ out t _
        trivial
      · intro _
        trivial
  | read e tid ubuf count =>
      obtain ⟨out, t, hstep, _, hsuccess⟩ :=
        exchangeStep_read otherWrite otherRead h e tid ubuf count
      constructor
      · intro hwaits out' t' hstep' hpos hown
        rw [hstep] at hstep'
        cases hstep'
        obtain ⟨_, hpasses, hnot⟩ := hsuccess.mp hpos
        exact hnot (hwaits hown hpasses)
      · intro hnotOwn hown hpasses
        by_contra hnot
        have hsome : s.writer ≠ none := by
          rw [hown]
          exact Option.some_ne_none _
        exact hnotOwn out t hstep (hsuccess.mpr ⟨hsome, hpasses, hnot⟩) hown

end

theorem acceptPending_result {s : NetState} {sProcess : Process} {listening : Nat}
    (h : acceptPending s pid sProcess listening = .ok (31, t)) :
    ∃ u pending, (∀ pid', u.process pid' = s.process pid') ∧ u.files = s.files ∧
      acceptClient u pid sProcess pending = .ok (31, t) := by
  unfold acceptPending at h
  dsimp only at h
  split at h
  · split at h
    · cases h
    split at h
    · cases h
    split at h
    · cases h
    · exact ⟨advanceHead s listening, _, fun _ => rfl, rfl, h⟩
  · cases h

theorem acceptImp_names {s : NetState} {sfd : Int} {addr addrlen : Nat}
    (h : acceptImp s pid sfd addr addrlen = .ok (31, t))
    (hserver : ∃ p, t.process pid = some p ∧ p.objects 31 = some f) :
    Names t pid 31 f ∧ t.files f = { s.files f with file := 31 } ∧
      ∀ pid' fd g, 0 ≤ fd ∧ fd < 31 → Names s pid' fd g → Names t pid' fd g := by
  rcases acceptImp_cases h with ⟨hrc, _⟩ | ⟨sProcess, listening, hprocess, hused, hmagic, h⟩
  · exact absurd rfl hrc
  obtain ⟨u, pending, hprocesses, hfiles, h⟩ := acceptPending_result h
  unfold acceptClient at h
  dsimp only at h
  split at h
  · cases h
  rename_i fp hfp
  cases h
  have hu : (u.modifySocket pending fun sock => { sock with state := .connected }).process pid =
      some sProcess := by
    rw [process_modifySocket, hprocesses]
    exact hprocess
  have hnew := process_setObject hu 31 fp
  obtain ⟨p, hp, hobject⟩ := hserver
  have hp' := (hnew pid).symm.trans hp
  rw [if_pos rfl] at hp'
  cases hp'
  dsimp only at hobject
  rw [Function.update_self] at hobject
  cases hobject
  have hself : Function.update sProcess.objects 31 (some f) 31 = some f := Function.update_self ..
  refine ⟨⟨_, hp, hused, hmagic, hself⟩, ?_, ?_⟩
  · have hfile : Function.update u.files f { u.files f with file := 31 } f =
        { u.files f with file := 31 } := Function.update_self ..
    exact hfile.trans (by rw [hfiles])
  · rintro pid' fd g ⟨hzero, hlt⟩ ⟨q, hq, hqused, hqmagic, hqobject⟩
    rcases eq_or_ne pid' pid with rfl | hne
    · rw [hprocess] at hq
      cases hq
      have hsame : Function.update sProcess.objects 31 (some f) fd.toNat =
          sProcess.objects fd.toNat := Function.update_of_ne (by omega) ..
      exact ⟨_, hp, hused, hmagic, hsame.trans hqobject⟩
    · refine ⟨q, (hnew pid').trans ?_, hqused, hqmagic, hqobject⟩
      rw [if_neg hne, process_modifySocket, hprocesses]
      exact hq

theorem writtenBy_setNumber {f : File} (h : WrittenBy f writer) :
    WrittenBy { f with file := 31 } writer := by
  obtain ⟨hready, slot, hholds, hwriter⟩ := h
  have hnumber : (3 : Int) ≤ 31 := by decide
  refine ⟨⟨hready.valid, hready.object, hready.canRead, hready.canWrite, hready.lbfsize,
    hnumber⟩, slot, ?_, hwriter⟩
  cases hholds with
  | free hflags hfull => exact .free hflags hfull
  | full message hflags hfull hpos hlen hbuf => exact .full message hflags hfull hpos hlen hbuf
  | stuck hflags => exact .stuck hflags

/-- Between a client and the server that accepted it, whatever the order of their calls, no
call panics; and no process reads its own message exactly in those runs where each process
waits until its message has been read. -/
theorem exchange_run_notOwnMessage
    (otherWrite : File → (Nat → UInt8) → Int → Except String (IoResult × File))
    (otherRead : File → Int → Except String (IoResult × File))
    (c : Connection) {s t : NetState} {sfd : Int} {addr addrlen f : Nat} {w : Option Int}
    (hclient : Names s c.clientPid c.clientFd f) (hfile : WrittenBy (s.files f) w)
    (haccept : acceptImp s c.serverPid sfd addr addrlen = .ok (31, t))
    (hserver : ∃ p, t.process c.serverPid = some p ∧ p.objects 31 = some f)
    (calls : List ExchangeCall) :
    (∃ outs u, Run.run (exchangeStep otherWrite otherRead c) ⟨t, w⟩ calls = .ok (outs, u)) ∧
    (Run.Guarded (exchangeStep otherWrite otherRead c)
        (NotOwnMessage otherWrite otherRead c) ⟨t, w⟩ calls ↔
      Run.Guarded (exchangeStep otherWrite otherRead c) (WaitsForReply c) ⟨t, w⟩ calls) := by
  obtain ⟨hnames, hfiles, hothers⟩ := acceptImp_names haccept hserver
  have hinit : ExchangeInv c f ⟨t, w⟩ := by
    constructor
    · intro e
      cases e with
      | client => exact hothers _ _ _ c.clientFd_range hclient
      | server => exact hnames
    · dsimp only
      rw [hfiles]
      exact writtenBy_setNumber hfile
  constructor
  · obtain ⟨outs, u, hrun, _⟩ := Run.run_total (ExchangeInv c f)
      (fun s call hs (_ : True) => exchangeStep_total otherWrite otherRead hs call) hinit
      (Run.guarded_true _ calls)
    exact ⟨outs, u, hrun⟩
  · apply Run.guarded_congr (ExchangeInv c f) _ _ hinit calls
    · intro s call out u hs hstep
      obtain ⟨out', u', hstep', hu'⟩ := exchangeStep_total otherWrite otherRead hs call
      rw [hstep] at hstep'
      cases hstep'
      exact hu'
    · intro s call hs
      exact (waitsForReply_iff otherWrite otherRead hs call).symm

def twoAndOne : Connection where
  clientPid := 2
  clientFd := 3
  serverPid := 1
  clientFd_range := by decide

def twoConnected : NetState :=
  match connectLocal threeListening 2 3 (some dsAddr) with
  | .ok (_, t) => t
  | .error _ => threeListening

def twoAccepted : NetState :=
  match acceptImp twoConnected 1 3 0x200000 0x200010 with
  | .ok (_, t) => t
  | .error _ => twoConnected

theorem exchange_run_notOwnMessage_example :
    connectLocal threeListening 2 3 (some dsAddr) = .ok (0, twoConnected) ∧
    acceptImp twoConnected 1 3 0x200000 0x200010 = .ok (31, twoAccepted) ∧
    ∀ calls,
      (∃ outs u, Run.run (exchangeStep refuseWrite refuseRead twoAndOne)
        ⟨twoAccepted, none⟩ calls = .ok (outs, u)) ∧
      (Run.Guarded (exchangeStep refuseWrite refuseRead twoAndOne)
          (NotOwnMessage refuseWrite refuseRead twoAndOne) ⟨twoAccepted, none⟩ calls ↔
        Run.Guarded (exchangeStep refuseWrite refuseRead twoAndOne)
          (WaitsForReply twoAndOne) ⟨twoAccepted, none⟩ calls) := by
  have hclient : Names twoConnected 2 3 2 := ⟨_, rfl, rfl, rfl, rfl⟩
  have hfile : WrittenBy (twoConnected.files 2) none := by
    refine ⟨⟨⟨rfl, rfl⟩, rfl, rfl, rfl, rfl, by decide⟩, .free, .free rfl rfl, ?_⟩
    constructor
    · intro hsome
      exact absurd rfl hsome
    · rintro ⟨message, hmessage⟩
      cases hmessage
  have haccept : acceptImp twoConnected 1 3 0x200000 0x200010 = .ok (31, twoAccepted) := rfl
  exact ⟨rfl, haccept, fun calls =>
    exchange_run_notOwnMessage refuseWrite refuseRead twoAndOne hclient hfile haccept
      ⟨_, rfl, rfl⟩ calls⟩

/-- The client writes one byte and reads it back. -/
theorem client_reads_own_message :
    ¬ ∀ calls, Run.Guarded (exchangeStep refuseWrite refuseRead twoAndOne)
      (NotOwnMessage refuseWrite refuseRead twoAndOne) ⟨twoAccepted, none⟩ calls := by
  intro hclaim
  have hread := ((hclaim
    [.write .client 2 (some fun _ => 65) 1, .read .client 2 true 1]).tail rfl).1
  exact hread _ _ rfl (by decide) rfl

end Gramado.Net.RequestReply
