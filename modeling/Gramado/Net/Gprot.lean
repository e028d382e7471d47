import Gramado.Net.Receive

/-! The Gramado protocol: what a host answers to a message on its port, and the exchange of
messages between two such hosts. -/

namespace Gramado.Net.Gprot

open Library.CheckedRead Net.Receive

def OurPort : UInt16 := 11888
def MessageSize : Nat := 256

structure Datagram where
  sport : UInt16
  dport : UInt16
  data : List UInt8
  deriving DecidableEq

/-- What the handler reads of its host: `dhcp_info.initialized`, and whether
`InputTargets` has a thread queue. -/
structure Host where
  dhcpInitialized : Bool
  targetThreadQueue : Bool
  deriving DecidableEq

/-- The result of the handler, its buffer afterwards, what it sends, and whether it posts a
message to the display server. -/
structure Handling where
  result : Int
  buf : List UInt8
  sent : Option Datagram
  posted : Bool
  deriving DecidableEq

def textBytes (s : String) : List UInt8 :=
  s.toList.map fun c => .ofNat c.toNat

/-- `ksprintf` of a text without `%`. It writes no zero behind the text. -/
def ksprintf (buf : List UInt8) (position : Nat) (s : String) : List UInt8 :=
  buf.take position ++ textBytes s ++ buf.drop (position + (textBytes s).length)

/-- `memset(buf, 0, sizeof(buf))`, where `buf` is a pointer. -/
def clear (buf : List UInt8) : List UInt8 :=
  List.replicate 8 0 ++ buf.drop 8

def respond (buf : List UInt8) (code text : String) : List UInt8 :=
  ksprintf (ksprintf (clear buf) 0 code) 4 text

def gprotResponseFile : String :=
  "<html><head></head><body><span>This is the Gramado Kernel</span></body></html>"

def isCode (buf : List UInt8) (c : Char) : Bool :=
  buf.getD 0 0 = .ofNat 'g'.toNat ∧ buf.getD 1 0 = .ofNat ':'.toNat ∧
    buf.getD 2 0 = .ofNat c.toNat

def done (buf : List UInt8) (sport dport : UInt16) : Handling where
  result := 0
  buf := buf
  sent := some ⟨dport, sport, buf.take MessageSize⟩
  posted := false

def gprotHandleProtocol (host : Host) (buf : List UInt8) (sport dport : UInt16) : Handling :=
  if host.dhcpInitialized = false then ⟨-1, buf, none, false⟩
  else if dport ≠ OurPort then ⟨-1, buf, none, false⟩
  else if isCode buf '/' then done (respond buf "g:1 " gprotResponseFile) sport dport
  else if isCode buf 'x' then
    { done (respond buf "g:1 " "Gramado OS received a g:x request\n") sport dport with
      posted := host.targetThreadQueue }
  else if isCode buf '0' then
    done (respond buf "g:1 " "This is a response from Gramado OS\n") sport dport
  else if isCode buf '1' then done (respond buf "g:a " "ACK\n") sport dport
  else if isCode buf '2' then done (respond buf "g:a " "ACK\n") sport dport
  else if isCode buf '3' then done (respond buf "g:a " "ACK\n") sport dport
  else if isCode buf '4' then done (respond buf "g:0 " "exit") sport dport
  else done (ksprintf (clear buf) 0 "g:3 ") sport dport

structure Exchange where
  receiver : Host
  sender : Host
  message : Datagram

/-- The receiver answers, and the answer is on its way back. The handler gets the text at the
data of the message, where `rest` is what the receiver's memory holds behind the data. -/
inductive Answers : Exchange → Exchange → Prop
  | reply {receiver sender : Host} {m answer : Datagram} (rest : List UInt8)
      (hsent : (gprotHandleProtocol receiver (received (text (m.data ++ rest))) m.sport
        m.dport).sent = some answer) :
      Answers ⟨receiver, sender, m⟩ ⟨sender, receiver, answer⟩

/-- Only finitely many messages are exchanged, whatever the memory of the hosts holds. -/
def FinitelyMany (e : Exchange) : Prop :=
  Acc (fun next e => Answers e next) e

def start (sender receiver : Host) (sport : UInt16) (data : List UInt8) : Exchange :=
  ⟨receiver, sender, sport, OurPort, data⟩

variable {host : Host} {e : Exchange}

theorem gprotHandleProtocol_sent (hhost : host.dhcpInitialized = true) (buf : List UInt8)
    (sport : UInt16) :
    ∃ data, (gprotHandleProtocol host buf sport OurPort).sent = some ⟨OurPort, sport, data⟩ := by
  unfold gprotHandleProtocol
  rw [hhost, if_neg (by decide), if_neg (by decide)]
  repeat' split
  all_goals exact ⟨_, rfl⟩

theorem gprotHandleProtocol_silent {buf : List UInt8} {sport dport : UInt16}
    (h : host.dhcpInitialized = false ∨ dport ≠ OurPort) :
    (gprotHandleProtocol host buf sport dport).sent = none := by
  unfold gprotHandleProtocol
  split
  · rfl
  · rename_i hhost
    rw [if_pos (h.resolve_left hhost)]

theorem finitelyMany_of_silent {receiver sender : Host} {m : Datagram}
    (h : receiver.dhcpInitialized = false ∨ m.dport ≠ OurPort) :
    FinitelyMany ⟨receiver, sender, m⟩ := by
  constructor
  intro next hnext
  cases hnext with
  | reply rest hsent =>
      rw [gprotHandleProtocol_silent h] at hsent
      cases hsent

/-- A message that comes from the protocol's port and goes to it, between hosts that both have
an address. -/
structure Endless (e : Exchange) : Prop where
  receiver : e.receiver.dhcpInitialized = true
  sender : e.sender.dhcpInitialized = true
  sport : e.message.sport = OurPort
  dport : e.message.dport = OurPort

theorem Endless.answers (h : Endless e) : ∃ next, Answers e next ∧ Endless next := by
  obtain ⟨receiver, sender, sport, dport, data⟩ := e
  obtain ⟨hreceiver, hsender, hsport, hdport⟩ := h
  dsimp only at hreceiver hsender hsport hdport
  subst hsport hdport
  obtain ⟨answer, hsent⟩ := gprotHandleProtocol_sent hreceiver (received (text (data ++ []))) OurPort
  exact ⟨_, .reply [] hsent, hsender, hreceiver, rfl, rfl⟩

theorem Endless.not_finitelyMany (h : Endless e) : ¬ FinitelyMany e := by
  intro hfinite
  induction hfinite with
  | intro e _ ih =>
      obtain ⟨next, hanswers, hnext⟩ := h.answers
      exact ih next hanswers hnext

/-- The exchange ends if and only if the first message comes from another port, or one of the
hosts has no address. -/
theorem finitelyMany_iff (sender receiver : Host) (sport : UInt16) (data : List UInt8) :
    FinitelyMany (start sender receiver sport data) ↔
      sport ≠ OurPort ∨ sender.dhcpInitialized = false ∨ receiver.dhcpInitialized = false := by
  constructor
  · intro hfinite
    by_contra hcontra
    simp only [not_or, not_not, Bool.not_eq_false] at hcontra
    obtain ⟨hsport, hsender, hreceiver⟩ := hcontra
    exact Endless.not_finitelyMany ⟨hreceiver, hsender, hsport, rfl⟩ hfinite
  · intro h
    rcases Bool.eq_false_or_eq_true receiver.dhcpInitialized with hreceiver | hreceiver
    · constructor
      intro next hnext
      cases hnext with
      | reply rest hsent =>
          obtain ⟨answer, hanswer⟩ :=
            gprotHandleProtocol_sent hreceiver (received (text (data ++ rest))) sport
          obtain rfl := Option.some.inj (hanswer.symm.trans hsent)
          rcases h with hsport | hsender | hdown
          · exact finitelyMany_of_silent (.inr hsport)
          · exact finitelyMany_of_silent (.inl hsender)
          · rw [hreceiver] at hdown
            cases hdown
    · exact finitelyMany_of_silent (.inl hreceiver)

def connectedHost : Host := ⟨true, false⟩

/-- A request from the protocol's port is never done with: the answer is acknowledged, and
the hosts go on to acknowledge errors and to call acknowledgements errors. -/
theorem request_not_finitelyMany :
    ¬ ∀ (sender receiver : Host) (sport : UInt16) (data : List UInt8),
      FinitelyMany (start sender receiver sport data) := by
  intro hclaim
  have hfinite := hclaim connectedHost connectedHost OurPort (textBytes "g:0 ")
  exact Endless.not_finitelyMany ⟨rfl, rfl, rfl, rfl⟩ hfinite

end Gramado.Net.Gprot
