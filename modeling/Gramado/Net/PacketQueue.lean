import Gramado.Library.Ring
import Gramado.Library.Run

/-! The queue of received packets, `nb_rx_11888`. -/

namespace Gramado.Net.PacketQueue

open Library Library.Run

def DEFAULT_NUMBER_OF_NETWORK_BUFFERS : Nat := 32
def MAX_LEN : Int := 1500

/-- `network_buffer_d`. A payload buffer is the page that its pointer names. -/
structure NetworkBuffer where
  initialized : Bool
  receiveTail : Nat
  receiveHead : Nat
  payloadPtr : Nat → Option (Nat → UInt8)
  isFull : Nat → Bool

/-- What `netInitialize` makes of 32 new pages, which it does not clear. -/
def netInitialize (pages : Nat → Nat → UInt8) : NetworkBuffer where
  initialized := true
  receiveTail := 0
  receiveHead := 0
  payloadPtr i := some (pages i)
  isFull _ := false

def limitLength (len : Int) : Int :=
  if MAX_LEN < len then MAX_LEN else len

def advance (position : Nat) : Nat :=
  if DEFAULT_NUMBER_OF_NETWORK_BUFFERS ≤ position + 1 then 0 else position + 1

/-- `memcpy` into a page. The copy of a negative length does not end. -/
def copyPacket (page src : Nat → UInt8) (len : Nat) (i : Nat) : UInt8 :=
  if i < len then src i else page i

def packetBytes (page : Nat → UInt8) (len : Nat) : List UInt8 :=
  (List.range len).map page

def storePacket (nb : NetworkBuffer) (tail : Nat) (page : Option (Nat → UInt8)) :
    NetworkBuffer :=
  { nb with
    receiveTail := advance tail
    payloadPtr := Function.update nb.payloadPtr tail page
    isFull := Function.update nb.isFull tail true }

def networkPushPacket (nb : NetworkBuffer) (srcBuffer : Option (Nat → UInt8)) (len : Int) :
    Except String (Int × NetworkBuffer) :=
  match srcBuffer with
  | none => .error "network_push_packet: src_buffer\n"
  | some src =>
      let len := limitLength len
      if nb.initialized = false then
        .error "network_push_packet: buffers not initialized\n"
      else if DEFAULT_NUMBER_OF_NETWORK_BUFFERS ≤ nb.receiveTail then
        .error "network_push_packet: tail\n"
      else
        match nb.payloadPtr nb.receiveTail with
        | none => .ok (len, storePacket nb nb.receiveTail none)
        | some page =>
            if len < 0 then .error "memcpy"
            else .ok (len, storePacket nb nb.receiveTail (some (copyPacket page src len.toNat)))

/-- The result of a pop and the bytes that it stores in the user's buffer. -/
structure PopOutcome where
  result : Int
  bytes : List UInt8
  deriving DecidableEq, Repr

def skipSlot (nb : NetworkBuffer) : NetworkBuffer :=
  { nb with receiveHead := advance nb.receiveHead }

def clearSlot (nb : NetworkBuffer) : NetworkBuffer :=
  { nb with
    receiveHead := advance nb.receiveHead
    isFull := Function.update nb.isFull nb.receiveHead false }

def networkPopPacket (nb : NetworkBuffer) (uBuffer : Nat) (len : Int) :
    Except String (PopOutcome × NetworkBuffer) :=
  if uBuffer = 0 then .error "network_pop_packet: [FAIL] u_buffer\n"
  else
    let len := limitLength len
    if nb.initialized = false then
      .error "network_pop_packet: Shared buffers not initialized\n"
    else if DEFAULT_NUMBER_OF_NETWORK_BUFFERS ≤ nb.receiveHead then
      .error "network_push_packet: head\n"
    else if nb.isFull nb.receiveHead = false then .ok (⟨0, []⟩, skipSlot nb)
    else
      match nb.payloadPtr nb.receiveHead with
      | none => .ok (⟨len, []⟩, skipSlot nb)
      | some page =>
          if len < 0 then .error "memcpy"
          else .ok (⟨len, packetBytes page len.toNat⟩, clearSlot nb)

/-- The queue and the packets that have been pushed and not popped yet, the oldest first. -/
structure PacketSystem where
  queue : NetworkBuffer
  pending : List (List UInt8)

inductive PacketCall where
  | push (srcBuffer : Option (Nat → UInt8)) (len : Int)
  | pop (uBuffer : Nat) (len : Int)

/-- The result of a call, and the packets that it puts in and takes out of the queue. -/
structure PacketOutcome where
  result : Int
  pushed : List (List UInt8)
  popped : List (List UInt8)
  deriving DecidableEq, Repr

def pushedBytes (srcBuffer : Option (Nat → UInt8)) (rc : Int) : List (List UInt8) :=
  srcBuffer.toList.map fun src => packetBytes src rc.toNat

def packetStep (s : PacketSystem) : PacketCall → Except String (PacketOutcome × PacketSystem)
  | .push srcBuffer len =>
      match networkPushPacket s.queue srcBuffer len with
      | .error e => .error e
      | .ok (rc, queue) =>
          .ok (⟨rc, pushedBytes srcBuffer rc, []⟩, ⟨queue, s.pending ++ pushedBytes srcBuffer rc⟩)
  | .pop uBuffer len =>
      match networkPopPacket s.queue uBuffer len with
      | .error e => .error e
      | .ok (out, queue) =>
          let popped := if s.queue.isFull s.queue.receiveHead = true then [out.bytes] else []
          .ok (⟨out.result, [], popped⟩, ⟨queue, s.pending.drop popped.length⟩)

/-- A push finds at most 31 packets in the queue; a pop finds one and asks for its length. -/
def Paced (s : PacketSystem) : PacketCall → Prop
  | .push _ _ => s.pending.length < DEFAULT_NUMBER_OF_NETWORK_BUFFERS
  | .pop _ len => ∃ packet ∈ s.pending.head?, limitLength len = packet.length

instance (s : PacketSystem) : ∀ call, Decidable (Paced s call)
  | .push _ _ => inferInstanceAs (Decidable (_ < _))
  | .pop _ len =>
      match h : s.pending.head? with
      | none => isFalse (by simp [Paced, h])
      | some packet =>
          decidable_of_iff (limitLength len = packet.length) (by simp [Paced, h])

def Holds (nb : NetworkBuffer) (slot : Nat) (packet : List UInt8) : Prop :=
  nb.isFull slot = true ∧
    ∃ page, nb.payloadPtr slot = some page ∧ packetBytes page packet.length = packet

/-- The pending packets are in the slots from the head on. -/
structure QueueInv (nb : NetworkBuffer) (pending : List (List UInt8)) : Prop where
  initialized : nb.initialized = true
  pages : ∀ i < DEFAULT_NUMBER_OF_NETWORK_BUFFERS, ∃ page, nb.payloadPtr i = some page
  head_lt : nb.receiveHead < DEFAULT_NUMBER_OF_NETWORK_BUFFERS
  length_le : pending.length ≤ DEFAULT_NUMBER_OF_NETWORK_BUFFERS
  tail_eq : nb.receiveTail =
    (nb.receiveHead + pending.length) % DEFAULT_NUMBER_OF_NETWORK_BUFFERS
  holds : ∀ i packet, pending[i]? = some packet →
    Holds nb ((nb.receiveHead + i) % DEFAULT_NUMBER_OF_NETWORK_BUFFERS) packet

theorem advance_eq (position : Nat) :
    advance position = Ring.next DEFAULT_NUMBER_OF_NETWORK_BUFFERS position := rfl

@[simp] theorem packetBytes_length (page : Nat → UInt8) (len : Nat) :
    (packetBytes page len).length = len := by
  rw [packetBytes, List.length_map, List.length_range]

theorem packetBytes_copyPacket (page src : Nat → UInt8) (len : Nat) :
    packetBytes (copyPacket page src len) len = packetBytes src len := by
  apply List.map_congr_left
  intro i hi
  exact if_pos (List.mem_range.mp hi)

theorem queueInv_netInitialize (pages : Nat → Nat → UInt8) : QueueInv (netInitialize pages) [] where
  initialized := rfl
  pages i _ := ⟨pages i, rfl⟩
  head_lt := Nat.zero_lt_succ 31
  length_le := by decide
  tail_eq := rfl
  holds i packet h := by simp at h

variable {nb nb' : NetworkBuffer} {packet : List UInt8} {pending : List (List UInt8)} {len : Int}

theorem Holds.store {slot tail : Nat} {page : Option (Nat → UInt8)} (h : Holds nb slot packet)
    (hne : slot ≠ tail) :
    Holds (storePacket nb tail page) slot packet := by
  obtain ⟨hfull, page', hpage, hbytes⟩ := h
  exact ⟨(Function.update_of_ne hne ..).trans hfull, page',
    (Function.update_of_ne hne ..).trans hpage, hbytes⟩

theorem queueInv_push (h : QueueInv nb pending)
    (hroom : pending.length < DEFAULT_NUMBER_OF_NETWORK_BUFFERS) (page src : Nat → UInt8)
    (len : Nat) :
    QueueInv (storePacket nb nb.receiveTail (some (copyPacket page src len)))
      (pending ++ [packetBytes src len]) := by
  have htail : nb.receiveTail < DEFAULT_NUMBER_OF_NETWORK_BUFFERS := by
    rw [h.tail_eq]
    exact Nat.mod_lt _ (by decide)
  have hlength : (pending ++ [packetBytes src len]).length = pending.length + 1 := by simp
  constructor
  · exact h.initialized
  · intro i hi
    rcases eq_or_ne i nb.receiveTail with rfl | hne
    · exact ⟨_, Function.update_self ..⟩
    · obtain ⟨page', hpage⟩ := h.pages i hi
      exact ⟨page', (Function.update_of_ne hne ..).trans hpage⟩
  · exact h.head_lt
  · rw [hlength]
    exact hroom
  · change advance nb.receiveTail = _
    rw [advance_eq, Ring.next_eq_mod htail, h.tail_eq, hlength, Nat.mod_add_mod, Nat.add_assoc]
    rfl
  · intro i packet hi
    change Holds _ ((nb.receiveHead + i) % DEFAULT_NUMBER_OF_NETWORK_BUFFERS) packet
    rcases Nat.lt_or_ge i pending.length with hlt | hge
    · rw [List.getElem?_append_left hlt] at hi
      apply (h.holds i packet hi).store
      rw [h.tail_eq]
      exact Ring.offset_ne hlt hroom
    · rw [List.getElem?_append_right hge, List.getElem?_singleton] at hi
      split at hi
      · rename_i hzero
        obtain rfl : i = pending.length := by omega
        cases hi
        rw [← h.tail_eq]
        refine ⟨Function.update_self .., _, Function.update_self .., ?_⟩
        rw [packetBytes_length, packetBytes_copyPacket]
      · cases hi

theorem queueInv_pop (h : QueueInv nb (packet :: pending)) : QueueInv (clearSlot nb) pending := by
  have hle := h.length_le
  rw [List.length_cons] at hle
  have hnext : advance nb.receiveHead =
      (nb.receiveHead + 1) % DEFAULT_NUMBER_OF_NETWORK_BUFFERS := Ring.next_eq_mod h.head_lt
  constructor
  · exact h.initialized
  · exact h.pages
  · exact Ring.next_lt h.head_lt
  · omega
  · change nb.receiveTail = (advance nb.receiveHead + pending.length) % _
    rw [hnext, Nat.mod_add_mod, h.tail_eq, List.length_cons]
    congr 1
    omega
  · intro i packet' hi
    change Holds _ ((advance nb.receiveHead + i) % _) packet'
    have hslot : (advance nb.receiveHead + i) % DEFAULT_NUMBER_OF_NETWORK_BUFFERS =
        (nb.receiveHead + (i + 1)) % DEFAULT_NUMBER_OF_NETWORK_BUFFERS := by
      rw [hnext, Nat.mod_add_mod, Nat.add_assoc, Nat.add_comm 1]
    obtain ⟨hfull, page, hpage, hbytes⟩ := h.holds (i + 1) packet' hi
    have hi' := (List.getElem?_eq_some_iff.mp hi).1
    have hne : (nb.receiveHead + (i + 1)) % DEFAULT_NUMBER_OF_NETWORK_BUFFERS ≠
        nb.receiveHead := by
      have hoffset : (nb.receiveHead + 0) % DEFAULT_NUMBER_OF_NETWORK_BUFFERS ≠
          (nb.receiveHead + (i + 1)) % DEFAULT_NUMBER_OF_NETWORK_BUFFERS :=
        Ring.offset_ne (Nat.succ_pos i) (by omega)
      rw [Nat.add_zero, Nat.mod_eq_of_lt h.head_lt] at hoffset
      exact hoffset.symm
    rw [hslot]
    exact ⟨(Function.update_of_ne hne ..).trans hfull, page, hpage, hbytes⟩

theorem networkPushPacket_ok {srcBuffer : Option (Nat → UInt8)} {rc : Int}
    (hinv : QueueInv nb pending) (h : networkPushPacket nb srcBuffer len = .ok (rc, nb')) :
    ∃ src page, srcBuffer = some src ∧ rc = limitLength len ∧ 0 ≤ rc ∧
      nb' = storePacket nb nb.receiveTail (some (copyPacket page src rc.toNat)) := by
  have htail : nb.receiveTail < DEFAULT_NUMBER_OF_NETWORK_BUFFERS := by
    rw [hinv.tail_eq]
    exact Nat.mod_lt _ (by decide)
  unfold networkPushPacket at h
  split at h
  · cases h
  rename_i src
  dsimp only at h
  split at h
  · cases h
  split at h
  · cases h
  split at h
  · rename_i hnone
    obtain ⟨page, hpage⟩ := hinv.pages _ htail
    rw [hnone] at hpage
    cases hpage
  · rename_i page _
    split at h
    · cases h
    · rename_i hlen
      cases h
      exact ⟨src, page, rfl, rfl, not_lt.mp hlen, rfl⟩

theorem networkPopPacket_ok {uBuffer : Nat} {out : PopOutcome}
    (hinv : QueueInv nb (packet :: pending)) (hlen : limitLength len = packet.length)
    (h : networkPopPacket nb uBuffer len = .ok (out, nb')) :
    nb.isFull nb.receiveHead = true ∧ out = ⟨packet.length, packet⟩ ∧ nb' = clearSlot nb := by
  obtain ⟨hfull, page, hpage, hbytes⟩ := hinv.holds 0 packet rfl
  rw [Nat.add_zero, Nat.mod_eq_of_lt hinv.head_lt] at hfull hpage
  unfold networkPopPacket at h
  split at h
  · cases h
  dsimp only at h
  rw [hlen] at h
  split at h
  · cases h
  split at h
  · cases h
  rw [if_neg (by simp [hfull]), hpage] at h
  dsimp only at h
  rw [if_neg (by omega)] at h
  cases h
  rw [Int.toNat_natCast, hbytes]
  exact ⟨hfull, rfl, rfl⟩

def Served : PacketCall → PacketOutcome → Prop
  | .push _ _, _ => True
  | .pop _ _, out => ∃ packet, out.popped = [packet] ∧ out.result = packet.length

def SystemInv (s : PacketSystem) : Prop :=
  QueueInv s.queue s.pending

theorem packetStep_fifo {s t : PacketSystem} {call : PacketCall} {out : PacketOutcome}
    (hinv : SystemInv s) (hpaced : Paced s call) (hstep : packetStep s call = .ok (out, t)) :
    s.pending ++ out.pushed = out.popped ++ t.pending ∧ Served call out ∧ SystemInv t := by
  cases call with
  | push srcBuffer len =>
      rw [packetStep] at hstep
      split at hstep
      · cases hstep
      · rename_i rc queue hpush
        cases hstep
        obtain ⟨src, page, rfl, _, _, rfl⟩ := networkPushPacket_ok hinv hpush
        exact ⟨rfl, trivial, queueInv_push hinv hpaced page src rc.toNat⟩
  | pop uBuffer len =>
      obtain ⟨packet, hpacket, hlen⟩ := hpaced
      obtain ⟨queue, pending⟩ := s
      cases pending with
      | nil => cases hpacket
      | cons packet' pending =>
          obtain rfl : packet' = packet := Option.some.inj hpacket
          rw [packetStep] at hstep
          split at hstep
          · cases hstep
          · rename_i out' queue' hpop
            obtain ⟨hfull, rfl, rfl⟩ := networkPopPacket_ok hinv hlen hpop
            dsimp only at hstep
            rw [if_pos hfull] at hstep
            cases hstep
            exact ⟨by simp, ⟨packet', rfl, rfl⟩, queueInv_pop hinv⟩

/-- The packets of a run: every pop returns the oldest one that has not been returned, whole
and with its length, and the packets that have not been returned are in their slots. -/
theorem packet_run_fifo (pages : Nat → Nat → UInt8) {calls : List PacketCall}
    {outs : List PacketOutcome} {s : PacketSystem}
    (hpaced : Guarded packetStep Paced ⟨netInitialize pages, []⟩ calls)
    (hrun : run packetStep ⟨netInitialize pages, []⟩ calls = .ok (outs, s)) :
    (outs.map PacketOutcome.pushed).flatten =
        (outs.map PacketOutcome.popped).flatten ++ s.pending ∧
      List.Forall₂ Served calls outs ∧ QueueInv s.queue s.pending := by
  have hstart : SystemInv ⟨netInitialize pages, []⟩ := queueInv_netInitialize pages
  have hfifo := run_fifo SystemInv PacketSystem.pending (fun _ out => out.pushed)
    (fun _ out => out.popped)
    (fun s call out t hs hp hstep => by
      obtain ⟨hqueue, _, ht⟩ := packetStep_fifo hs hp hstep
      exact ⟨hqueue, ht⟩) hstart hpaced hrun
  have hserved := run_forall₂ SystemInv Served
    (fun s call out t hs hp hstep => (packetStep_fifo hs hp hstep).2) hstart hpaced hrun
  have hlast := run_invariant SystemInv
    (fun s call out t hs hp hstep => (packetStep_fifo hs hp hstep).2.2) hstart hpaced hrun
  refine ⟨?_, hserved, hlast⟩
  rw [gather_outputs hserved.length_eq, gather_outputs hserved.length_eq] at hfifo
  exact hfifo

/-- Push two packets, one of them of two bytes and one of three, and pop both. -/
def pushPush : List PacketCall :=
  [.push (some fun _ => 1) 2, .push (some fun _ => 2) 3, .pop 0x200000 2, .pop 0x200000 3]

theorem packet_run_fifo_example :
    ∃ outs s, run packetStep ⟨netInitialize fun _ _ => 0, []⟩ pushPush = .ok (outs, s) ∧
      List.Forall₂ Served pushPush outs :=
  ⟨_, _, rfl, (packet_run_fifo (fun _ _ => 0) (by decide) rfl).2.1⟩

/-- A pop of an empty queue moves the head, so that the packet pushed first is skipped. -/
theorem pop_out_of_order :
    ∃ outs s, run packetStep ⟨netInitialize fun _ _ => 0, []⟩
        [.pop 0x200000 2, .push (some fun _ => 1) 2, .push (some fun _ => 2) 2,
          .pop 0x200000 2] = .ok (outs, s) ∧
      (outs.map PacketOutcome.pushed).flatten = [[1, 1], [2, 2]] ∧
        (outs.map PacketOutcome.popped).flatten = [[2, 2]] :=
  ⟨_, _, rfl, rfl, rfl⟩

end Gramado.Net.PacketQueue
