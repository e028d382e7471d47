import Gramado.Net.Receive

/-! The exchange with a DHCP server, from `network_initialize_dhcp` on. -/

namespace Gramado.Net.Dhcp

open Library.CheckedRead Library.Run Net.Frame Net.Nic Net.Receive

def sendDiscovers (ldhcp : Buffer) : Nat → Network → Except Fault Network
  | 0, net => .ok net
  | n + 1, net => do
      let net ← networkDhcpSend net ldhcp 0 DORA_D (fun _ => 0) (fun _ => 0xFF) 68 67
      sendDiscovers ldhcp n net

def resetDhcp (net : Network) : Network :=
  { net with dhcpInfo := { net.dhcpInfo with initialized := false, step := 0 } }

/-- `network_initialize_dhcp`, where the card is marked as initialized or is not. -/
def networkInitializeDhcp (net : Network) (nicInitialized : Bool) (ldhcp : Buffer) :
    Except Fault (Int × Network) :=
  let net := resetDhcp net
  if net.initialized = false then .ok (-1, net)
  else
    match net.currentNIC with
    | none => .ok (-1, net)
    | some nic =>
        if nic.magic ≠ 1234 then .ok (-1, net)
        else if nicInitialized = false then .ok (-1, net)
        else do
          let net ← sendDiscovers ldhcp 5 net
          return (0, net)

/-- A received message: when it is handled, the buffer and where in it the message starts. -/
structure Packet where
  jiffies : UInt64
  buffer : Buffer
  base : Nat
  size : Int

def Packet.messageType (p : Packet) : UInt8 := byte p.buffer (p.base + 242)

def Packet.xid (p : Packet) : UInt32 := word p.buffer (p.base + 4)

def Packet.yourIpv4 (p : Packet) : Ipv4 := addressBytes (word p.buffer (p.base + 16))

def sentFrame (before after : Network) : Option (List UInt8) :=
  match before.currentNIC, after.currentNIC with
  | some nic, some nic' =>
      if nic'.txCur = nic.txCur then none
      else (nic'.txBuffers nic.txCur).map (·.take (nic'.txLengths nic.txCur).toNat)
  | _, _ => none

/-- The transaction id of a message that is sent as a frame, and the address it asks for. -/
def requestXid (frame : List UInt8) : UInt32 := word frame 46

def requestAddress (frame : List UInt8) : Ipv4 := fun i => byte frame (287 + i)

structure Exchange where
  net : Network
  request : Option (List UInt8)

def dhcpStep (s : Exchange) (p : Packet) : Except Fault (Option (List UInt8) × Exchange) := do
  let net ← networkHandleDhcp { s.net with jiffies := p.jiffies } p.buffer p.base p.size
  let sent := sentFrame s.net net
  return (sent, ⟨net, sent.or s.request⟩)

/-- The bytes of a value that the other byte order makes of the generated id. -/
def wireXid (jiffies : UInt64) : UInt32 := toNetByteOrder32 (dhcpXid jiffies)

variable {front frame : List UInt8} {i : Nat} {net net' : Network} {nic : IntelNic} {ldhcp : Buffer}
  {p : Packet} {s : Exchange} {offer : Option Packet}

theorem byte_append_right (rest : List UInt8) (h : front.length ≤ i) :
    byte (front ++ rest) i = byte rest (i - front.length) := by
  rw [byte, byte, List.getD_eq_getElem?_getD, List.getElem?_append_right h,
    List.getD_eq_getElem?_getD]

theorem half_append_right (rest : List UInt8) (h : front.length ≤ i) :
    half (front ++ rest) i = half rest (i - front.length) := by
  rw [half, half, byte_append_right rest h, byte_append_right rest (Nat.le_add_right_of_le h),
    Nat.sub_add_comm h]

theorem word_append_right (rest : List UInt8) (h : front.length ≤ i) :
    word (front ++ rest) i = word rest (i - front.length) := by
  rw [word, word, half_append_right rest h, half_append_right rest (Nat.le_add_right_of_le h),
    Nat.sub_add_comm h]

theorem word_wordBytes (v : UInt32) (rest : List UInt8) : word (wordBytes v ++ rest) 0 = v := by
  have hv := v.toNat_lt
  apply UInt32.toNat_inj.mp
  simp only [word, half, byte, wordBytes, List.cons_append, List.nil_append, List.getD_cons_zero,
    List.getD_cons_succ, UInt8.toNat_ofNat', UInt16.toNat_ofNat', UInt32.toNat_ofNat']
  omega

theorem dhcpHeader_length (net : Network) (nic : IntelNic) (messageType : UInt8) :
    (dhcpHeader net nic messageType).length = 240 := by
  simp only [dhcpHeader, halfBytes, wordBytes, List.length_append, List.length_cons,
    List.length_nil, List.length_replicate, List.length_ofFn]

theorem word_dhcpMessage (net : Network) (nic : IntelNic) (messageType : UInt8)
    (sourceIp targetIp : Ipv4) (old : List UInt8) :
    word (dhcpMessage net nic messageType sourceIp targetIp old) 4 = wireXid net.jiffies := by
  have hfront : dhcpMessage net nic messageType sourceIp targetIp old =
      [1, 1, 6, 0] ++ (wordBytes (wireXid net.jiffies) ++
        (dhcpMessage net nic messageType sourceIp targetIp old).drop 8) := rfl
  rw [hfront, word_append_right _ (Nat.le_refl 4)]
  exact word_wordBytes _ _

theorem byte_dhcpMessage (net : Network) (nic : IntelNic) (sourceIp targetIp : Ipv4)
    (old : List UInt8) (i : Fin 4) :
    byte (dhcpMessage net nic DORA_R sourceIp targetIp old) (245 + i) = sourceIp i := by
  have hlength := dhcpHeader_length net nic DORA_R
  rw [dhcpMessage, List.append_assoc, byte_append_right _ (by omega), hlength,
    Nat.add_comm 245, Nat.add_sub_assoc (by decide)]
  obtain ⟨_ | _ | _ | _ | n, hn⟩ := i
  · rfl
  · rfl
  · rfl
  · rfl
  · omega

def dhcpFrame (net : Network) (nic : IntelNic) (messageType : UInt8) (sourceIp targetIp : Ipv4)
    (old : List UInt8) : List UInt8 :=
  udpFrame (nic.setAddress fun _ => 0) (fun _ => 0) (fun _ => 0xFF) (fun _ => 0xFF) 68 67
    (dhcpMessage net nic messageType sourceIp targetIp old)

theorem frame_fields (net : Network) (nic : IntelNic) (sourceIp targetIp : Ipv4)
    (old : List UInt8) :
    requestXid (dhcpFrame net nic DORA_R sourceIp targetIp old) = wireXid net.jiffies ∧
      requestAddress (dhcpFrame net nic DORA_R sourceIp targetIp old) = sourceIp := by
  have hdata : ∀ data : List UInt8, ∃ front, front.length = 42 ∧
      udpFrame (nic.setAddress fun _ => 0) (fun _ => 0) (fun _ => 0xFF) (fun _ => 0xFF) 68 67
        data = front ++ data := by
    intro data
    refine ⟨_, ?_, rfl⟩
    have hlength := udpFrame_length (nic.setAddress fun _ => 0) (fun _ => 0) (fun _ => 0xFF)
      (fun _ => 0xFF) 68 67 data
    rw [udpFrame, List.length_append] at hlength
    omega
  obtain ⟨front, hfront, hframe⟩ := hdata (dhcpMessage net nic DORA_R sourceIp targetIp old)
  rw [dhcpFrame, hframe]
  constructor
  · rw [requestXid, word_append_right _ (by omega), hfront]
    exact word_dhcpMessage net nic DORA_R sourceIp targetIp old
  · funext i
    rw [requestAddress, byte_append_right _ (by omega), hfront]
    have hfield := byte_dhcpMessage net nic sourceIp targetIp old i
    rwa [show 287 + i.val - 42 = 245 + i.val by omega]

def afterSend (net : Network) (nic : IntelNic) (step : Nat) (frame : List UInt8)
    (buffer : Buffer) : Network :=
  { setStep net step with
    currentNIC := some ((nic.setAddress fun _ => 0).transmit
      (frame ++ buffer.drop (42 + DHCP_SIZE)) (42 + DHCP_SIZE)) }

theorem networkDhcpSend_ok (hnet : Initialized net) (hnic : net.currentNIC = some nic)
    {message : Buffer} {base : Nat} (hroom : base + DHCP_SIZE ≤ message.length)
    {messageType : UInt8} (htype : messageType = DORA_D ∨ messageType = DORA_R)
    (sourceIp targetIp : Ipv4) :
    ∃ buffer, E1000_DEFAULT_BUFFER_SIZE ≤ buffer.length ∧
      networkDhcpSend net message base messageType sourceIp targetIp 68 67 =
        .ok (afterSend net nic (if messageType = DORA_D then 1 else 3)
          (dhcpFrame net nic messageType sourceIp targetIp (slice message base DHCP_SIZE))
          buffer) := by
  have hready := hnet.nic nic hnic
  obtain ⟨buffer, hbuffer, hlen⟩ := hready.txBuffers nic.txCur hready.txCur
  refine ⟨buffer, hlen, ?_⟩
  have hold : (slice message base DHCP_SIZE).length = DHCP_SIZE := by
    rw [slice, List.length_take, List.length_drop]
    omega
  have hdata := dhcpMessage_length (setStep net (if messageType = DORA_D then 1 else 3)) nic
    messageType sourceIp targetIp hold
  have hstep : Initialized (setStep net (if messageType = DORA_D then 1 else 3)) :=
    ⟨hnet.initialized, hnet.unlocked, hnet.nic, hnet.packets, hnet.tail, hnet.pages⟩
  have hfits : 42 + (dhcpMessage (setStep net (if messageType = DORA_D then 1 else 3)) nic
      messageType sourceIp targetIp (slice message base DHCP_SIZE)).length ≤
        E1000_DEFAULT_BUFFER_SIZE := by
    rw [hdata]
    decide
  have hsend := networkSendUdp_ok hstep hnic hbuffer (fun _ => 0) (fun _ => 0xFF)
    (fun _ => 0xFF) 68 67 hfits
  rw [hdata] at hsend
  have hkind : ¬(messageType ≠ DORA_D ∧ messageType ≠ DORA_R) := by
    rcases htype with rfl | rfl <;> decide
  unfold networkDhcpSend
  rw [hnic]
  dsimp only
  rw [if_neg hkind, readBytes, inside, if_pos hroom, ok_bind, hsend]
  rfl

theorem initialized_afterSend (hnet : Initialized net) (hnic : net.currentNIC = some nic)
    (step : Nat) (hframe : frame.length = 42 + DHCP_SIZE) {buffer : Buffer}
    (hbuffer : E1000_DEFAULT_BUFFER_SIZE ≤ buffer.length) :
    Initialized (afterSend net nic step frame buffer) := by
  refine ⟨hnet.initialized, hnet.unlocked, ?_, hnet.packets, hnet.tail, hnet.pages⟩
  intro nic' hnic'
  have hready := hnet.nic nic hnic
  have hready' : (nic.setAddress fun _ => 0).Ready := ⟨hready.magic, hready.txCur, hready.txBuffers⟩
  obtain rfl := Option.some.inj hnic'
  apply hready'.transmit
  rw [List.length_append, List.length_drop, hframe]
  unfold E1000_DEFAULT_BUFFER_SIZE at *
  unfold DHCP_SIZE
  omega

theorem dhcpFrame_length (net : Network) (nic : IntelNic) (messageType : UInt8)
    (sourceIp targetIp : Ipv4) {old : List UInt8} (h : old.length = DHCP_SIZE) :
    (dhcpFrame net nic messageType sourceIp targetIp old).length = 42 + DHCP_SIZE := by
  rw [dhcpFrame, udpFrame_length, dhcpMessage_length _ _ _ _ _ h]

theorem sentFrame_afterSend (hnet : Initialized net) (hnic : net.currentNIC = some nic) (step : Nat)
    (hframe : frame.length = 42 + DHCP_SIZE) (buffer : Buffer) :
    sentFrame net (afterSend net nic step frame buffer) = some frame := by
  have hcur := (hnet.nic nic hnic).txCur
  unfold SEND_BUFFER_MAX at hcur
  have hnext : (nic.txCur + 1) % 8 ≠ nic.txCur := by omega
  unfold sentFrame
  rw [hnic]
  change (if (nic.txCur + 1) % 8 = nic.txCur then none
    else (Function.update nic.txBuffers nic.txCur
      (some (frame ++ buffer.drop (42 + DHCP_SIZE))) nic.txCur).map
        (·.take (Function.update nic.txLengths nic.txCur
          (UInt16.ofNat (42 + DHCP_SIZE)) nic.txCur).toNat)) = some frame
  rw [if_neg hnext, Function.update_self, Function.update_self, Option.map_some]
  have hlen : (UInt16.ofNat (42 + DHCP_SIZE)).toNat = frame.length := by
    rw [hframe]
    rfl
  rw [hlen, List.take_left']
  rfl

/-- The host behind a successful initialization: nothing is initialized, and a card is there. -/
structure Started (net : Network) : Prop where
  ready : Initialized net
  nic : ∃ nic, net.currentNIC = some nic
  offline : net.dhcpInfo.initialized = false

theorem sendDiscovers_started {n : Nat} (h : Started net)
    (hsend : sendDiscovers ldhcp n net = .ok net') : Started net' := by
  induction n generalizing net with
  | zero =>
      obtain rfl := Except.ok.inj hsend
      exact h
  | succ n ih =>
      obtain ⟨nic, hnic⟩ := h.nic
      rw [sendDiscovers] at hsend
      by_cases hroom : 0 + DHCP_SIZE ≤ ldhcp.length
      · obtain ⟨buffer, hbuffer, hok⟩ := networkDhcpSend_ok h.ready hnic hroom (.inl rfl)
          (fun _ => 0) (fun _ => 0xFF)
        rw [hok, ok_bind] at hsend
        have hold : (slice ldhcp 0 DHCP_SIZE).length = DHCP_SIZE := by
          rw [slice, List.length_take, List.length_drop]
          omega
        have hready := initialized_afterSend h.ready hnic (if DORA_D = DORA_D then 1 else 3)
          (dhcpFrame_length net nic DORA_D (fun _ => 0) (fun _ => 0xFF) hold) hbuffer
        exact ih ⟨hready, ⟨_, rfl⟩, h.offline⟩ hsend
      · have hfail : networkDhcpSend net ldhcp 0 DORA_D (fun _ => 0) (fun _ => 0xFF) 68 67 =
            .error .outside := by
          unfold networkDhcpSend
          rw [hnic]
          dsimp only
          rw [if_neg (by decide), readBytes, inside, if_neg hroom]
          rfl
        rw [hfail] at hsend
        cases hsend

theorem networkInitializeDhcp_started (hnet : Initialized net) {nicInitialized : Bool}
    (h : networkInitializeDhcp net nicInitialized ldhcp = .ok (0, net')) : Started net' := by
  unfold networkInitializeDhcp at h
  dsimp only at h
  split at h
  · cases h
  split at h
  · cases h
  rename_i nic hnic
  split at h
  · cases h
  split at h
  · cases h
  have hstart : Started (resetDhcp net) :=
    ⟨⟨hnet.initialized, hnet.unlocked, hnet.nic, hnet.packets, hnet.tail, hnet.pages⟩,
      ⟨nic, hnic⟩, rfl⟩
  cases hsend : sendDiscovers ldhcp 5 (resetDhcp net) with
  | error e =>
      rw [hsend] at h
      cases h
  | ok net₀ =>
      rw [hsend] at h
      obtain ⟨_, rfl⟩ := Prod.mk.inj (Except.ok.inj h)
      exact sendDiscovers_started hstart hsend

def atTime (net : Network) (p : Packet) : Network :=
  { net with jiffies := p.jiffies }

structure Online (net : Network) : Prop where
  ready : Initialized net
  nic : ∃ nic, net.currentNIC = some nic

def Packet.Complete (p : Packet) : Prop :=
  p.base + DHCP_SIZE ≤ p.buffer.length

theorem networkHandleDhcp_eq (h : p.Complete) : networkHandleDhcp net p.buffer p.base p.size =
      if p.messageType = DORA_O then
        networkDhcpSend (setStep net 2) p.buffer p.base DORA_R p.yourIpv4
          (addressBytes (word p.buffer (p.base + 20))) 68 67
      else if p.messageType = DORA_A then
        .ok (saveAck net p.yourIpv4 (addressBytes (word p.buffer (p.base + 20))))
      else .ok net := by
  unfold Packet.Complete DHCP_SIZE at h
  unfold networkHandleDhcp readWord readBytes readByte inside
  rw [if_pos (by omega), if_pos (by omega), if_pos (by omega), if_pos (by omega), if_pos (by omega)]
  rfl

def requestFrame (net : Network) (nic : IntelNic) (p : Packet) : List UInt8 :=
  dhcpFrame (setStep (atTime net p) 2) nic DORA_R p.yourIpv4
    (addressBytes (word p.buffer (p.base + 20))) (slice p.buffer p.base DHCP_SIZE)

theorem dhcpStep_offer (hs : Online s.net) (hp : p.Complete) (htype : p.messageType = DORA_O) :
    ∃ frame net, dhcpStep s p = .ok (some frame, ⟨net, some frame⟩) ∧
      requestXid frame = wireXid p.jiffies ∧ requestAddress frame = p.yourIpv4 ∧
      Online net ∧ net.dhcpInfo.initialized = s.net.dhcpInfo.initialized ∧
      net.dhcpInfo.yourIpv4 = s.net.dhcpInfo.yourIpv4 := by
  obtain ⟨hready, nic, hnic⟩ := hs
  have hready' : Initialized (setStep (atTime s.net p) 2) :=
    ⟨hready.initialized, hready.unlocked, hready.nic, hready.packets, hready.tail, hready.pages⟩
  have hold : (slice p.buffer p.base DHCP_SIZE).length = DHCP_SIZE := by
    unfold Packet.Complete at hp
    rw [slice, List.length_take, List.length_drop]
    omega
  obtain ⟨buffer, hbuffer, hok⟩ := networkDhcpSend_ok hready' hnic hp (.inr rfl) p.yourIpv4
    (addressBytes (word p.buffer (p.base + 20)))
  have hlength : (requestFrame s.net nic p).length = 42 + DHCP_SIZE :=
    dhcpFrame_length _ _ _ _ _ hold
  obtain ⟨hxid, haddress⟩ := frame_fields (setStep (atTime s.net p) 2) nic p.yourIpv4
    (addressBytes (word p.buffer (p.base + 20))) (slice p.buffer p.base DHCP_SIZE)
  have hsent : sentFrame s.net
      (afterSend (setStep (atTime s.net p) 2) nic 3 (requestFrame s.net nic p) buffer) =
        some (requestFrame s.net nic p) :=
    sentFrame_afterSend hready' hnic 3 hlength buffer
  refine ⟨requestFrame s.net nic p,
    afterSend (setStep (atTime s.net p) 2) nic 3 (requestFrame s.net nic p) buffer, ?_, hxid,
    haddress, ⟨initialized_afterSend hready' hnic 3 hlength hbuffer, _, rfl⟩, rfl, rfl⟩
  have hhandle : networkHandleDhcp (atTime s.net p) p.buffer p.base p.size =
      .ok (afterSend (setStep (atTime s.net p) 2) nic 3 (requestFrame s.net nic p) buffer) := by
    rw [networkHandleDhcp_eq hp, if_pos htype, hok]
    rfl
  unfold dhcpStep
  change networkHandleDhcp (atTime s.net p) p.buffer p.base p.size >>= _ = _
  rw [hhandle, ok_bind, hsent]
  rfl

theorem sentFrame_same (h : net'.currentNIC = net.currentNIC) : sentFrame net net' = none := by
  unfold sentFrame
  rw [h]
  cases net.currentNIC with
  | none => rfl
  | some nic => exact if_pos rfl

theorem dhcpStep_ack (s : Exchange) (hp : p.Complete) (htype : p.messageType = DORA_A) :
    dhcpStep s p = .ok (none, ⟨saveAck (atTime s.net p) p.yourIpv4
      (addressBytes (word p.buffer (p.base + 20))), s.request⟩) := by
  have hsent : sentFrame s.net (saveAck (atTime s.net p) p.yourIpv4
      (addressBytes (word p.buffer (p.base + 20)))) = none := sentFrame_same rfl
  unfold dhcpStep
  change networkHandleDhcp (atTime s.net p) p.buffer p.base p.size >>= _ = _
  rw [networkHandleDhcp_eq hp, if_neg (by rw [htype]; decide), if_pos htype, ok_bind, hsent]
  rfl

theorem dhcpStep_other (s : Exchange) (hp : p.Complete) (hoffer : p.messageType ≠ DORA_O)
    (hack : p.messageType ≠ DORA_A) :
    dhcpStep s p = .ok (none, ⟨atTime s.net p, s.request⟩) := by
  have hsent : sentFrame s.net (atTime s.net p) = none := sentFrame_same rfl
  unfold dhcpStep
  change networkHandleDhcp (atTime s.net p) p.buffer p.base p.size >>= _ = _
  rw [networkHandleDhcp_eq hp, if_neg hoffer, if_neg hack, ok_bind, hsent]
  rfl

/-- The last Request that the host has sent asks, under the transaction id of the message, for
the address that it offers. -/
def Answers (request : Option (List UInt8)) (p : Packet) : Prop :=
  ∃ frame, request = some frame ∧ requestXid frame = p.xid ∧ requestAddress frame = p.yourIpv4

/-- An Offer is answered by a Request with its transaction id and address, and the host is
marked as initialized with an address by an ACK that answers the last Request only. -/
def Proper (s : Exchange) (p : Packet) : Prop :=
  ∀ sent s', dhcpStep s p = .ok (sent, s') →
    (p.messageType = DORA_O → Answers sent p) ∧
      (s'.net.dhcpInfo.initialized = true →
        (p.messageType ≠ DORA_A ∧ s.net.dhcpInfo.initialized = true ∧
          s'.net.dhcpInfo.yourIpv4 = s.net.dhcpInfo.yourIpv4) ∨
        (p.messageType = DORA_A ∧ Answers s.request p ∧
          s'.net.dhcpInfo.yourIpv4 = p.yourIpv4))

/-- Every Offer is handled at a time that its transaction id is generated from, and every ACK
has the transaction id that is generated at the time of the last Offer, and its address. -/
def Genuine : Option Packet → List Packet → Prop
  | _, [] => True
  | offer, p :: packets =>
      (p.messageType = DORA_O → p.xid = wireXid p.jiffies) ∧
        (p.messageType = DORA_A → ∃ o, offer = some o ∧ p.xid = wireXid o.jiffies ∧
          p.yourIpv4 = o.yourIpv4) ∧
          Genuine (if p.messageType = DORA_O then some p else offer) packets

def Answered (request : Option (List UInt8)) : Option Packet → Prop
  | none => request = none
  | some o => ∃ frame, request = some frame ∧ requestXid frame = wireXid o.jiffies ∧
      requestAddress frame = o.yourIpv4

theorem answers_iff {request : Option (List UInt8)} (h : Answered request offer) (p : Packet) :
    Answers request p ↔ ∃ o, offer = some o ∧ p.xid = wireXid o.jiffies ∧
      p.yourIpv4 = o.yourIpv4 := by
  cases offer with
  | none =>
      obtain rfl : request = none := h
      simp [Answers]
  | some o =>
      obtain ⟨frame, rfl, hxid, haddress⟩ := h
      simp only [Answers, Option.some.injEq, exists_eq_left', hxid, haddress, eq_comm]

theorem dhcpStep_spec (hs : Online s.net) (hanswered : Answered s.request offer) (hp : p.Complete) :
    ∃ sent s', dhcpStep s p = .ok (sent, s') ∧ Online s'.net ∧
      Answered s'.request (if p.messageType = DORA_O then some p else offer) ∧
      (Proper s p ↔ (p.messageType = DORA_O → p.xid = wireXid p.jiffies) ∧
        (p.messageType = DORA_A → ∃ o, offer = some o ∧ p.xid = wireXid o.jiffies ∧
          p.yourIpv4 = o.yourIpv4)) := by
  have hready := hs.ready
  by_cases hoffer : p.messageType = DORA_O
  · obtain ⟨frame, net, hstep, hxid, haddress, honline, hinit, hipv4⟩ := dhcpStep_offer hs hp hoffer
    have hack : p.messageType ≠ DORA_A := by
      rw [hoffer]
      decide
    refine ⟨_, _, hstep, honline, ?_, ?_⟩
    · rw [if_pos hoffer]
      exact ⟨frame, rfl, hxid, haddress⟩
    · simp only [hoffer, true_implies]
      constructor
      · intro hproper
        obtain ⟨frame', hframe, hxid', _⟩ := (hproper _ _ hstep).1 hoffer
        obtain rfl := Option.some.inj hframe
        exact ⟨hxid'.symm.trans hxid, fun h => absurd (hoffer.trans h) hack⟩
      · rintro ⟨hmatch, _⟩ sent s' hstep'
        rw [hstep] at hstep'
        obtain ⟨rfl, rfl⟩ := Prod.mk.inj (Except.ok.inj hstep')
        refine ⟨fun _ => ⟨frame, rfl, hxid.trans hmatch.symm, haddress⟩, fun hyes => .inl ?_⟩
        exact ⟨hack, hinit.symm.trans hyes, hipv4⟩
  by_cases hack : p.messageType = DORA_A
  · have hstep := dhcpStep_ack s hp hack
    refine ⟨_, _, hstep, ⟨?_, hs.nic⟩, ?_, ?_⟩
    · exact ⟨hready.initialized, hready.unlocked, hready.nic, hready.packets, hready.tail,
        hready.pages⟩
    · rw [if_neg hoffer]
      exact hanswered
    · rw [← answers_iff hanswered]
      constructor
      · intro hproper
        refine ⟨fun h => absurd h hoffer, fun _ => ?_⟩
        rcases (hproper _ _ hstep).2 rfl with ⟨hno, _⟩ | ⟨_, hanswers, _⟩
        · exact absurd hack hno
        · exact hanswers
      · rintro ⟨_, hanswers⟩ sent s' hstep'
        rw [hstep] at hstep'
        obtain ⟨rfl, rfl⟩ := Prod.mk.inj (Except.ok.inj hstep')
        exact ⟨fun h => absurd h hoffer, fun _ => .inr ⟨hack, hanswers hack, rfl⟩⟩
  · have hstep := dhcpStep_other s hp hoffer hack
    refine ⟨_, _, hstep, ⟨?_, hs.nic⟩, ?_, ?_⟩
    · exact ⟨hready.initialized, hready.unlocked, hready.nic, hready.packets, hready.tail,
        hready.pages⟩
    · rw [if_neg hoffer]
      exact hanswered
    · refine ⟨fun _ => ⟨fun h => absurd h hoffer, fun h => absurd h hack⟩, ?_⟩
      rintro - sent s' hstep'
      rw [hstep] at hstep'
      obtain ⟨rfl, rfl⟩ := Prod.mk.inj (Except.ok.inj hstep')
      exact ⟨fun h => absurd h hoffer, fun hyes => .inl ⟨hack, hyes, rfl⟩⟩

theorem exchange_iff (hs : Online s.net) (hanswered : Answered s.request offer)
    {packets : List Packet} (hpackets : ∀ p ∈ packets, p.Complete) :
    (∃ sents s', run dhcpStep s packets = .ok (sents, s')) ∧
      (Guarded dhcpStep Proper s packets ↔ Genuine offer packets) := by
  induction packets generalizing s offer with
  | nil => exact ⟨⟨[], s, rfl⟩, Iff.rfl⟩
  | cons p packets ih =>
      obtain ⟨sent, s', hstep, hs', hanswered', hproper⟩ :=
        dhcpStep_spec hs hanswered (hpackets p List.mem_cons_self)
      obtain ⟨⟨sents, t, hrun⟩, hiff⟩ :=
        ih hs' hanswered' fun q hq => hpackets q (List.mem_cons_of_mem p hq)
      constructor
      · refine ⟨sent :: sents, t, ?_⟩
        rw [run, hstep]
        dsimp only
        rw [hrun]
      · rw [Guarded, hstep, Genuine, hproper, ← hiff, and_assoc]

/-- From a successful `network_initialize_dhcp` on, whatever complete messages are received, the
exchange goes on, and it is proper at every one of them exactly if they are genuine. -/
theorem proper_iff_genuine {net net' : Network} (hnet : Initialized net) {nicInitialized : Bool}
    {ldhcp : Buffer} (hstart : networkInitializeDhcp net nicInitialized ldhcp = .ok (0, net'))
    {packets : List Packet} (hpackets : ∀ p ∈ packets, p.Complete) :
    net'.dhcpInfo.initialized = false ∧
      (∃ sents s, run dhcpStep ⟨net', none⟩ packets = .ok (sents, s)) ∧
      (Guarded dhcpStep Proper ⟨net', none⟩ packets ↔ Genuine none packets) := by
  have hstarted := networkInitializeDhcp_started hnet hstart
  have hanswered : Answered none none := rfl
  exact ⟨hstarted.offline, exchange_iff (s := ⟨net', none⟩) ⟨hstarted.ready, hstarted.nic⟩
    hanswered hpackets⟩

theorem sendDiscovers_ok (hroom : 0 + DHCP_SIZE ≤ ldhcp.length) (n : Nat) (h : Started net) :
    ∃ net', sendDiscovers ldhcp n net = .ok net' := by
  induction n generalizing net with
  | zero => exact ⟨net, rfl⟩
  | succ n ih =>
      obtain ⟨nic, hnic⟩ := h.nic
      obtain ⟨buffer, _, hok⟩ := networkDhcpSend_ok h.ready hnic hroom (.inl rfl)
        (fun _ => 0) (fun _ => 0xFF)
      have hnext := sendDiscovers_started (n := 1) h (by rw [sendDiscovers, hok]; rfl)
      obtain ⟨net', hrest⟩ := ih hnext
      refine ⟨net', ?_⟩
      rw [sendDiscovers, hok, ok_bind]
      exact hrest

def zeroBuffer : Buffer := List.replicate 8192 0

theorem zeroBuffer_starts :
    ∃ net', networkInitializeDhcp (bootedNetwork zeroBuffer) true zeroBuffer = .ok (0, net') := by
  have hready : Initialized (bootedNetwork zeroBuffer) :=
    initialized_bootedNetwork (by rw [zeroBuffer, List.length_replicate]; exact Nat.le_refl _)
  have hstart : Started (resetDhcp (bootedNetwork zeroBuffer)) :=
    ⟨⟨hready.initialized, hready.unlocked, hready.nic, hready.packets, hready.tail,
      hready.pages⟩, ⟨_, rfl⟩, rfl⟩
  have hroom : 0 + DHCP_SIZE ≤ zeroBuffer.length := by
    rw [zeroBuffer, List.length_replicate]
    decide
  obtain ⟨net', hsend⟩ := sendDiscovers_ok hroom 5 hstart
  refine ⟨net', ?_⟩
  change (sendDiscovers zeroBuffer 5 (resetDhcp (bootedNetwork zeroBuffer)) >>= _) = _
  rw [hsend]
  rfl

def message (xid : UInt32) (messageType : UInt8) (jiffies : UInt64) : Packet where
  jiffies := jiffies
  buffer := List.replicate 4 0 ++ wordBytes xid ++ List.replicate 234 0 ++ [messageType] ++
    List.replicate 305 0
  base := 0
  size := 548

theorem message_complete (xid : UInt32) (messageType : UInt8) (jiffies : UInt64) :
    (message xid messageType jiffies).Complete := by
  simp only [Packet.Complete, message, wordBytes, List.length_append, List.length_replicate,
    List.length_cons, List.length_nil]
  decide

theorem message_type (xid : UInt32) (messageType : UInt8) (jiffies : UInt64) :
    (message xid messageType jiffies).messageType = messageType := rfl

theorem message_xid (xid : UInt32) (messageType : UInt8) (jiffies : UInt64) :
    (message xid messageType jiffies).xid = xid := by
  have hbuffer : (message xid messageType jiffies).buffer = List.replicate 4 0 ++
      (wordBytes xid ++ (message xid messageType jiffies).buffer.drop 8) := rfl
  rw [Packet.xid, hbuffer]
  change word _ 4 = xid
  rw [word_append_right _ (Nat.le_refl 4)]
  exact word_wordBytes _ _

theorem message_yourIpv4 (xid : UInt32) (messageType : UInt8) (jiffies : UInt64) :
    (message xid messageType jiffies).yourIpv4 = addressBytes 0 :=
  congrArg addressBytes rfl

def dora : List Packet :=
  [message (wireXid 7) DORA_O 7, message (wireXid 7) DORA_A 9]

theorem proper_iff_genuine_example :
    ∃ net', networkInitializeDhcp (bootedNetwork zeroBuffer) true zeroBuffer = .ok (0, net') ∧
      Guarded dhcpStep Proper ⟨net', none⟩ dora := by
  have hready : Initialized (bootedNetwork zeroBuffer) :=
    initialized_bootedNetwork (by rw [zeroBuffer, List.length_replicate]; exact Nat.le_refl _)
  obtain ⟨net', hstart⟩ := zeroBuffer_starts
  have hcomplete : ∀ p ∈ dora, p.Complete := by
    intro p hp
    simp only [dora, List.mem_cons, List.not_mem_nil, or_false] at hp
    rcases hp with rfl | rfl
    · exact message_complete _ _ _
    · exact message_complete _ _ _
  refine ⟨net', hstart, (proper_iff_genuine hready hstart hcomplete).2.2.mpr ?_⟩
  simp only [dora, Genuine, message_type, message_xid]
  rw [if_pos trivial]
  refine ⟨fun _ => rfl, fun h => absurd h (by decide), fun h => absurd h (by decide),
    fun _ => ⟨_, rfl, rfl, ?_⟩, trivial⟩
  rw [message_yourIpv4, message_yourIpv4]

/-- An ACK that comes without any Request marks the host as initialized, and a Request that is
sent later than the Discover has another transaction id than the Offer that it answers. -/
theorem forged_ack_and_late_offer :
    ∃ net', networkInitializeDhcp (bootedNetwork zeroBuffer) true zeroBuffer = .ok (0, net') ∧
      net'.dhcpInfo.initialized = false ∧
      (∃ s, run dhcpStep ⟨net', none⟩ [message 0 DORA_A 3] = .ok ([none], s) ∧
        s.request = none ∧ s.net.dhcpInfo.initialized = true) ∧
      ∃ frame s, run dhcpStep ⟨net', none⟩ [message (wireXid 0) DORA_O 5] =
          .ok ([some frame], s) ∧
        requestXid frame ≠ (message (wireXid 0) DORA_O 5).xid := by
  have hready : Initialized (bootedNetwork zeroBuffer) :=
    initialized_bootedNetwork (by rw [zeroBuffer, List.length_replicate]; exact Nat.le_refl _)
  obtain ⟨net', hstart⟩ := zeroBuffer_starts
  have hstarted := networkInitializeDhcp_started hready hstart
  refine ⟨net', hstart, hstarted.offline, ?_, ?_⟩
  · obtain ⟨s, hack, hrequest, hinitialized⟩ : ∃ s,
        dhcpStep ⟨net', none⟩ (message 0 DORA_A 3) = .ok (none, s) ∧ s.request = none ∧
          s.net.dhcpInfo.initialized = true :=
      ⟨_, dhcpStep_ack _ (message_complete ..) (message_type ..), rfl, rfl⟩
    refine ⟨s, ?_, hrequest, hinitialized⟩
    rw [run, hack]
    rfl
  · obtain ⟨frame, net, hoffer, hxid, _⟩ := dhcpStep_offer (s := ⟨net', none⟩)
      ⟨hstarted.ready, hstarted.nic⟩ (message_complete (wireXid 0) DORA_O 5) (message_type ..)
    refine ⟨frame, ⟨net, some frame⟩, ?_, ?_⟩
    · rw [run, hoffer]
      rfl
    · rw [hxid, message_xid]
      decide

end Gramado.Net.Dhcp
