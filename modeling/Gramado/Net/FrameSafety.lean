import Gramado.Net.Receive

/-! Which frames the handlers read only inside, and without a panic. -/

namespace Gramado.Net.FrameSafety

open Library Library.Run Library.CheckedRead Net.Frame Net.PacketQueue Net.Nic Net.Receive

def Terminated (frame : Buffer) (i : Nat) : Prop :=
  0 ∈ frame.drop i

variable {frame : Buffer} {net : Network}

theorem Terminated.lt {i : Nat} (h : Terminated frame i) : i < frame.length := by
  have hpos := List.length_pos_of_mem h
  rw [List.length_drop] at hpos
  omega

def TcpReadable (frame : Buffer) (base : Nat) : Prop :=
  base + 14 ≤ frame.length ∧
    (Terminated frame (base + 20) ∨ base + 20 + 1020 ≤ frame.length)

def DhcpReadable (net : Network) (frame : Buffer) (base : Nat) : Prop :=
  base + 243 ≤ frame.length ∧
    (byte frame (base + 242) = DORA_O → net.currentNIC.isSome = true →
      base + DHCP_SIZE ≤ frame.length)

def UdpReadable (net : Network) (frame : Buffer) (base : Nat) : Prop :=
  Terminated frame (base + 8) ∧
    (fromNetByteOrder16 (half frame (base + 2)) = 68 → DhcpReadable net frame (base + 8))

def ipLenght (frame : Buffer) (base : Nat) : Nat :=
  (fromNetByteOrder16 (half frame (base + 2))).toNat

def IsVersion4 (frame : Buffer) (base : Nat) : Prop :=
  (byte frame base >>> 4) &&& 0x0F = 4

def Ipv4Readable (net : Network) (frame : Buffer) (base : Nat) : Prop :=
  base + 16 ≤ frame.length ∧
    (IsVersion4 frame base → 20 ≤ ipLenght frame base ∧
      (byte frame (base + 9) = PROTOCOL_IP_TCP → TcpReadable frame (base + 20)) ∧
      (byte frame (base + 9) = PROTOCOL_IP_UDP → UdpReadable net frame (base + 20)))

def ArpReadable (net : Network) (frame : Buffer) (base : Nat) : Prop :=
  base + 8 ≤ frame.length ∧
    (fromNetByteOrder16 (half frame (base + 6)) = ARP_OPC_REQUEST →
      net.dhcpInfo.initialized = true → net.currentNIC.isSome = true →
        base + 18 ≤ frame.length) ∧
    (fromNetByteOrder16 (half frame (base + 6)) = ARP_OPC_REPLY → base + 18 ≤ frame.length)

def Readable (net : Network) (frame : Buffer) : Prop :=
  14 ≤ frame.length ∧
    (fromNetByteOrder16 (half frame 12) = ETHERTYPE_IPV4 → Ipv4Readable net frame 14) ∧
    (fromNetByteOrder16 (half frame 12) = ETHERTYPE_ARP → ArpReadable net frame 14)

section Handlers

variable {net : Network} {P : Network → Prop} (hnet : Initialized net)
  (hP : ∀ net, Initialized net → P net)

include hnet hP

theorem returns_tcp (frame : Buffer) (base : Nat) (size : Int) :
    Returns (networkHandleTcp net frame base size) P ↔ TcpReadable frame base := by
  have hdone : ∀ payload, P { net with tcpPayload := payload } := fun payload =>
    hP _ ⟨hnet.initialized, hnet.unlocked, hnet.nic, hnet.packets, hnet.tail, hnet.pages⟩
  unfold networkHandleTcp TcpReadable Terminated
  simp only [returns_bind, returns_readHalf, returns_readWord, returns_strncpy, returns_pure,
    hdone, TCP_HEADER_LENGHT, List.length_drop]
  by_cases hzero : 0 ∈ frame.drop (base + 20)
  · simp only [hzero, true_or, true_and, and_true]
    omega
  · simp only [hzero, false_or, and_true]
    omega

omit hP in
theorem initialized_dhcp (info : DhcpInfo) (online : Bool) :
    Initialized { net with dhcpInfo := info, isOnline := online } :=
  ⟨hnet.initialized, hnet.unlocked, hnet.nic, hnet.packets, hnet.tail, hnet.pages⟩

theorem returns_dhcpSend (frame : Buffer) (base : Nat) (sourceIp targetIp : Ipv4)
    (sport dport : UInt16) :
    Returns (networkDhcpSend net frame base DORA_R sourceIp targetIp sport dport) P ↔
      (net.currentNIC.isSome = true → base + DHCP_SIZE ≤ frame.length) := by
  unfold networkDhcpSend
  split
  · rename_i hnone
    simp [hnone, hP net hnet]
  · rename_i nic hnic
    have hstep : Initialized (setStep net (if DORA_R = DORA_D then 1 else 3)) :=
      ⟨hnet.initialized, hnet.unlocked, hnet.nic, hnet.packets, hnet.tail, hnet.pages⟩
    have hsome : net.currentNIC.isSome = true := by rw [hnic, Option.isSome_some]
    simp only [hsome, forall_const]
    rw [if_neg (by decide), returns_bind, returns_readBytes]
    apply and_iff_left_of_imp
    intro hroom
    rw [returns_bind]
    simp only [returns_pure]
    have hold : (slice frame base DHCP_SIZE).length = DHCP_SIZE := by
      rw [slice, List.length_take, List.length_drop]
      omega
    refine (networkSendUdp_initialized hstep _ _ _ _ _ ?_).mono fun out hout => hP out.2 hout
    rw [dhcpMessage_length _ _ _ _ _ hold]
    decide

theorem returns_dhcp (frame : Buffer) (base : Nat) (size : Int) :
    Returns (networkHandleDhcp net frame base size) P ↔ DhcpReadable net frame base := by
  have hoffer : Initialized (setStep net 2) := initialized_dhcp hnet _ _
  have hack : ∀ yourIpv4 serverIpv4, P (saveAck net yourIpv4 serverIpv4) :=
    fun yourIpv4 serverIpv4 => hP _ (initialized_dhcp hnet _ _)
  have hnone : DORA_A ≠ DORA_O := by decide
  unfold networkHandleDhcp DhcpReadable
  simp only [returns_bind, returns_readByte, returns_readWord, returns_readBytes, returns_ite,
    returns_pure, returns_dhcpSend hoffer hP, hack, hP net hnet, implies_true, and_true]
  change _ ∧ _ ∧ _ ∧ _ ∧ _ ∧ (_ → net.currentNIC.isSome = true → _) ↔ _
  constructor
  · rintro ⟨_, _, _, _, hlast, hoffer⟩
    exact ⟨by omega, hoffer⟩
  · rintro ⟨hroom, hoffer⟩
    exact ⟨by omega, by omega, by omega, by omega, by omega, hoffer⟩

theorem returns_pushPayload (payload : List UInt8) : Returns (pushPayload net payload) P := by
  obtain ⟨page, hpage, hpush⟩ := pushPayload_ok hnet payload
  refine ⟨_, hpush, hP _ ⟨hnet.initialized, hnet.unlocked, hnet.nic, hnet.packets, ?_, ?_⟩⟩
  · exact Ring.next_lt hnet.tail
  · intro i hi
    change ∃ page', Function.update net.packets.payloadPtr net.packets.receiveTail
      (some (copyPacket page (fun i => payload.getD i 0) 512)) i = some page'
    by_cases htail : i = net.packets.receiveTail
    · rw [htail, Function.update_self]
      exact ⟨_, rfl⟩
    · rw [Function.update_of_ne htail]
      exact hnet.pages i hi

def UdpHands (frame : Buffer) (base : Nat) (Q : Segment → Prop) : Prop :=
  fromNetByteOrder16 (half frame (base + 2)) = 68 →
    Q ⟨.dhcp, base + 8, (half frame (base + 4)).toNat - 8⟩

theorem returns_udp (frame : Buffer) (base : Nat) (size : Int) (Q : Segment → Prop) :
    Returns (networkHandleUdp net frame base size)
        (fun out => (∀ segment ∈ out.1, Q segment) ∧ P out.2) ↔
      UdpReadable net frame base ∧ UdpHands frame base Q := by
  unfold networkHandleUdp UdpReadable UdpHands Terminated
  simp only [returns_bind, returns_readHalf, returns_udpPayload, returns_ite, returns_pure,
    List.forall_mem_cons, List.not_mem_nil, false_implies, implies_true, and_true, true_and,
    returns_and, returns_dhcp hnet hP, returns_pushPayload hnet hP, hP net hnet,
    UDP_HEADER_LENGHT]
  constructor
  · rintro ⟨hzero, _, _, hdhcp⟩
    exact ⟨⟨hzero, fun hport => (hdhcp hport).2.2⟩, fun hport => (hdhcp hport).2.1⟩
  · rintro ⟨⟨hzero, hdhcp⟩, hhands⟩
    have hlt := Terminated.lt hzero
    exact ⟨hzero, by omega, by omega, fun hport => ⟨by omega, hhands hport, hdhcp hport⟩⟩

def Ipv4Hands (frame : Buffer) (base : Nat) (Q : Segment → Prop) : Prop :=
  IsVersion4 frame base →
    (byte frame (base + 9) = PROTOCOL_IP_TCP →
      Q ⟨.tcp, base + 20, ipLenght frame base - 20⟩) ∧
    (byte frame (base + 9) = PROTOCOL_IP_UDP →
      Q ⟨.udp, base + 20, ipLenght frame base - 20⟩ ∧ UdpHands frame (base + 20) Q)

theorem returns_ipv4 (frame : Buffer) (base : Nat) (size : Int) (Q : Segment → Prop) :
    Returns (networkHandleIpv4 net frame base size)
        (fun out => (∀ segment ∈ out.1, Q segment) ∧ P out.2) ↔
      Ipv4Readable net frame base ∧ Ipv4Hands frame base Q := by
  have hsaved : ∀ source, Initialized (saveCallerIpv4 net source) := fun _ =>
    ⟨hnet.initialized, hnet.unlocked, hnet.nic, hnet.packets, hnet.tail, hnet.pages⟩
  have hbound : ∀ v : UInt16, ¬ 65535 < v.toNat := fun v => by
    have hv := v.toNat_lt
    omega
  have hudp : ∀ source, UdpReadable (saveCallerIpv4 net source) frame (base + 20) ↔
      UdpReadable net frame (base + 20) := fun _ => Iff.rfl
  have hother : byte frame (base + 9) = PROTOCOL_IP_UDP →
      ¬ byte frame (base + 9) = PROTOCOL_IP_TCP := fun h => by
    rw [h]
    decide
  unfold networkHandleIpv4 Ipv4Readable Ipv4Hands IsVersion4 ipLenght
  simp only [returns_bind, returns_readArray, returns_readByte, returns_readHalf, returns_ite,
    returns_pure, returns_error, List.forall_mem_cons, List.not_mem_nil, false_implies,
    implies_true, and_true, true_and, and_assoc, returns_and, returns_tcp (hsaved _) hP,
    returns_udp (hsaved _) hP, hudp, hP _ (hsaved _), hbound, or_false, imp_false, Nat.not_lt,
    ne_eq, not_not, IP_HEADER_LENGHT]
  by_cases hversion : (byte frame base >>> 4) &&& 0x0F = 4
  · simp only [hversion, forall_const]
    constructor
    · rintro ⟨_, _, _, hlow, hrest⟩
      obtain ⟨_, htcp, hudp⟩ := hrest hlow
      refine ⟨by omega, ⟨hlow, fun h => (htcp h).2, fun h => (hudp (hother h) h).2.1⟩,
        fun h => (htcp h).1, fun h => ?_⟩
      exact ⟨(hudp (hother h) h).1, (hudp (hother h) h).2.2⟩
    · rintro ⟨_, ⟨hlow, htcp, hudp⟩, hsegment, hsegments⟩
      refine ⟨by omega, by omega, by omega, hlow, fun _ => ⟨by omega, fun h => ?_, fun _ h => ?_⟩⟩
      · exact ⟨hsegment h, htcp h⟩
      · exact ⟨(hsegments h).1, hudp h, (hsegments h).2⟩
  · simp only [hversion, false_implies, and_true]
    omega

theorem returns_arpReply (frame : Buffer) (mac ip : Nat) :
    Returns (networkSendArpReply net frame mac ip) P ↔
      (net.dhcpInfo.initialized = true → net.currentNIC.isSome = true →
        mac + 6 ≤ frame.length ∧ ip + 4 ≤ frame.length) := by
  unfold networkSendArpReply networkSendArp
  split
  · rename_i hinfo
    simp [hinfo, hP net hnet]
  rename_i hinfo
  rw [Bool.not_eq_false] at hinfo
  split
  · rename_i hnone
    simp [hnone, hP net hnet]
  · rename_i nic hnic
    have hready := hnet.nic nic hnic
    have hready' : (nic.setAddress net.dhcpInfo.yourIpv4).Ready :=
      ⟨hready.magic, hready.txCur, hready.txBuffers⟩
    have hsome : net.currentNIC.isSome = true := by rw [hnic, Option.isSome_some]
    have hsend : ∀ frame : List UInt8, frame.length = 42 →
        Returns (sendFrame net (nic.setAddress net.dhcpInfo.yourIpv4) "network_send_arp: frame\n"
          frame) P := by
      intro frame hlength
      have hpos : 0 < frame.length := by omega
      have hlen : frame.length ≤ E1000_DEFAULT_BUFFER_SIZE := by
        rw [hlength]
        decide
      exact (sendFrame_initialized hnet _ hready' hpos hlen).mono hP
    simp only [hinfo, hsome, forall_const, returns_bind, returns_readArray, ne_eq,
      not_true_eq_false, and_false, if_false, hsend _ (arpFrame_length ..), and_true]

theorem returns_arp (frame : Buffer) (base : Nat) (size : Int) :
    Returns (networkHandleArp net frame base size) P ↔ ArpReadable net frame base := by
  have hgateway : ∀ spa sha, P (saveGateway net spa sha) := fun _ _ =>
    hP _ ⟨hnet.initialized, hnet.unlocked, hnet.nic, hnet.packets, hnet.tail, hnet.pages⟩
  have hreply : ARP_OPC_REPLY ≠ ARP_OPC_REQUEST := by decide
  unfold networkHandleArp ArpReadable
  simp only [returns_bind, returns_readArray, returns_readHalf, returns_ite, returns_pure,
    returns_arpReply hnet hP, hgateway, hP net hnet, implies_true, and_true]
  constructor
  · rintro ⟨hop, hrequest, hreply⟩
    refine ⟨hop, fun h hinfo hnic => ?_, fun h => ?_⟩
    · have hroom := hrequest h hinfo hnic
      omega
    · have hroom := hreply (by rw [h]; decide) h
      omega
  · rintro ⟨hop, hrequest, hreply⟩
    refine ⟨hop, fun h hinfo hnic => ?_, fun _ h => ?_⟩
    · have hroom := hrequest h hinfo hnic
      omega
    · have hroom := hreply h
      exact ⟨by omega, fun _ => by omega⟩

def Hands (frame : Buffer) (size : Int) (Q : Segment → Prop) : Prop :=
  (fromNetByteOrder16 (half frame 12) = ETHERTYPE_IPV4 →
      Q ⟨.ipv4, 14, size - 14⟩ ∧ Ipv4Hands frame 14 Q) ∧
    (fromNetByteOrder16 (half frame 12) = ETHERTYPE_ARP → Q ⟨.arp, 14, size - 14⟩)

theorem returns_ethernet (frame : Buffer) {size : Int} (hlow : 1 ≤ size)
    (hhigh : size ≤ E1000_DEFAULT_BUFFER_SIZE) (Q : Segment → Prop) :
    Returns (networkHandleEthernet net frame size)
        (fun out => (∀ segment ∈ out.2.1, Q segment) ∧ P out.2.2) ↔
      Readable net frame ∧ Hands frame size Q := by
  have hsaved : ∀ source, Initialized (saveCallerMac net source) := fun _ =>
    ⟨hnet.initialized, hnet.unlocked, hnet.nic, hnet.packets, hnet.tail, hnet.pages⟩
  have hipv4 : ∀ source, Ipv4Readable (saveCallerMac net source) frame 14 ↔
      Ipv4Readable net frame 14 := fun _ => Iff.rfl
  have harp : ∀ source, ArpReadable (saveCallerMac net source) frame 14 ↔
      ArpReadable net frame 14 := fun _ => Iff.rfl
  unfold networkHandleEthernet Readable Hands
  rw [if_neg (by rw [hnet.initialized]; decide), if_neg (by rw [hnet.unlocked]; decide),
    if_neg (by omega)]
  simp only [returns_bind, returns_readArray, returns_readHalf, returns_ite, returns_pure,
    List.forall_mem_cons, List.not_mem_nil, false_implies, implies_true, and_true, true_and,
    and_assoc, returns_and, returns_ipv4 (hsaved _) hP, returns_arp (hsaved _) hP,
    hP _ (hsaved _), hipv4, harp, ETHERNET_HEADER_LENGHT]
  constructor
  · rintro ⟨hroom, _, hrest⟩
    have hip : fromNetByteOrder16 (half frame 12) = ETHERTYPE_IPV4 →
        Q ⟨.ipv4, 14, size - 14⟩ ∧ Ipv4Readable net frame 14 ∧ Ipv4Hands frame 14 Q := fun h =>
      (hrest (by rw [h]; decide)).1 h
    have ha : fromNetByteOrder16 (half frame 12) = ETHERTYPE_ARP →
        Q ⟨.arp, 14, size - 14⟩ ∧ ArpReadable net frame 14 := fun h =>
      (hrest (by rw [h]; decide)).2 (by rw [h]; decide) h
    exact ⟨hroom, fun h => (hip h).2.1, fun h => (ha h).2,
      fun h => ⟨(hip h).1, (hip h).2.2⟩, fun h => (ha h).1⟩
  · rintro ⟨hroom, hip, ha, hipHands, haHands⟩
    exact ⟨hroom, by omega, fun _ => ⟨fun h => ⟨(hipHands h).1, hip h, (hipHands h).2⟩,
      fun _ h => ⟨haHands h, ha h⟩⟩⟩

end Handlers

def Fits (frame : Buffer) (segment : Segment) : Prop :=
  segment.base + segment.size ≤ frame.length

/-- The lengths in the headers are not larger than what there is. The length of a DHCP packet is
taken in the wrong byte order. -/
def LengthsInside (frame : Buffer) : Prop :=
  fromNetByteOrder16 (half frame 12) = ETHERTYPE_IPV4 → IsVersion4 frame 14 →
    (byte frame 23 = PROTOCOL_IP_TCP ∨ byte frame 23 = PROTOCOL_IP_UDP →
      14 + ipLenght frame 14 ≤ frame.length) ∧
    (byte frame 23 = PROTOCOL_IP_UDP → fromNetByteOrder16 (half frame 36) = 68 →
      34 + (half frame 38).toNat ≤ frame.length)

theorem hands_fits (frame : Buffer) :
    Hands frame frame.length (Fits frame) ↔ LengthsInside frame := by
  unfold Hands Ipv4Hands UdpHands Fits LengthsInside
  simp only [Nat.reduceAdd]
  constructor
  · rintro ⟨hip, _⟩ htype hversion
    obtain ⟨_, hpacket⟩ := hip htype
    obtain ⟨htcp, hudp⟩ := hpacket hversion
    refine ⟨fun hprotocol => ?_, fun hprotocol hport => ?_⟩
    · rcases hprotocol with h | h
      · have hsize := htcp h
        omega
      · have hsize := (hudp h).1
        omega
    · have hsize := (hudp hprotocol).2 hport
      omega
  · intro h
    refine ⟨fun htype => ⟨by omega, fun hversion => ?_⟩, fun _ => by omega⟩
    obtain ⟨hip, hdhcp⟩ := h htype hversion
    refine ⟨fun hprotocol => ?_, fun hprotocol => ⟨?_, fun hport => ?_⟩⟩
    · have hsize := hip (.inl hprotocol)
      omega
    · have hsize := hip (.inr hprotocol)
      omega
    · have hsize := hdhcp hprotocol hport
      omega

/-- When the handlers of a frame return, which they do just if they do not panic and read no byte
outside of the frame, and when the sizes that they pass on end in the frame too. -/
theorem received_frame_safety {net : Network} (hnet : Initialized net) {frame : Buffer}
    (hlow : 1 ≤ frame.length) (hhigh : frame.length ≤ E1000_DEFAULT_BUFFER_SIZE) :
    (Returns (networkHandleEthernet net frame frame.length) (fun _ => True) ↔
      Readable net frame) ∧
    (Returns (networkHandleEthernet net frame frame.length)
        (fun out => ∀ segment ∈ out.2.1, Fits frame segment) ↔
      Readable net frame ∧ LengthsInside frame) := by
  have hsize : ∀ Q, Returns (networkHandleEthernet net frame frame.length)
      (fun out => ∀ segment ∈ out.2.1, Q segment) ↔
        Readable net frame ∧ Hands frame frame.length Q := by
    intro Q
    have hethernet := returns_ethernet hnet (fun _ _ => trivial) frame (Int.ofNat_le.mpr hlow)
      (Int.ofNat_le.mpr hhigh) Q (P := fun _ => True)
    simpa only [and_true] using hethernet
  refine ⟨?_, ?_⟩
  · simpa [Hands, Ipv4Hands, UdpHands] using hsize fun _ => True
  · rw [hsize, hands_fits]

def ethernetStep (net : Network) (frame : Buffer) :
    Except Fault ((Int × List Segment) × Network) := do
  let (rc, segments, net) ← networkHandleEthernet net frame frame.length
  return ((rc, segments), net)

theorem ethernetStep_ok (hnet : Initialized net) (h : Readable net frame) :
    ∃ out net', ethernetStep net frame = .ok (out, net') ∧ Initialized net' := by
  have hstep : Returns (ethernetStep net frame) fun out => Initialized out.2 := by
    unfold ethernetStep
    simp only [returns_bind, returns_pure]
    by_cases hsize : (frame.length : Int) ≤ 0 ∨ E1000_DEFAULT_BUFFER_SIZE < (frame.length : Int)
    · unfold networkHandleEthernet
      rw [if_neg (by rw [hnet.initialized]; decide), if_neg (by rw [hnet.unlocked]; decide),
        if_pos hsize, returns_ok]
      exact hnet
    · obtain ⟨hlow, hhigh⟩ := not_or.mp hsize
      have hethernet := returns_ethernet hnet (fun _ hnet' => hnet') frame (Int.not_le.mp hlow)
        (Int.not_lt.mp hhigh) fun _ => True
      have hhands : Hands frame frame.length fun _ => True := by
        simp [Hands, Ipv4Hands, UdpHands]
      exact (hethernet.mpr ⟨h, hhands⟩).mono fun _ hout => hout.2
  obtain ⟨⟨out, net'⟩, hok, hnet'⟩ := hstep
  exact ⟨out, net', hok, hnet'⟩

/-- A network that is set up handles every run of frames to its end, where each frame can be read,
and stays set up. -/
theorem frames_run (hnet : Initialized net) {frames : List Buffer}
    (h : Guarded ethernetStep Readable net frames) :
    ∃ outs net', run ethernetStep net frames = .ok (outs, net') ∧ Initialized net' :=
  run_total Initialized (fun _ _ hnet hframe => ethernetStep_ok hnet hframe) hnet h

def zeroNetwork : Network :=
  bootedNetwork (List.replicate E1000_DEFAULT_BUFFER_SIZE 0)

theorem initialized_zeroNetwork : Initialized zeroNetwork :=
  initialized_bootedNetwork (Nat.le_of_eq List.length_replicate.symm)

def helloFrame : Buffer :=
  [0xFF, 0xFF, 0xFF, 0xFF, 0xFF, 0xFF, 1, 2, 3, 4, 5, 6, 8, 0] ++
    [0x45, 0, 0, 33, 0, 0, 0x40, 0, 255, 17, 0, 0, 192, 168, 1, 10, 192, 168, 1, 12] ++
    [0x2E, 0x70, 0x2E, 0x70, 0, 13, 0, 0] ++ [104, 101, 108, 108, 111] ++ List.replicate 13 0

theorem helloFrame_readable (net : Network) : Readable net helloFrame := by
  refine ⟨by decide, fun _ => ⟨by decide, fun _ => ⟨by decide, ?_, fun _ => ?_⟩⟩, ?_⟩
  · intro h
    exact absurd h (by decide)
  · refine ⟨?_, fun h => absurd h (by decide)⟩
    change 0 ∈ helloFrame.drop 42
    decide
  · intro h
    exact absurd h (by decide)

theorem frames_run_hello :
    ∃ outs net, run ethernetStep zeroNetwork [helloFrame, helloFrame] = .ok (outs, net) ∧
      Initialized net :=
  frames_run initialized_zeroNetwork (guarded_of_forall (by simp [helloFrame_readable]) _)

theorem helloFrame_lengthsInside : LengthsInside helloFrame := by
  intro _ _
  refine ⟨fun _ => by decide, fun _ h => absurd h (by decide)⟩

theorem received_frame_safety_hello :
    Returns (networkHandleEthernet zeroNetwork helloFrame helloFrame.length)
      fun out => ∀ segment ∈ out.2.1, Fits helloFrame segment := by
  have hlow : 1 ≤ helloFrame.length := by decide
  have hhigh : helloFrame.length ≤ E1000_DEFAULT_BUFFER_SIZE := by decide
  have hsafe := received_frame_safety initialized_zeroNetwork hlow hhigh
  exact hsafe.2.mpr ⟨helloFrame_readable _, helloFrame_lengthsInside⟩

def emptyPacket : Buffer :=
  [0xFF, 0xFF, 0xFF, 0xFF, 0xFF, 0xFF, 1, 2, 3, 4, 5, 6, 8, 0, 0x45] ++ List.replicate 45 0

/-- A frame that ends the kernel, and one of a byte, behind which the handler reads. -/
theorem ethernet_panics :
    Initialized zeroNetwork ∧ networkHandleEthernet zeroNetwork emptyPacket emptyPacket.length =
        .error (.panic "IP: Bad total lenght #debug\n") ∧
      networkHandleEthernet zeroNetwork [0] 1 = .error .outside :=
  ⟨initialized_zeroNetwork, rfl, rfl⟩

end Gramado.Net.FrameSafety
