import Gramado.Net.FrameSafety

/-! What comes out when a UDP frame of the kernel is received by the kernel. -/

namespace Gramado.Net.Loopback

open Library Library.CheckedRead Net.Frame Net.PacketQueue Net.Nic Net.Receive

/-- The send buffer and the length of the frame in the descriptor that was current before. -/
def sentFrame (net net' : Network) : Option (Buffer × Nat) :=
  match net.currentNIC, net'.currentNIC with
  | some nic, some nic' =>
      (nic'.txBuffers nic.txCur).map fun buffer => (buffer, (nic'.txLengths nic.txCur).toNat)
  | _, _ => none

def Pushes (net net' : Network) (packet : List UInt8) : Prop :=
  ∃ page, net'.packets = storePacket net.packets net.packets.receiveTail (some page) ∧
    packetBytes page 512 = packet

/-- The frame that is sent to the port 11888 has a right checksum, passes the handlers, and the
last of them pushes the data. -/
def Loops (net : Network) (source target : Ipv4) (mac : Mac) (sport : UInt16)
    (data : List UInt8) : Prop :=
  Returns (networkSendUdp net source target mac sport 11888 data) fun sent =>
    sent.1 = 0 ∧ ∃ buffer size, sentFrame net sent.2 = some (buffer, size) ∧
      OnesComplement.sum 65535 (networkWords (slice buffer 14 20)) = 65535 ∧
      Returns (networkHandleEthernet sent.2 buffer size) fun out =>
        out.1 = 0 ∧ out.2.1 = [⟨.ipv4, 14, size - 14⟩, ⟨.udp, 34, 8 + data.length⟩] ∧
          Pushes sent.2 out.2.2 (pad 512 data)

/-- The headers of a buffer are those of a UDP frame with so many bytes of data, in whose place
the bytes of `tail` are. -/
structure CarriesUdp (buffer : Buffer) (source target : Ipv4) (dport : UInt16) (n : Nat)
    (tail : List UInt8) : Prop where
  type : half buffer 12 = toNetByteOrder16 ETHERTYPE_IPV4
  version : byte buffer 14 = 0x45
  ipLen : half buffer 16 = toNetByteOrder16 (.ofNat IP_HEADER_LENGHT +
    (.ofNat UDP_HEADER_LENGHT + .ofNat n))
  protocol : byte buffer 23 = PROTOCOL_IP_UDP
  dport : half buffer 36 = toNetByteOrder16 dport
  ipHeader : slice buffer 14 20 = (udpIpHeader source target n).bytes
  data : buffer.drop 42 = tail

theorem half_halfBytes (v : UInt16) :
    UInt16.ofNat ((UInt8.ofNat v.toNat).toNat + 256 * (UInt8.ofNat (v.toNat / 256)).toNat) = v := by
  rw [halfBytes_toNat, UInt16.ofNat_toNat]

theorem udpFrame_carries (nic : IntelNic) (source target : Ipv4) (mac : Mac)
    (sport dport : UInt16) (data rest : List UInt8) :
    CarriesUdp (udpFrame nic source target mac sport dport data ++ rest) source target dport
      data.length (data ++ rest) where
  type := half_halfBytes _
  version := rfl
  ipLen := half_halfBytes _
  protocol := rfl
  dport := half_halfBytes _
  ipHeader := rfl
  data := rfl

variable {n base : Nat} {frame old : Buffer} {size : Int} {net : Network} {nic : IntelNic}
  {data payload bytes t : List UInt8}

theorem fromNetByteOrder16_ipLen (h : n ≤ 512) :
    (fromNetByteOrder16 (toNetByteOrder16 (.ofNat IP_HEADER_LENGHT +
      (.ofNat UDP_HEADER_LENGHT + .ofNat n)))).toNat = 28 + n := by
  rw [fromNetByteOrder16_toNetByteOrder16, UInt16.toNat_add, UInt16.toNat_add,
    UInt16.toNat_ofNat', UInt16.toNat_ofNat', UInt16.toNat_ofNat', IP_HEADER_LENGHT,
    UDP_HEADER_LENGHT]
  omega

section Receive

variable {net : Network} (hnet : Initialized net)

include hnet

theorem returns_udp_push (hport : fromNetByteOrder16 (half frame (base + 2)) = 11888)
    (P : Handled → Prop) :
    Returns (networkHandleUdp net frame base size) P ↔ 0 ∈ frame.drop (base + 8) ∧ ∃ page,
        net.packets.payloadPtr net.packets.receiveTail = some page ∧
        P ([], { net with
          packets := pushed net.packets page (received (text (frame.drop (base + 8)))) }) := by
  obtain ⟨page, hpage, hpush⟩ := pushPayload_ok hnet (received (text (frame.drop (base + 8))))
  unfold networkHandleUdp
  simp only [returns_bind, returns_readHalf, returns_udpPayload, hport,
    UDP_HEADER_LENGHT, hpage, Option.some.injEq, exists_eq_left']
  rw [if_neg (by decide), if_pos trivial, returns_bind, hpush, returns_ok, returns_pure]
  constructor
  · rintro ⟨_, _, hzero, hP⟩
    exact ⟨hzero, hP⟩
  · rintro ⟨hzero, hP⟩
    have hlt := FrameSafety.Terminated.lt hzero
    exact ⟨by omega, by omega, hzero, hP⟩

omit hnet in
theorem returns_ipv4_udp (hversion : FrameSafety.IsVersion4 frame base)
    (hlen : 20 ≤ FrameSafety.ipLenght frame base)
    (hprotocol : byte frame (base + 9) = PROTOCOL_IP_UDP) (P : Handled → Prop) :
    Returns (networkHandleIpv4 net frame base size) P ↔ base + 16 ≤ frame.length ∧
        Returns (networkHandleUdp (saveCallerIpv4 net fun k => byte frame (base + 12 + k)) frame
            (base + 20) (FrameSafety.ipLenght frame base - 20)) fun out =>
          P (⟨.udp, base + 20, FrameSafety.ipLenght frame base - 20⟩ :: out.1, out.2) := by
  have hfour : ¬ (byte frame base >>> 4) &&& 0x0F ≠ 4 := not_not_intro hversion
  have hbound : ¬ ((fromNetByteOrder16 (half frame (base + 2))).toNat < 20 ∨
      65535 < (fromNetByteOrder16 (half frame (base + 2))).toNat) := by
    have hlt := (fromNetByteOrder16 (half frame (base + 2))).toNat_lt
    rw [FrameSafety.ipLenght] at hlen
    omega
  unfold networkHandleIpv4
  simp only [returns_bind, returns_readArray, returns_readByte]
  rw [if_neg hfour]
  simp only [returns_bind, returns_readHalf]
  rw [if_neg hbound]
  simp only [returns_bind, returns_readByte, hprotocol, IP_HEADER_LENGHT]
  rw [if_neg (by decide), if_pos trivial, returns_bind]
  simp only [returns_pure]
  constructor
  · rintro ⟨_, _, _, _, hudp⟩
    exact ⟨by omega, hudp⟩
  · rintro ⟨_, hudp⟩
    exact ⟨by omega, by omega, by omega, by omega, hudp⟩

theorem returns_ethernet_ipv4 (hlow : 1 ≤ size) (hhigh : size ≤ E1000_DEFAULT_BUFFER_SIZE)
    (htype : fromNetByteOrder16 (half frame 12) = ETHERTYPE_IPV4) (P : Int × Handled → Prop) :
    Returns (networkHandleEthernet net frame size) P ↔ 14 ≤ frame.length ∧
        Returns (networkHandleIpv4 (saveCallerMac net fun k => byte frame (6 + k)) frame 14
            (size - 14)) fun out =>
          P (0, ⟨.ipv4, 14, size - 14⟩ :: out.1, out.2) := by
  unfold networkHandleEthernet
  rw [if_neg (by rw [hnet.initialized]; decide), if_neg (by rw [hnet.unlocked]; decide),
    if_neg (by omega)]
  simp only [returns_bind, returns_readArray, returns_readHalf, htype, ETHERNET_HEADER_LENGHT]
  rw [if_neg (by decide), if_pos trivial, returns_bind]
  simp only [returns_pure]
  constructor
  · rintro ⟨_, _, hip⟩
    exact ⟨by omega, hip⟩
  · rintro ⟨_, hip⟩
    exact ⟨by omega, by omega, hip⟩

end Receive

theorem networkSendUdp_sent (hnet : Initialized net) (hnic : net.currentNIC = some nic)
    (hold : nic.txBuffers nic.txCur = some old) (source target : Ipv4) (mac : Mac)
    (sport dport : UInt16) (hdata : data.length ≤ 512) :
    ∃ sent, networkSendUdp net source target mac sport dport data = .ok (0, sent) ∧
      Initialized sent ∧
      sentFrame net sent =
        some (udpFrame (nic.setAddress source) source target mac sport dport data ++
          old.drop (42 + data.length), 42 + data.length) := by
  have hroom : 42 + data.length ≤ E1000_DEFAULT_BUFFER_SIZE := by
    rw [E1000_DEFAULT_BUFFER_SIZE]
    omega
  have hsend := networkSendUdp_ok hnet hnic hold source target mac sport dport hroom
  obtain ⟨out, hok, hinit⟩ := networkSendUdp_initialized hnet source target mac sport dport hroom
  rw [hsend] at hok
  cases hok
  have hlength : (UInt16.ofNat (42 + data.length)).toNat = 42 + data.length := by
    rw [UInt16.toNat_ofNat']
    omega
  refine ⟨_, hsend, hinit, ?_⟩
  unfold sentFrame
  rw [hnic]
  dsimp only
  unfold IntelNic.transmit IntelNic.setAddress
  dsimp only
  rw [Function.update_self, Function.update_self, Option.map_some, hlength]

theorem packetBytes_getD (h : n ≤ payload.length) :
    packetBytes (fun i => payload.getD i 0) n = payload.take n := by
  apply List.ext_getElem
  · rw [packetBytes_length, List.length_take, Nat.min_eq_left h]
  · intro i hi _
    rw [packetBytes_length] at hi
    simp only [packetBytes, List.getElem_map, List.getElem_range, List.getElem_take]
    rw [List.getD_eq_getElem?_getD, List.getElem?_eq_getElem (Nat.lt_of_lt_of_le hi h),
      Option.getD_some]

theorem pushes_pushed (net net' : Network) {page : Nat → UInt8} {packet : List UInt8}
    (hpackets : net'.packets = pushed net.packets page payload) (hlen : 512 ≤ payload.length) :
    Pushes net net' packet ↔ payload.take 512 = packet := by
  have hbytes : packetBytes (copyPacket page (fun i => payload.getD i 0) 512) 512 =
      payload.take 512 := by
    rw [packetBytes_copyPacket, packetBytes_getD hlen]
  unfold Pushes
  rw [hpackets, pushed]
  constructor
  · rintro ⟨page', hpage, hpacket⟩
    have hslot := congrFun (congrArg NetworkBuffer.payloadPtr hpage) net.packets.receiveTail
    simp only [storePacket, Function.update_self, Option.some.injEq] at hslot
    rw [← hbytes, hslot, hpacket]
  · intro h
    exact ⟨_, rfl, hbytes.trans h⟩

theorem received_length (t : List UInt8) : (received t).length = 1024 := by
  rw [received, pad, List.length_append, List.length_replicate]
  split
  · omega
  · rfl

theorem returns_ethernet_udp (hnet : Initialized net) {buffer : Buffer} {source target : Ipv4}
    {tail : List UInt8} (h : CarriesUdp buffer source target 11888 n tail) (hn : n ≤ 512)
    (packet : List UInt8) :
    Returns (networkHandleEthernet net buffer (42 + n : Nat)) (fun out =>
        out.1 = 0 ∧ out.2.1 = [⟨.ipv4, 14, (42 + n : Nat) - 14⟩, ⟨.udp, 34, 8 + n⟩] ∧
          Pushes net out.2.2 packet) ↔
      0 ∈ tail ∧ (received (text tail)).take 512 = packet := by
  have htype : fromNetByteOrder16 (half buffer 12) = ETHERTYPE_IPV4 := by
    rw [h.type, fromNetByteOrder16_toNetByteOrder16]
  have hversion : FrameSafety.IsVersion4 buffer 14 := by
    rw [FrameSafety.IsVersion4, h.version]
    decide
  have hipLenght : FrameSafety.ipLenght buffer 14 = 28 + n := by
    rw [FrameSafety.ipLenght, h.ipLen, fromNetByteOrder16_ipLen hn]
  have hport : fromNetByteOrder16 (half buffer (34 + 2)) = 11888 := by
    rw [h.dport, fromNetByteOrder16_toNetByteOrder16]
  have hcallers : Initialized (saveCallerIpv4 (saveCallerMac net fun k => byte buffer (6 + k))
      fun k => byte buffer (14 + 12 + k)) :=
    ⟨hnet.initialized, hnet.unlocked, hnet.nic, hnet.packets, hnet.tail, hnet.pages⟩
  obtain ⟨page, hpage⟩ := hnet.pages _ hnet.tail
  rw [returns_ethernet_ipv4 hnet (by omega) (by rw [E1000_DEFAULT_BUFFER_SIZE]; omega) htype,
    returns_ipv4_udp hversion (by omega) h.protocol, returns_udp_push hcallers hport]
  have hdrop : buffer.drop (34 + 8) = tail := h.data
  have hsize : ((28 + n : Nat) : Int) - 20 = 8 + n := by omega
  have hlength := received_length (text tail)
  simp only [hdrop, hipLenght, hsize]
  constructor
  · rintro ⟨_, _, hzero, page', _, _, _, hpush⟩
    exact ⟨hzero, (pushes_pushed net _ rfl (by omega)).mp hpush⟩
  · rintro ⟨hzero, hpacket⟩
    have hlt : 42 < buffer.length := by
      rw [← h.data] at hzero
      exact FrameSafety.Terminated.lt hzero
    exact ⟨by omega, by omega, hzero, page, hpage, trivial, trivial,
      (pushes_pushed net _ rfl (by omega)).mpr hpacket⟩

theorem loops_iff (hnet : Initialized net) (hnic : net.currentNIC = some nic)
    (hold : nic.txBuffers nic.txCur = some old) (source target : Ipv4) (mac : Mac) (sport : UInt16)
    (hdata : data.length ≤ 512) :
    Loops net source target mac sport data ↔ 0 ∈ data ++ old.drop (42 + data.length) ∧
        (received (text (data ++ old.drop (42 + data.length)))).take 512 = pad 512 data := by
  obtain ⟨sent, hsend, hinit, hframe⟩ :=
    networkSendUdp_sent hnet hnic hold source target mac sport 11888 hdata
  have hcarries := udpFrame_carries (nic.setAddress source) source target mac sport 11888 data
    (old.drop (42 + data.length))
  have hsum : OnesComplement.sum 65535
      (networkWords (udpIpHeader source target data.length).bytes) = 65535 :=
    withSum_ones _ (Nat.succ_pos 68)
  rw [← returns_ethernet_udp hinit hcarries hdata]
  unfold Loops
  rw [hsend, returns_ok]
  constructor
  · rintro ⟨_, buffer, size, hbuffer, _, hreturns⟩
    rw [hframe] at hbuffer
    cases hbuffer
    exact hreturns
  · intro hreturns
    refine ⟨rfl, _, _, hframe, ?_, hreturns⟩
    rw [hcarries.ipHeader, hsum]

theorem text_of_mem (h : 0 ∈ bytes) (rest : List UInt8) : text (bytes ++ rest) = text bytes := by
  obtain ⟨behind, hbytes⟩ := eq_text_append h
  rw [hbytes, List.append_assoc, List.cons_append, text_append (zero_notMem_text bytes), text_zero,
    List.append_nil, text_append (zero_notMem_text bytes), text_zero, List.append_nil]

theorem text_length_lt (h : 0 ∈ bytes) : (text bytes).length < bytes.length := by
  obtain ⟨behind, hbytes⟩ := eq_text_append h
  have hlength := congrArg List.length hbytes
  rw [List.length_append, List.length_cons] at hlength
  omega

theorem received_take (h : t.length ≤ 512) : (received t).take 512 = pad 512 t := by
  have hsplit : List.replicate (1024 - t.length) (0 : UInt8) =
      List.replicate (512 - t.length) 0 ++ List.replicate 512 0 := by
    rw [List.replicate_append_replicate]
    congr 1
    omega
  rw [received, if_pos h, pad, hsplit, ← List.append_assoc]
  apply List.take_left'
  rw [List.length_append, List.length_replicate]
  omega

def ZeroTerminated (data : List UInt8) : Prop :=
  ∃ t n, 0 < n ∧ 0 ∉ t ∧ data = t ++ List.replicate n 0

theorem pad_zeros (h : (t ++ List.replicate n 0).length ≤ 512) :
    pad 512 (t ++ List.replicate n 0) = pad 512 t := by
  rw [List.length_append, List.length_replicate] at h
  rw [pad, pad, List.append_assoc, List.replicate_append_replicate, List.length_append,
    List.length_replicate]
  congr 2
  omega

theorem zeroTerminated_of_pad (hzero : 0 ∈ data) (h : pad 512 (text data) = pad 512 data) :
    ZeroTerminated data := by
  obtain ⟨rest, hrest⟩ := eq_text_append hzero
  have hzeros : List.replicate (512 - (text data).length) (0 : UInt8) =
      0 :: rest ++ List.replicate (512 - data.length) 0 := by
    apply (List.append_right_inj (text data)).mp
    rw [← List.append_assoc, ← hrest]
    exact h
  have hall : ∀ b ∈ 0 :: rest, b = 0 := by
    intro b hb
    have hmem := List.mem_append_left (List.replicate (512 - data.length) 0) hb
    rw [← hzeros] at hmem
    exact List.eq_of_mem_replicate hmem
  refine ⟨text data, rest.length + 1, Nat.succ_pos _, zero_notMem_text data, ?_⟩
  have hrest' : 0 :: rest = List.replicate (rest.length + 1) 0 := List.eq_replicate_of_mem hall
  rw [← hrest']
  exact hrest

/-- A send buffer that held a byte and then zeros behind the place of the data. -/
def litteredBuffer (n : Nat) : Buffer :=
  List.replicate (42 + n) 0 ++ 65 :: List.replicate E1000_DEFAULT_BUFFER_SIZE 0

theorem litteredBuffer_length (n : Nat) :
    E1000_DEFAULT_BUFFER_SIZE ≤ (litteredBuffer n).length := by
  rw [litteredBuffer, List.length_append, List.length_cons, List.length_replicate,
    List.length_replicate]
  omega

theorem litteredBuffer_drop (n : Nat) :
    (litteredBuffer n).drop (42 + n) = 65 :: List.replicate E1000_DEFAULT_BUFFER_SIZE 0 := by
  rw [litteredBuffer, List.drop_left' List.length_replicate]

theorem not_received_littered (hdata : data.length ≤ 512) (hzero : 0 ∉ data) :
    (received (text (data ++ (litteredBuffer data.length).drop (42 + data.length)))).take 512 ≠
      pad 512 data := by
  have htext : text (data ++ (litteredBuffer data.length).drop (42 + data.length)) =
      data ++ [65] := by
    obtain ⟨m, hm⟩ : ∃ m, E1000_DEFAULT_BUFFER_SIZE = m + 1 := ⟨8191, rfl⟩
    rw [litteredBuffer_drop, text_append hzero, hm, List.replicate_succ]
    congr 1
  rw [htext]
  intro heq
  rcases Nat.lt_or_eq_of_le hdata with hlt | hfull
  · have hlength : (data ++ [65]).length ≤ 512 := by
      rw [List.length_append, List.length_singleton]
      omega
    rw [received_take hlength, pad, pad, List.append_assoc] at heq
    have hzeros := (List.append_right_inj data).mp heq
    have hmem : (65 : UInt8) ∈ List.replicate (512 - data.length) 0 := by
      rw [← hzeros]
      exact List.mem_cons_self
    exact absurd (List.eq_of_mem_replicate hmem) (by decide)
  · have hlong : ¬ (data ++ [65]).length ≤ 512 := by
      rw [List.length_append, List.length_singleton]
      omega
    rw [received, if_neg hlong, pad, List.nil_append, List.length_nil, List.take_replicate,
      pad, hfull, Nat.sub_self, List.replicate_zero, List.append_nil] at heq
    apply hzero
    rw [← heq]
    exact List.mem_replicate.mpr ⟨by decide, rfl⟩

/-- The frame of a text with a zero behind it is received as it was sent, whatever the send
buffer held, and no other data is. -/
theorem udp_loopback (source target : Ipv4) (mac : Mac) (sport : UInt16) {data : List UInt8}
    (hdata : data.length ≤ 512) :
    (∀ net, Initialized net → net.currentNIC.isSome = true →
      Loops net source target mac sport data) ↔ ZeroTerminated data := by
  constructor
  · intro hloops
    have hnet := initialized_bootedNetwork (litteredBuffer_length data.length)
    have hloop := hloops _ hnet rfl
    rw [loops_iff hnet rfl rfl source target mac sport hdata] at hloop
    by_cases hzero : 0 ∈ data
    · have hlt := text_length_lt hzero
      rw [text_of_mem hzero, received_take (by omega)] at hloop
      exact zeroTerminated_of_pad hzero hloop.2
    · exact absurd hloop.2 (not_received_littered hdata hzero)
  · rintro ⟨t, n, hn, ht, rfl⟩ net hnet hsome
    obtain ⟨nic, hnic⟩ := Option.isSome_iff_exists.mp hsome
    have hready := hnet.nic nic hnic
    obtain ⟨old, hold, _⟩ := hready.txBuffers _ hready.txCur
    have hzero : 0 ∈ t ++ List.replicate n (0 : UInt8) :=
      List.mem_append_right _ (List.mem_replicate.mpr ⟨Nat.ne_of_gt hn, rfl⟩)
    have htext : text (t ++ List.replicate n 0) = t := by
      obtain ⟨m, rfl⟩ := Nat.exists_eq_succ_of_ne_zero (Nat.ne_of_gt hn)
      rw [text_append ht, List.replicate_succ, text_zero, List.append_nil]
    rw [loops_iff hnet hnic hold source target mac sport hdata]
    refine ⟨List.mem_append_left _ hzero, ?_⟩
    have hlength : t.length ≤ 512 := by
      rw [List.length_append] at hdata
      omega
    rw [text_of_mem hzero, htext, received_take hlength, pad_zeros hdata]

theorem udp_loopback_text :
    Loops FrameSafety.zeroNetwork (fun _ => 10) (fun _ => 12) (fun _ => 0xFF) 34885 [104, 105, 0] :=
  (udp_loopback _ _ _ _ (by decide)).mpr ⟨[104, 105], 1, by decide, by decide, rfl⟩ _
    FrameSafety.initialized_zeroNetwork rfl

/-- Data with a zero in it is cut off there, and data without one is received with the byte that
the send buffer held behind it. -/
theorem udp_loopback_loses :
    ¬ Loops FrameSafety.zeroNetwork (fun _ => 10) (fun _ => 12) (fun _ => 0xFF) 34885
        [104, 0, 105] ∧
      ¬ Loops (bootedNetwork (litteredBuffer 2)) (fun _ => 10) (fun _ => 12) (fun _ => 0xFF) 34885
        [104, 105] := by
  constructor
  · intro hloop
    have hshort : ([104, 0, 105] : List UInt8).length ≤ 512 := by decide
    have hiff := loops_iff FrameSafety.initialized_zeroNetwork rfl rfl (fun _ => 10)
      (fun _ => 12) (fun _ => 0xFF) 34885 hshort
    have hreceived := (hiff.mp hloop).2
    rw [text_of_mem (by decide), received_take (by decide)] at hreceived
    have hlast := congrArg (fun bytes => bytes.getD 2 0) hreceived
    exact absurd hlast (by decide)
  · intro hloop
    have hshort : ([104, 105] : List UInt8).length ≤ 512 := by decide
    have hiff := loops_iff (initialized_bootedNetwork (litteredBuffer_length 2)) rfl rfl
      (fun _ => 10) (fun _ => 12) (fun _ => 0xFF) 34885 hshort
    exact not_received_littered hshort (by decide) (hiff.mp hloop).2

end Gramado.Net.Loopback
