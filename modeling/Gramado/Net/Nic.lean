import Gramado.Net.Frame
import Gramado.Net.PacketQueue

/-! The state of the network and the frames that it sends. -/

namespace Gramado.Net.Nic

open Library.CheckedRead Net.Frame Net.PacketQueue

def SEND_BUFFER_MAX : Nat := 8

def ARP_OPC_REQUEST : UInt16 := 1
def ARP_OPC_REPLY : UInt16 := 2

def DORA_D : UInt8 := 1
def DORA_O : UInt8 := 2
def DORA_R : UInt8 := 3
def DORA_A : UInt8 := 5

/-- `intel_nic_info_d`. A send buffer is the readable memory from its first byte on;
`txLengths` are the lengths in the transmit descriptors. -/
structure IntelNic where
  magic : Int
  macAddress : Mac
  ipAddress : Ipv4
  txCur : Nat
  txBuffers : Nat → Option Buffer
  txLengths : Nat → UInt16

/-- `dhcp_info_d`. -/
structure DhcpInfo where
  initialized : Bool
  step : Nat
  yourIpv4 : Ipv4
  serverIpv4 : Ipv4

/-- `network_info_d`. -/
structure NetworkInfo where
  initialized : Bool
  gatewayIpv4 : Ipv4
  gatewayMac : Mac

/-- `network_saved_d`. -/
structure NetworkSaved where
  callerMac : Mac
  callerIpv4 : Ipv4

structure Network where
  initialized : Bool
  locked : Bool
  isOnline : Bool
  saved : NetworkSaved
  currentNIC : Option IntelNic
  networkInfo : Option NetworkInfo
  dhcpInfo : DhcpInfo
  packets : NetworkBuffer
  tcpPayload : List UInt8
  jiffies : UInt64
  nodename : Fin 7 → UInt8

/-- The bytes of a copy to the start of a buffer, which has to have room for them. -/
def writeBuffer (buffer data : List UInt8) : Except Fault Buffer :=
  if data.length ≤ buffer.length then .ok (data ++ buffer.drop data.length)
  else .error .outside

def IntelNic.fill (nic : IntelNic) (buffer : Buffer) : IntelNic :=
  { nic with txBuffers := Function.update nic.txBuffers nic.txCur (some buffer) }

/-- The buffer of the current descriptor filled with a frame, and the next descriptor. -/
def IntelNic.transmit (nic : IntelNic) (buffer : Buffer) (len : Nat) : IntelNic :=
  { nic with
    txBuffers := Function.update nic.txBuffers nic.txCur (some buffer)
    txLengths := Function.update nic.txLengths nic.txCur (.ofNat len)
    txCur := (nic.txCur + 1) % 8 }

def e1000hwSend (nic : IntelNic) (data : List UInt8) : Except Fault (Int × IntelNic) :=
  if nic.magic ≠ 1234 then .ok (-1, nic)
  else if data.length = 0 then .error (.panic "e1000_send: len=0\n")
  else if E1000_DEFAULT_BUFFER_SIZE < data.length then .error (.panic "e1000_send: len\n")
  else if SEND_BUFFER_MAX ≤ nic.txCur then .error (.panic "e1000_send: old\n")
  else
    match nic.txBuffers nic.txCur with
    | none => .error .outside
    | some buffer => do
        let buffer ← writeBuffer buffer data
        return (0, nic.transmit buffer data.length)

def ethernetSend (net : Network) (data : List UInt8) : Except Fault (Int × Network) :=
  match net.currentNIC with
  | none => .ok (-1, net)
  | some nic => do
      let (_, nic) ← e1000hwSend nic data
      return (0, { net with currentNIC := some nic })

def sendFrame (net : Network) (nic : IntelNic) (message : String) (frame : List UInt8) :
    Except Fault Network :=
  match nic.txBuffers nic.txCur with
  | none => .error (.panic message)
  | some buffer => do
      let buffer ← writeBuffer buffer frame
      let (_, net) ← ethernetSend { net with currentNIC := some (nic.fill buffer) } frame
      return net

def IntelNic.setAddress (nic : IntelNic) (ip : Ipv4) : IntelNic :=
  { nic with ipAddress := ip }

structure IntelNic.Ready (nic : IntelNic) : Prop where
  magic : nic.magic = 1234
  txCur : nic.txCur < SEND_BUFFER_MAX
  txBuffers : ∀ i < SEND_BUFFER_MAX, ∃ buffer,
    nic.txBuffers i = some buffer ∧ E1000_DEFAULT_BUFFER_SIZE ≤ buffer.length

structure Initialized (net : Network) : Prop where
  initialized : net.initialized = true
  unlocked : net.locked = false
  nic : ∀ nic, net.currentNIC = some nic → nic.Ready
  packets : net.packets.initialized = true
  tail : net.packets.receiveTail < DEFAULT_NUMBER_OF_NETWORK_BUFFERS
  pages : ∀ i < DEFAULT_NUMBER_OF_NETWORK_BUFFERS, ∃ page, net.packets.payloadPtr i = some page

variable {nic : IntelNic} {buffer : Buffer} {data frame : List UInt8} {net : Network}

theorem IntelNic.Ready.fill (h : nic.Ready) (hbuffer : E1000_DEFAULT_BUFFER_SIZE ≤ buffer.length) :
    (nic.fill buffer).Ready := by
  refine ⟨h.magic, h.txCur, ?_⟩
  intro i hi
  change ∃ b, Function.update nic.txBuffers nic.txCur (some buffer) i = some b ∧ _
  by_cases hcur : i = nic.txCur
  · rw [hcur, Function.update_self]
    exact ⟨buffer, rfl, hbuffer⟩
  · rw [Function.update_of_ne hcur]
    exact h.txBuffers i hi

theorem IntelNic.Ready.transmit (h : nic.Ready) {len : Nat}
    (hbuffer : E1000_DEFAULT_BUFFER_SIZE ≤ buffer.length) : (nic.transmit buffer len).Ready :=
  ⟨h.magic, Nat.mod_lt _ (by decide), (h.fill hbuffer).txBuffers⟩

theorem writeBuffer_ok {buffer : List UInt8} (h : data.length ≤ buffer.length) :
    writeBuffer buffer data = .ok (data ++ buffer.drop data.length) := by
  rw [writeBuffer, if_pos h]

theorem length_writeBuffer {buffer : List UInt8} (h : data.length ≤ buffer.length) :
    (data ++ buffer.drop data.length).length = buffer.length := by
  rw [List.length_append, List.length_drop]
  omega

theorem e1000hwSend_ok {buffer : List UInt8} (hnic : nic.Ready)
    (hbuffer : nic.txBuffers nic.txCur = some buffer) (hpos : 0 < data.length)
    (hlen : data.length ≤ E1000_DEFAULT_BUFFER_SIZE) (hfits : data.length ≤ buffer.length) :
    e1000hwSend nic data = .ok (0, nic.transmit (data ++ buffer.drop data.length) data.length) := by
  unfold e1000hwSend
  rw [if_neg (not_not_intro hnic.magic), if_neg (Nat.ne_of_gt hpos), if_neg (Nat.not_lt.mpr hlen),
    if_neg (Nat.not_le.mpr hnic.txCur), hbuffer]
  dsimp only
  rw [writeBuffer_ok hfits]
  rfl

theorem transmit_fill (nic : IntelNic) (buffer buffer' : Buffer) (len : Nat) :
    (nic.fill buffer).transmit buffer' len = nic.transmit buffer' len := by
  unfold IntelNic.transmit IntelNic.fill
  dsimp only
  rw [Function.update_idem]

theorem sendFrame_ok (net : Network) (message : String) {buffer : List UInt8} (hnic : nic.Ready)
    (hbuffer : nic.txBuffers nic.txCur = some buffer) (hpos : 0 < frame.length)
    (hlen : frame.length ≤ E1000_DEFAULT_BUFFER_SIZE) :
    sendFrame net nic message frame = .ok { net with
        currentNIC := some (nic.transmit (frame ++ buffer.drop frame.length) frame.length) } := by
  obtain ⟨buffer', hbuffer', hroom⟩ := hnic.txBuffers nic.txCur hnic.txCur
  rw [hbuffer] at hbuffer'
  cases hbuffer'
  have hfits : frame.length ≤ buffer.length := Nat.le_trans hlen hroom
  have hlength := length_writeBuffer hfits
  have hfilled : (nic.fill (frame ++ buffer.drop frame.length)).txBuffers nic.txCur =
      some (frame ++ buffer.drop frame.length) := Function.update_self ..
  have hsend := e1000hwSend_ok (hnic.fill (by rw [hlength]; exact hroom)) hfilled hpos hlen
    (by rw [hlength]; exact hfits)
  rw [transmit_fill, List.drop_left] at hsend
  unfold sendFrame
  rw [hbuffer]
  dsimp only
  rw [writeBuffer_ok hfits, ok_bind]
  unfold ethernetSend
  dsimp only
  change (e1000hwSend (nic.fill _) frame >>= _) >>= _ = _
  rw [hsend]
  rfl

theorem sendFrame_initialized (hnet : Initialized net) (message : String) (hnic : nic.Ready)
    (hpos : 0 < frame.length) (hlen : frame.length ≤ E1000_DEFAULT_BUFFER_SIZE) :
    Returns (sendFrame net nic message frame) Initialized := by
  obtain ⟨buffer, hbuffer, hroom⟩ := hnic.txBuffers nic.txCur hnic.txCur
  refine ⟨_, sendFrame_ok net message hnic hbuffer hpos hlen, ?_⟩
  refine ⟨hnet.initialized, hnet.unlocked, ?_, hnet.packets, hnet.tail, hnet.pages⟩
  intro nic' hnic'
  cases hnic'
  apply hnic.transmit
  rw [length_writeBuffer (Nat.le_trans hlen hroom)]
  exact hroom

def etherHeader (nic : IntelNic) (targetMac : Mac) (type : UInt16) : EtherHeader where
  macDst := targetMac
  macSrc := nic.macAddress
  type := toNetByteOrder16 type

def udpIpHeader (sourceIp targetIp : Ipv4) (dataLenght : Nat) : IpHeader :=
  IpHeader.withSum
    { vHl := 0x45
      ipTos := 0
      ipLen := toNetByteOrder16 (.ofNat IP_HEADER_LENGHT +
        (.ofNat UDP_HEADER_LENGHT + .ofNat dataLenght))
      ipId := 0
      ipOff := toNetByteOrder16 0x4000
      ipTtl := 255
      ipP := 0x11
      ipSum := 0
      ipSrc := sourceIp
      ipDst := targetIp }

def udpHeader (sourcePort targetPort : UInt16) (dataLenght : Nat) : UdpHeader where
  uhSport := toNetByteOrder16 sourcePort
  uhDport := toNetByteOrder16 targetPort
  uhUlen := toNetByteOrder16 (.ofNat UDP_HEADER_LENGHT + .ofNat dataLenght)
  uhSum := 0

def udpFrame (nic : IntelNic) (sourceIp targetIp : Ipv4) (targetMac : Mac)
    (sourcePort targetPort : UInt16) (data : List UInt8) : List UInt8 :=
  (etherHeader nic targetMac ETHERTYPE_IPV4).bytes ++
    (udpIpHeader sourceIp targetIp data.length).bytes ++
    (udpHeader sourcePort targetPort data.length).bytes ++ data

theorem udpFrame_length (nic : IntelNic) (sourceIp targetIp : Ipv4) (targetMac : Mac)
    (sourcePort targetPort : UInt16) (data : List UInt8) :
    (udpFrame nic sourceIp targetIp targetMac sourcePort targetPort data).length =
      42 + data.length := by
  simp [udpFrame, EtherHeader.bytes, IpHeader.bytes, UdpHeader.bytes, halfBytes]
  omega

def networkSendUdp (net : Network) (sourceIp targetIp : Ipv4) (targetMac : Mac)
    (sourcePort targetPort : UInt16) (data : List UInt8) : Except Fault (Int × Network) :=
  match net.currentNIC with
  | none => .ok (-1, net)
  | some nic => do
      let nic := nic.setAddress sourceIp
      let net ← sendFrame net nic "network_send_udp: frame\n"
        (udpFrame nic sourceIp targetIp targetMac sourcePort targetPort data)
      return (0, net)

theorem networkSendUdp_ok (hnet : Initialized net) (hnic : net.currentNIC = some nic)
    (hbuffer : nic.txBuffers nic.txCur = some buffer) (sourceIp targetIp : Ipv4) (targetMac : Mac)
    (sourcePort targetPort : UInt16) (hdata : 42 + data.length ≤ E1000_DEFAULT_BUFFER_SIZE) :
    networkSendUdp net sourceIp targetIp targetMac sourcePort targetPort data = .ok (0, { net with
        currentNIC := some ((nic.setAddress sourceIp).transmit
          (udpFrame (nic.setAddress sourceIp) sourceIp targetIp targetMac sourcePort targetPort
            data ++ buffer.drop (42 + data.length)) (42 + data.length)) }) := by
  have hready := hnet.nic nic hnic
  have hready' : (nic.setAddress sourceIp).Ready := ⟨hready.magic, hready.txCur, hready.txBuffers⟩
  have hlength := udpFrame_length (nic.setAddress sourceIp) sourceIp targetIp targetMac sourcePort
    targetPort data
  have hsend := sendFrame_ok net "network_send_udp: frame\n" hready' hbuffer
    (by rw [hlength]; exact Nat.lt_of_lt_of_le (by decide) (Nat.le_add_right 42 _))
    (by rw [hlength]; exact hdata)
  rw [hlength] at hsend
  unfold networkSendUdp
  rw [hnic]
  dsimp only
  rw [hsend]
  rfl

theorem networkSendUdp_initialized (hnet : Initialized net) (sourceIp targetIp : Ipv4)
    (targetMac : Mac) (sourcePort targetPort : UInt16)
    (hdata : 42 + data.length ≤ E1000_DEFAULT_BUFFER_SIZE) :
    Returns (networkSendUdp net sourceIp targetIp targetMac sourcePort targetPort data)
      fun out => Initialized out.2 := by
  unfold networkSendUdp
  split
  · simpa using hnet
  · rename_i nic hnic
    have hready := hnet.nic nic hnic
    rw [returns_bind]
    simp only [returns_pure]
    have hready' : (nic.setAddress sourceIp).Ready := ⟨hready.magic, hready.txCur, hready.txBuffers⟩
    refine sendFrame_initialized hnet _ hready' ?_ ?_
    · rw [udpFrame_length]
      exact Nat.lt_of_lt_of_le (by decide) (Nat.le_add_right 42 _)
    · rw [udpFrame_length]
      exact hdata

def arpFrame (nic : IntelNic) (targetMac : Mac) (sourceIp targetIp : Ipv4) (op : UInt16) :
    List UInt8 :=
  (etherHeader nic targetMac ETHERTYPE_ARP).bytes ++
    EtherArp.bytes
      { type := 0x0100
        proto := 0x0008
        hlen := 6
        plen := 4
        op := toNetByteOrder16 op
        arpSha := nic.macAddress
        arpSpa := sourceIp
        arpTha := targetMac
        arpTpa := targetIp }

theorem arpFrame_length (nic : IntelNic) (targetMac : Mac) (sourceIp targetIp : Ipv4)
    (op : UInt16) : (arpFrame nic targetMac sourceIp targetIp op).length = 42 := by
  simp [arpFrame, EtherHeader.bytes, EtherArp.bytes, halfBytes]

/-- `network_send_arp` to the addresses that two pointers into the buffer name. -/
def networkSendArp (net : Network) (buffer : Buffer) (targetMac : Nat) (sourceIp : Ipv4)
    (targetIp : Nat) (op : UInt16) : Except Fault Network :=
  match net.currentNIC with
  | none => .ok net
  | some nic => do
      let nic := nic.setAddress sourceIp
      let mac ← readArray 6 buffer targetMac
      if op ≠ ARP_OPC_REQUEST ∧ op ≠ ARP_OPC_REPLY then
        .error (.panic "network_send_arp: Invalid operation code\n")
      else
        let ip ← readArray 4 buffer targetIp
        sendFrame net nic "network_send_arp: frame\n" (arpFrame nic mac sourceIp ip op)

def networkSendArpReply (net : Network) (buffer : Buffer) (targetMac targetIp : Nat) :
    Except Fault Network :=
  if net.dhcpInfo.initialized = false then .ok net
  else networkSendArp net buffer targetMac net.dhcpInfo.yourIpv4 targetIp ARP_OPC_REPLY

def DHCP_SIZE : Nat := 548

/-- The transaction id: `rand` depends on `jiffies` only. -/
def dhcpXid (jiffies : UInt64) : UInt32 :=
  jiffies.toUInt32 * 8 + 8 + 0x3903F326

def dhcpHeader (net : Network) (nic : IntelNic) (messageType : UInt8) : List UInt8 :=
  [1, 1, 6, 0] ++ wordBytes (toNetByteOrder32 (dhcpXid net.jiffies)) ++
    halfBytes (toNetByteOrder16 0) ++
    halfBytes (toNetByteOrder16 (if messageType = DORA_D then 0x8000 else 0)) ++
    List.replicate 16 0 ++ List.ofFn nic.macAddress ++ List.replicate 10 0 ++
    List.replicate 64 0 ++ List.replicate 128 0 ++ wordBytes (toNetByteOrder32 0x63825363)

def dhcpOptions (net : Network) (messageType : UInt8) (sourceIp targetIp : Ipv4) : List UInt8 :=
  [53, 1, messageType] ++
    if messageType = DORA_D then [55, 3, 1, 3, 6, 255]
    else
      [50, 4] ++ List.ofFn sourceIp ++ [54, 4] ++ List.ofFn targetIp ++ [55, 3, 1, 3, 6] ++
        [12, 7] ++ List.ofFn net.nodename ++ [255]

/-- The message is built over the one at the pointer, whose last options stay. -/
def dhcpMessage (net : Network) (nic : IntelNic) (messageType : UInt8)
    (sourceIp targetIp : Ipv4) (old : List UInt8) : List UInt8 :=
  let front := dhcpHeader net nic messageType ++ dhcpOptions net messageType sourceIp targetIp
  front ++ old.drop front.length

theorem dhcpMessage_length (net : Network) (nic : IntelNic) (messageType : UInt8)
    (sourceIp targetIp : Ipv4) {old : List UInt8} (h : old.length = DHCP_SIZE) :
    (dhcpMessage net nic messageType sourceIp targetIp old).length = DHCP_SIZE := by
  have hfront : (dhcpHeader net nic messageType ++
      dhcpOptions net messageType sourceIp targetIp).length ≤ DHCP_SIZE := by
    unfold dhcpHeader dhcpOptions
    split <;>
      simp only [halfBytes, wordBytes, DHCP_SIZE, List.length_append, List.length_cons,
        List.length_nil, List.length_replicate, List.length_ofFn] <;> omega
  rw [dhcpMessage, List.length_append, List.length_drop]
  omega

def setStep (net : Network) (step : Nat) : Network :=
  { net with dhcpInfo := { net.dhcpInfo with step := step } }

def networkDhcpSend (net : Network) (buffer : Buffer) (dhcp : Nat) (messageType : UInt8)
    (sourceIp targetIp : Ipv4) (sport dport : UInt16) : Except Fault Network :=
  match net.currentNIC with
  | none => .ok net
  | some nic =>
      if messageType ≠ DORA_D ∧ messageType ≠ DORA_R then .ok net
      else do
        let net := setStep net (if messageType = DORA_D then 1 else 3)
        let old ← readBytes buffer dhcp DHCP_SIZE
        let (_, net) ← networkSendUdp net (fun _ => 0) (fun _ => 0xFF) (fun _ => 0xFF) sport dport
          (dhcpMessage net nic messageType sourceIp targetIp old)
        return net

/-- The card behind its reset, each of whose send buffers holds the same bytes. -/
def bootedNic (buffer : Buffer) : IntelNic where
  magic := 1234
  macAddress _ := 0
  ipAddress _ := 0
  txCur := 0
  txBuffers _ := some buffer
  txLengths _ := 8192

def bootedNetwork (buffer : Buffer) : Network where
  initialized := true
  locked := false
  isOnline := false
  saved := ⟨fun _ => 0, fun _ => 0⟩
  currentNIC := some (bootedNic buffer)
  networkInfo := none
  dhcpInfo := ⟨false, 0, fun _ => 0, fun _ => 0⟩
  packets := netInitialize fun _ _ => 0
  tcpPayload := []
  jiffies := 0
  nodename _ := 0

theorem initialized_bootedNetwork (h : E1000_DEFAULT_BUFFER_SIZE ≤ buffer.length) :
    Initialized (bootedNetwork buffer) := by
  refine ⟨rfl, rfl, ?_, rfl, Nat.succ_pos 31, fun _ _ => ⟨_, rfl⟩⟩
  intro nic hnic
  cases hnic
  exact ⟨rfl, Nat.succ_pos 7, fun _ _ => ⟨buffer, rfl, h⟩⟩

end Gramado.Net.Nic
