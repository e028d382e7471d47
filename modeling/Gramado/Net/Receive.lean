import Gramado.Net.Nic

/-! The handlers of a received frame. A handler gets the frame, the position of its header and
the size that the handler before it passes on. -/

namespace Gramado.Net.Receive

open Library.CheckedRead Net.Frame Net.PacketQueue Net.Nic

inductive Protocol where
  | ipv4
  | arp
  | tcp
  | udp
  | dhcp
  deriving DecidableEq, Repr

structure Segment where
  protocol : Protocol
  base : Nat
  size : Int
  deriving DecidableEq, Repr

abbrev Handled := List Segment × Network

def addressBytes (v : UInt32) : Ipv4 := fun i =>
  .ofNat (v.toNat / 256 ^ i.val)

def networkHandleTcp (net : Network) (buffer : Buffer) (base : Nat) (_size : Int) :
    Except Fault Network := do
  let _sport ← readHalf buffer base
  let _dport ← readHalf buffer (base + 2)
  let _seqNumber ← readWord buffer (base + 4)
  let _ackNumber ← readWord buffer (base + 8)
  let copy ← strncpy (buffer.drop (base + TCP_HEADER_LENGHT)) 1020
  let _flags ← readHalf buffer (base + 12)
  return { net with tcpPayload := pad 1024 copy }

def saveAck (net : Network) (yourIpv4 serverIpv4 : Ipv4) : Network :=
  { net with
    dhcpInfo := ⟨true, 4, yourIpv4, serverIpv4⟩
    isOnline := true }

def networkHandleDhcp (net : Network) (buffer : Buffer) (base : Nat) (_size : Int) :
    Except Fault Network := do
  let yiaddr ← readWord buffer (base + 16)
  let yourIpv4 := addressBytes yiaddr
  let siaddr ← readWord buffer (base + 20)
  let serverIpv4 := addressBytes siaddr
  let _chaddr ← readBytes buffer (base + 28) 6
  let _op ← readByte buffer base
  let messageType ← readByte buffer (base + 242)
  if messageType = DORA_O then
    networkDhcpSend (setStep net 2) buffer base DORA_R yourIpv4 serverIpv4 68 67
  else if messageType = DORA_A then return saveAck net yourIpv4 serverIpv4
  else return net

/-- `udp_payload` behind the copy: 1024 bytes that were cleared before. -/
def udpPayload (buffer : Buffer) (p2 : Nat) : Except Fault (List UInt8) := do
  let pSize ← strlen (buffer.drop p2)
  if pSize ≤ 512 then
    let copy ← strncpy (buffer.drop p2) pSize
    return pad 1024 copy
  else return pad 1024 []

def received (text : List UInt8) : List UInt8 :=
  pad 1024 (if text.length ≤ 512 then text else [])

theorem returns_udpPayload (buffer : Buffer) (p2 : Nat) (P : List UInt8 → Prop) :
    Returns (udpPayload buffer p2) P ↔
      0 ∈ buffer.drop p2 ∧ P (received (text (buffer.drop p2))) := by
  unfold udpPayload received
  rw [returns_bind, returns_strlen]
  apply and_congr_right
  intro hzero
  split
  · rw [returns_bind, returns_strncpy, List.take_length, pad_length_self, returns_pure]
    simp only [hzero, true_or, true_and]
  · exact returns_pure _

/-- `network_push_packet` from the handler, whose buffer is not empty. -/
def pushPayload (net : Network) (payload : List UInt8) : Except Fault Network :=
  match networkPushPacket net.packets (some fun i => payload.getD i 0) 512 with
  | .error message => .error (.panic message)
  | .ok (_, packets) => .ok { net with packets := packets }

def pushed (nb : NetworkBuffer) (page : Nat → UInt8) (payload : List UInt8) : NetworkBuffer :=
  storePacket nb nb.receiveTail (some (copyPacket page (fun i => payload.getD i 0) 512))

theorem pushPayload_ok {net : Network} (hnet : Initialized net) (payload : List UInt8) :
    ∃ page, net.packets.payloadPtr net.packets.receiveTail = some page ∧
      pushPayload net payload = .ok { net with packets := pushed net.packets page payload } := by
  obtain ⟨page, hpage⟩ := hnet.pages _ hnet.tail
  have hinitialized : ¬ net.packets.initialized = false := by
    rw [hnet.packets]
    decide
  refine ⟨page, hpage, ?_⟩
  unfold pushPayload networkPushPacket
  dsimp only
  rw [if_neg hinitialized, if_neg (Nat.not_le.mpr hnet.tail), hpage]
  rfl

def networkHandleUdp (net : Network) (buffer : Buffer) (base : Nat) (_size : Int) :
    Except Fault Handled := do
  let sport ← readHalf buffer base
  let _sport := fromNetByteOrder16 sport
  let dport ← readHalf buffer (base + 2)
  let dport := fromNetByteOrder16 dport
  let payload ← udpPayload buffer (base + UDP_HEADER_LENGHT)
  if dport = 68 then
    let uhUlen ← readHalf buffer (base + 4)
    let size : Int := uhUlen.toNat - UDP_HEADER_LENGHT
    let net ← networkHandleDhcp net buffer (base + UDP_HEADER_LENGHT) size
    return ([⟨.dhcp, base + UDP_HEADER_LENGHT, size⟩], net)
  else if dport = 11888 then
    let net ← pushPayload net payload
    return ([], net)
  else return ([], net)

def saveCallerIpv4 (net : Network) (source : Ipv4) : Network :=
  { net with saved := { net.saved with callerIpv4 := source } }

def networkHandleIpv4 (net : Network) (buffer : Buffer) (base : Nat) (_size : Int) :
    Except Fault Handled := do
  let source ← readArray 4 buffer (base + 12)
  let net := saveCallerIpv4 net source
  let vHl ← readByte buffer base
  if (vHl >>> 4) &&& 0x0F ≠ 4 then return ([], net)
  else
    let ipLen ← readHalf buffer (base + 2)
    let ipLenght := (fromNetByteOrder16 ipLen).toNat
    if ipLenght < 20 ∨ 65535 < ipLenght then .error (.panic "IP: Bad total lenght #debug\n")
    else
      let payloadPointer := base + IP_HEADER_LENGHT
      let payloadSize : Int := ipLenght - IP_HEADER_LENGHT
      let protocol ← readByte buffer (base + 9)
      if protocol = PROTOCOL_IP_TCP then
        let net ← networkHandleTcp net buffer payloadPointer payloadSize
        return ([⟨.tcp, payloadPointer, payloadSize⟩], net)
      else if protocol = PROTOCOL_IP_UDP then
        let (segments, net) ← networkHandleUdp net buffer payloadPointer payloadSize
        return (⟨.udp, payloadPointer, payloadSize⟩ :: segments, net)
      else return ([], net)

def isGateway (spa : Ipv4) : Bool :=
  spa 0 = 192 ∧ spa 1 = 168 ∧ spa 2 = 1 ∧ spa 3 = 1

def saveGateway (net : Network) (spa : Ipv4) (sha : Mac) : Network :=
  { net with
    networkInfo := net.networkInfo.map fun info =>
      if info.initialized = true then { info with gatewayIpv4 := spa, gatewayMac := sha }
      else info }

def networkHandleArp (net : Network) (buffer : Buffer) (base : Nat) (_size : Int) :
    Except Fault Network := do
  let op ← readHalf buffer (base + 6)
  let op := fromNetByteOrder16 op
  if op = ARP_OPC_REQUEST then networkSendArpReply net buffer (base + 8) (base + 14)
  else if op = ARP_OPC_REPLY then
    let spa ← readArray 4 buffer (base + 14)
    if isGateway spa = true ∧ net.networkInfo.any (·.initialized) = true then
      let sha ← readArray 6 buffer (base + 8)
      return saveGateway net spa sha
    else return net
  else return net

def saveCallerMac (net : Network) (source : Mac) : Network :=
  { net with saved := { net.saved with callerMac := source } }

def networkHandleEthernet (net : Network) (frame : Buffer) (frameSize : Int) :
    Except Fault (Int × Handled) :=
  if net.initialized = false then .ok (-1, [], net)
  else if net.locked = true then .ok (-1, [], net)
  else if frameSize ≤ 0 ∨ E1000_DEFAULT_BUFFER_SIZE < frameSize then .ok (-1, [], net)
  else do
    let source ← readArray 6 frame 6
    let net := saveCallerMac net source
    let type ← readHalf frame 12
    let type := fromNetByteOrder16 type
    let payload := ETHERNET_HEADER_LENGHT
    let size := frameSize - ETHERNET_HEADER_LENGHT
    if type = ETHERTYPE_IPV6 then return (-1, [], net)
    else if type = ETHERTYPE_IPV4 then
      let (segments, net) ← networkHandleIpv4 net frame payload size
      return (0, ⟨.ipv4, payload, size⟩ :: segments, net)
    else if type = ETHERTYPE_ARP then
      let net ← networkHandleArp net frame payload size
      return (0, [⟨.arp, payload, size⟩], net)
    else return (-1, [], net)

end Gramado.Net.Receive
