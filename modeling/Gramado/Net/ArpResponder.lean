import Mathlib.Data.Fin.VecNotation
import Gramado.Net.Dhcp
import Gramado.Net.Loopback

/-! Which ARP packets the host answers. -/

namespace Gramado.Net.ArpResponder

open Library.CheckedRead Net.Frame Net.Nic Net.Receive
open Net.Dhcp (sentFrame sentFrame_same byte_append_right half_append_right)
open Net.Loopback (half_halfBytes)

def ARPHRD_ETHER : UInt16 := 1

def etherArpAt (buffer : Buffer) (i : Nat) : EtherArp where
  type := half buffer i
  proto := half buffer (i + 2)
  hlen := byte buffer (i + 4)
  plen := byte buffer (i + 5)
  op := half buffer (i + 6)
  arpSha k := byte buffer (i + 8 + k)
  arpSpa k := byte buffer (i + 14 + k)
  arpTha k := byte buffer (i + 18 + k)
  arpTpa k := byte buffer (i + 24 + k)

/-- The header of a packet that maps addresses of IPv4 to addresses of Ethernet. -/
structure IsEthernetIpv4 (arp : EtherArp) : Prop where
  type : fromNetByteOrder16 arp.type = ARPHRD_ETHER
  proto : fromNetByteOrder16 arp.proto = ETHERTYPE_IPV4
  hlen : arp.hlen = 6
  plen : arp.plen = 4

def operation (arp : EtherArp) : UInt16 :=
  fromNetByteOrder16 arp.op

/-- A whole packet that asks for the hardware address of the host. -/
structure IsRequestFor (arp : EtherArp) (size : Int) (ip : Ipv4) : Prop where
  size : ARP_HEADER_LENGTH ≤ size
  header : IsEthernetIpv4 arp
  op : operation arp = ARP_OPC_REQUEST
  target : arp.arpTpa = ip

/-- The answer to a packet by the host with these addresses. -/
structure IsReplyTo (request reply : EtherArp) (mac : Mac) (ip : Ipv4) : Prop where
  header : IsEthernetIpv4 reply
  op : operation reply = ARP_OPC_REPLY
  sha : reply.arpSha = mac
  spa : reply.arpSpa = ip
  tha : reply.arpTha = request.arpSha
  tpa : reply.arpTpa = request.arpSpa

structure IsFromGateway (arp : EtherArp) : Prop where
  op : operation arp = ARP_OPC_REPLY
  spa : isGateway arp.arpSpa = true

/-- What is asked of the handler: the host answers just the requests for its own address, with
its own addresses, and learns the gateway from the gateway only. -/
def Responds (net : Network) (nic : IntelNic) (buffer : Buffer) (base : Nat) (size : Int) : Prop :=
  Returns (networkHandleArp net buffer base size) fun after =>
    ((sentFrame net after).isSome = true ↔
      IsRequestFor (etherArpAt buffer base) size net.dhcpInfo.yourIpv4) ∧
    (∀ frame, sentFrame net after = some frame →
      IsReplyTo (etherArpAt buffer base) (etherArpAt frame ETHERNET_HEADER_LENGHT)
        nic.macAddress net.dhcpInfo.yourIpv4) ∧
    (after.networkInfo ≠ net.networkInfo → IsFromGateway (etherArpAt buffer base))

variable {nic : IntelNic}

theorem byte_behind {front rest : List UInt8} {i : Nat} (hi : front.length = i) {n : Nat}
    (f : Fin n → UInt8) (k : Fin n) : byte (front ++ (List.ofFn f ++ rest)) (i + k) = f k := by
  rw [byte_append_right _ (by omega), hi, Nat.add_sub_cancel_left, byte,
    List.getD_eq_getElem?_getD, List.getElem?_append_left (by simp), List.getElem?_ofFn,
    dif_pos k.isLt]
  rfl

theorem etherArpAt_bytes (arp : EtherArp) : etherArpAt arp.bytes 0 = arp := by
  obtain ⟨type, proto, hlen, plen, op, sha, spa, tha, tpa⟩ := arp
  have hbytes : EtherArp.bytes ⟨type, proto, hlen, plen, op, sha, spa, tha, tpa⟩ =
      (halfBytes type ++ halfBytes proto ++ [hlen, plen] ++ halfBytes op) ++ (List.ofFn sha ++
        (List.ofFn spa ++ (List.ofFn tha ++ List.ofFn tpa))) := by
    simp [EtherArp.bytes]
  rw [hbytes]
  simp only [etherArpAt, EtherArp.mk.injEq]
  refine ⟨half_halfBytes _, half_halfBytes _, rfl, rfl, half_halfBytes _, ?_, ?_, ?_, ?_⟩
  · funext k
    exact byte_behind rfl sha k
  · funext k
    rw [← List.append_assoc]
    exact byte_behind (by simp [halfBytes]) spa k
  · funext k
    rw [← List.append_assoc, ← List.append_assoc]
    exact byte_behind (by simp [halfBytes]) tha k
  · funext k
    rw [← List.append_assoc, ← List.append_assoc, ← List.append_assoc,
      ← List.append_nil (List.ofFn tpa)]
    exact byte_behind (by simp [halfBytes]) tpa k

theorem etherArpAt_append (front : List UInt8) (bytes : List UInt8) :
    etherArpAt (front ++ bytes) front.length = etherArpAt bytes 0 := by
  have hbyte (k : Nat) : byte (front ++ bytes) (front.length + k) = byte bytes k := by
    rw [byte_append_right _ (Nat.le_add_right _ k), Nat.add_sub_cancel_left]
  have hhalf (k : Nat) : half (front ++ bytes) (front.length + k) = half bytes k := by
    rw [half_append_right _ (Nat.le_add_right _ k), Nat.add_sub_cancel_left]
  have htype := hhalf 0
  rw [Nat.add_zero] at htype
  simp only [etherArpAt, hbyte, hhalf, htype, Nat.add_assoc, Nat.zero_add]

theorem isEthernetIpv4_of {arp : EtherArp} (htype : arp.type = 0x0100)
    (hproto : arp.proto = 0x0008) (hhlen : arp.hlen = 6) (hplen : arp.plen = 4) :
    IsEthernetIpv4 arp where
  type := by
    rw [htype]
    decide
  proto := by
    rw [hproto]
    decide
  hlen := hhlen
  plen := hplen

theorem isReplyTo_arpFrame (nic : IntelNic) (request : EtherArp) (ip : Ipv4) : IsReplyTo request
      (etherArpAt (arpFrame nic request.arpSha ip request.arpSpa ARP_OPC_REPLY)
        ETHERNET_HEADER_LENGHT) nic.macAddress ip := by
  have hfront : (etherHeader nic request.arpSha ETHERTYPE_ARP).bytes.length =
      ETHERNET_HEADER_LENGHT := by
    simp [EtherHeader.bytes, halfBytes, ETHERNET_HEADER_LENGHT]
  rw [arpFrame, ← hfront, etherArpAt_append, etherArpAt_bytes]
  have hop := fromNetByteOrder16_toNetByteOrder16 ARP_OPC_REPLY
  exact ⟨isEthernetIpv4_of rfl rfl rfl rfl, hop, rfl, rfl, rfl, rfl⟩

theorem sentFrame_transmit {net : Network} (hnic : net.currentNIC = some nic)
    (hcur : nic.txCur < SEND_BUFFER_MAX) (ip : Ipv4) {frame : List UInt8}
    (hframe : frame.length < 65536) (rest : List UInt8) :
    sentFrame net { net with
      currentNIC := some ((nic.setAddress ip).transmit (frame ++ rest) frame.length) } =
        some frame := by
  have hlt : nic.txCur < 8 := hcur
  have hnext : (nic.txCur + 1) % 8 ≠ nic.txCur := by omega
  have hlen : (UInt16.ofNat frame.length).toNat = frame.length := by
    rw [UInt16.toNat_ofNat']
    omega
  unfold sentFrame
  rw [hnic]
  change (if (nic.txCur + 1) % 8 = nic.txCur then none
    else (Function.update nic.txBuffers nic.txCur (some (frame ++ rest)) nic.txCur).map
      (·.take (Function.update nic.txLengths nic.txCur (UInt16.ofNat frame.length)
        nic.txCur).toNat)) = some frame
  rw [if_neg hnext, Function.update_self, Function.update_self, Option.map_some, hlen,
    List.take_left']
  rfl

section Handler

variable {net : Network} {buffer : Buffer} {base : Nat}
  (hroom : base + ARP_HEADER_LENGTH ≤ buffer.length) (size : Int)

include hroom

theorem handle_request (hnic : net.currentNIC = some nic) (hready : nic.Ready)
    (hinfo : net.dhcpInfo.initialized = true)
    (hop : operation (etherArpAt buffer base) = ARP_OPC_REQUEST) :
    Returns (networkHandleArp net buffer base size) fun after =>
      sentFrame net after = some (arpFrame nic (etherArpAt buffer base).arpSha
        net.dhcpInfo.yourIpv4 (etherArpAt buffer base).arpSpa ARP_OPC_REPLY) ∧
      after.networkInfo = net.networkInfo := by
  unfold ARP_HEADER_LENGTH at hroom
  have hsetup : ¬ net.dhcpInfo.initialized = false := by simp [hinfo]
  obtain ⟨tx, htx, _⟩ := hready.txBuffers nic.txCur hready.txCur
  have hready' : (nic.setAddress net.dhcpInfo.yourIpv4).Ready :=
    ⟨hready.magic, hready.txCur, hready.txBuffers⟩
  have hlength := arpFrame_length (nic.setAddress net.dhcpInfo.yourIpv4)
    (etherArpAt buffer base).arpSha net.dhcpInfo.yourIpv4 (etherArpAt buffer base).arpSpa
    ARP_OPC_REPLY
  have hsend := sendFrame_ok net "network_send_arp: frame\n" hready' htx
    (by rw [hlength]; decide) (by rw [hlength]; decide)
  rw [hlength] at hsend
  unfold networkHandleArp
  simp only [returns_bind, returns_readHalf]
  refine ⟨by omega, ?_⟩
  have hrequest : fromNetByteOrder16 (half buffer (base + 6)) = ARP_OPC_REQUEST := hop
  rw [if_pos hrequest]
  unfold networkSendArpReply networkSendArp
  rw [if_neg hsetup, hnic]
  simp only [returns_bind, returns_readArray]
  refine ⟨by omega, ?_⟩
  rw [if_neg (by decide)]
  simp only [returns_bind, returns_readArray]
  refine ⟨by omega, _, hsend, ?_, rfl⟩
  exact sentFrame_transmit hnic hready.txCur _ (by rw [hlength]; decide) _

theorem handle_other (hop : operation (etherArpAt buffer base) ≠ ARP_OPC_REQUEST) :
    Returns (networkHandleArp net buffer base size) fun after =>
      sentFrame net after = none ∧
        (after.networkInfo ≠ net.networkInfo → IsFromGateway (etherArpAt buffer base)) := by
  unfold ARP_HEADER_LENGTH at hroom
  have hsame : sentFrame net net = none := sentFrame_same rfl
  unfold networkHandleArp
  simp only [returns_bind, returns_readHalf]
  refine ⟨by omega, ?_⟩
  have hrequest : ¬ fromNetByteOrder16 (half buffer (base + 6)) = ARP_OPC_REQUEST := hop
  rw [if_neg hrequest]
  split_ifs with hreply
  · simp only [returns_bind, returns_readArray]
    refine ⟨by omega, ?_⟩
    split_ifs with hgateway
    · simp only [returns_bind, returns_readArray, returns_pure]
      exact ⟨by omega, sentFrame_same rfl, fun _ => ⟨hreply, hgateway.1⟩⟩
    · rw [returns_pure]
      exact ⟨hsame, fun h => absurd rfl h⟩
  · rw [returns_pure]
    exact ⟨hsame, fun h => absurd rfl h⟩

end Handler

/-- In a receive buffer the handler answers as it should just if the request, should the packet
be one, is for this host. -/
theorem arp_responder_iff {net : Network} {nic : IntelNic} (hnic : net.currentNIC = some nic)
    (hready : nic.Ready) (hinfo : net.dhcpInfo.initialized = true) {buffer : Buffer} {base : Nat}
    (hroom : base + ARP_HEADER_LENGTH ≤ buffer.length) (size : Int) :
    Responds net nic buffer base size ↔
      (operation (etherArpAt buffer base) = ARP_OPC_REQUEST →
        IsRequestFor (etherArpAt buffer base) size net.dhcpInfo.yourIpv4) := by
  constructor
  · rintro ⟨after, hafter, hsends, _⟩ hop
    obtain ⟨after', hafter', hsent, _⟩ := handle_request hroom size hnic hready hinfo hop
    obtain rfl := Except.ok.inj (hafter.symm.trans hafter')
    exact hsends.mp (by rw [hsent, Option.isSome_some])
  · intro h
    by_cases hop : operation (etherArpAt buffer base) = ARP_OPC_REQUEST
    · apply (handle_request hroom size hnic hready hinfo hop).mono
      rintro after ⟨hsent, hstored⟩
      refine ⟨by simp [hsent, h hop], ?_, fun hchanged => absurd hstored hchanged⟩
      intro frame hframe
      rw [hsent] at hframe
      cases hframe
      exact isReplyTo_arpFrame nic _ _
    · apply (handle_other hroom size hop).mono
      rintro after ⟨hsent, hstored⟩
      refine ⟨?_, by simp [hsent], hstored⟩
      simp only [hsent, Option.isSome_none, Bool.false_eq_true, false_iff]
      exact fun hrequest => hop hrequest.op

def hostIp : Ipv4 := ![192, 168, 1, 12]

def configuredNetwork : Network :=
  { bootedNetwork (List.replicate E1000_DEFAULT_BUFFER_SIZE 0) with
    dhcpInfo := ⟨true, 4, hostIp, ![192, 168, 1, 1]⟩ }

def requestFor (ip : Ipv4) : Buffer :=
  List.replicate 14 0 ++
    EtherArp.bytes
      { type := 0x0100
        proto := 0x0008
        hlen := 6
        plen := 4
        op := toNetByteOrder16 ARP_OPC_REQUEST
        arpSha := ![2, 0, 0, 0, 0, 7]
        arpSpa := ![192, 168, 1, 7]
        arpTha := fun _ => 0
        arpTpa := ip }

theorem ready_configuredNetwork : (bootedNic (List.replicate E1000_DEFAULT_BUFFER_SIZE 0)).Ready :=
  (initialized_bootedNetwork (Nat.le_of_eq List.length_replicate.symm)).nic _ rfl

theorem isRequestFor_requestFor (ip : Ipv4) :
    IsRequestFor (etherArpAt (requestFor ip) 14) 28 ip := by
  have hread : etherArpAt (requestFor ip) 14 = _ := etherArpAt_append (List.replicate 14 0) _
  rw [etherArpAt_bytes] at hread
  rw [hread]
  have hop := fromNetByteOrder16_toNetByteOrder16 ARP_OPC_REQUEST
  exact ⟨by decide, isEthernetIpv4_of rfl rfl rfl rfl, hop, rfl⟩

theorem length_requestFor (ip : Ipv4) : 14 + ARP_HEADER_LENGTH ≤ (requestFor ip).length := by
  simp [requestFor, EtherArp.bytes, halfBytes, ARP_HEADER_LENGTH]

theorem arp_responder_iff_own :
    Responds configuredNetwork (bootedNic (List.replicate E1000_DEFAULT_BUFFER_SIZE 0))
        (requestFor hostIp) 14 28 ↔
      (operation (etherArpAt (requestFor hostIp) 14) = ARP_OPC_REQUEST →
        IsRequestFor (etherArpAt (requestFor hostIp) 14) 28 hostIp) :=
  arp_responder_iff rfl ready_configuredNetwork rfl (length_requestFor hostIp) 28

/-- A request for the address of another host is answered. -/
theorem foreign_request_answered :
    ¬ Responds configuredNetwork (bootedNic (List.replicate E1000_DEFAULT_BUFFER_SIZE 0))
      (requestFor ![192, 168, 1, 99]) 14 28 := by
  rintro ⟨after, hafter, hsends, _⟩
  have hrequest := isRequestFor_requestFor ![192, 168, 1, 99]
  have hanswer : Returns (networkHandleArp configuredNetwork _ 14 28) _ :=
    handle_request (length_requestFor _) 28 rfl ready_configuredNetwork rfl hrequest.op
  obtain ⟨after', hafter', hsent, _⟩ := hanswer
  obtain rfl := Except.ok.inj (hafter.symm.trans hafter')
  have hown := hsends.mp (by rw [hsent, Option.isSome_some])
  have hsame : ![192, 168, 1, 99] = hostIp := hrequest.target.symm.trans hown.target
  exact absurd (congrFun hsame 3) (by decide)

end Gramado.Net.ArpResponder
