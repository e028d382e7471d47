import Gramado.Library.CheckedRead
import Gramado.Library.OnesComplement

/-! The headers of a frame, as the kernel keeps them in memory. -/

namespace Gramado.Net.Frame

open Library

abbrev Mac := Fin 6 → UInt8
abbrev Ipv4 := Fin 4 → UInt8

def ETHERTYPE_IPV4 : UInt16 := 0x0800
def ETHERTYPE_ARP : UInt16 := 0x0806
def ETHERTYPE_IPV6 : UInt16 := 0x86DD

def ETHERNET_HEADER_LENGHT : Nat := 14
def IP_HEADER_LENGHT : Nat := 20
def UDP_HEADER_LENGHT : Nat := 8
def TCP_HEADER_LENGHT : Nat := 20
def ARP_HEADER_LENGTH : Nat := 28

def PROTOCOL_IP_TCP : UInt8 := 6
def PROTOCOL_IP_UDP : UInt8 := 17

def E1000_DEFAULT_BUFFER_SIZE : Nat := 8192

def toNetByteOrder16 (v : UInt16) : UInt16 :=
  (v >>> 8) ||| (v <<< 8)

def fromNetByteOrder16 (v : UInt16) : UInt16 :=
  (v >>> 8) ||| (v <<< 8)

def toNetByteOrder32 (v : UInt32) : UInt32 :=
  ((v >>> (24 : UInt32)) &&& (0xFF : UInt32)) ||| ((v <<< (8 : UInt32)) &&& (0xFF0000 : UInt32)) |||
    ((v >>> (8 : UInt32)) &&& (0xFF00 : UInt32)) |||
    ((v <<< (24 : UInt32)) &&& (0xFF000000 : UInt32))

def halfBytes (v : UInt16) : List UInt8 :=
  [.ofNat v.toNat, .ofNat (v.toNat / 256)]

def wordBytes (v : UInt32) : List UInt8 :=
  [.ofNat v.toNat, .ofNat (v.toNat / 256), .ofNat (v.toNat / 65536), .ofNat (v.toNat / 16777216)]

/-- `ether_header`. -/
structure EtherHeader where
  macDst : Mac
  macSrc : Mac
  type : UInt16

def EtherHeader.bytes (eth : EtherHeader) : List UInt8 :=
  List.ofFn eth.macDst ++ List.ofFn eth.macSrc ++ halfBytes eth.type

/-- `ip_d`. -/
structure IpHeader where
  vHl : UInt8
  ipTos : UInt8
  ipLen : UInt16
  ipId : UInt16
  ipOff : UInt16
  ipTtl : UInt8
  ipP : UInt8
  ipSum : UInt16
  ipSrc : Ipv4
  ipDst : Ipv4

def IpHeader.bytes (ip : IpHeader) : List UInt8 :=
  [ip.vHl, ip.ipTos] ++ halfBytes ip.ipLen ++ halfBytes ip.ipId ++ halfBytes ip.ipOff ++
    [ip.ipTtl, ip.ipP] ++ halfBytes ip.ipSum ++ List.ofFn ip.ipSrc ++ List.ofFn ip.ipDst

/-- `udp_d`. -/
structure UdpHeader where
  uhSport : UInt16
  uhDport : UInt16
  uhUlen : UInt16
  uhSum : UInt16

def UdpHeader.bytes (udp : UdpHeader) : List UInt8 :=
  halfBytes udp.uhSport ++ halfBytes udp.uhDport ++ halfBytes udp.uhUlen ++ halfBytes udp.uhSum

/-- `ether_arp`. -/
structure EtherArp where
  type : UInt16
  proto : UInt16
  hlen : UInt8
  plen : UInt8
  op : UInt16
  arpSha : Mac
  arpSpa : Ipv4
  arpTha : Mac
  arpTpa : Ipv4

def EtherArp.bytes (arp : EtherArp) : List UInt8 :=
  halfBytes arp.type ++ halfBytes arp.proto ++ [arp.hlen, arp.plen] ++ halfBytes arp.op ++
    List.ofFn arp.arpSha ++ List.ofFn arp.arpSpa ++ List.ofFn arp.arpTha ++ List.ofFn arp.arpTpa

def sumHalves : List UInt8 → UInt32
  | lo :: hi :: rest => .ofNat (lo.toNat + 256 * hi.toNat) + sumHalves rest
  | _ => 0

def oddByte : List UInt8 → UInt32
  | _ :: _ :: rest => oddByte rest
  | [b] => b.toUInt32
  | [] => 0

def netChecksum (phdr : Option (List UInt8)) (start : List UInt8) : UInt16 :=
  let checksum : UInt32 := (match phdr with
    | none => 0
    | some phdr => sumHalves phdr) + sumHalves start + oddByte start
  let checksum : UInt32 := (checksum &&& (0xffff : UInt32)) + (checksum >>> (16 : UInt32))
  let checksum : UInt32 := checksum + (checksum >>> (16 : UInt32))
  toNetByteOrder16 (~~~checksum).toUInt16

theorem toNetByteOrder16_toNat (v : UInt16) :
    (toNetByteOrder16 v).toNat = v.toNat / 256 + 256 * (v.toNat % 256) := by
  have hv := v.toNat_lt
  have hlow : v.toNat / 256 < 2 ^ 8 := by omega
  have hhigh : v.toNat * 256 % 65536 = (v.toNat % 256) <<< 8 := by
    rw [Nat.shiftLeft_eq]
    omega
  rw [toNetByteOrder16, UInt16.toNat_or, UInt16.toNat_shiftRight, UInt16.toNat_shiftLeft]
  change v.toNat >>> 8 ||| v.toNat <<< 8 % 65536 = _
  rw [Nat.shiftRight_eq_div_pow, Nat.shiftLeft_eq, Nat.or_comm, hhigh,
    ← Nat.shiftLeft_add_eq_or_of_lt hlow, Nat.shiftLeft_eq]
  omega

theorem toNetByteOrder16_toNetByteOrder16 (v : UInt16) :
    toNetByteOrder16 (toNetByteOrder16 v) = v := by
  apply UInt16.toNat_inj.mp
  have hv := v.toNat_lt
  rw [toNetByteOrder16_toNat, toNetByteOrder16_toNat]
  omega

theorem fromNetByteOrder16_toNetByteOrder16 (v : UInt16) :
    fromNetByteOrder16 (toNetByteOrder16 v) = v :=
  toNetByteOrder16_toNetByteOrder16 v

def networkWords : List UInt8 → List Nat
  | hi :: lo :: rest => (256 * hi.toNat + lo.toNat) :: networkWords rest
  | _ => []

def halvesSum : List UInt8 → Nat
  | lo :: hi :: rest => lo.toNat + 256 * hi.toNat + halvesSum rest
  | _ => 0

theorem networkWords_le (bytes : List UInt8) : ∀ w ∈ networkWords bytes, w ≤ 65535 := by
  induction bytes using networkWords.induct with
  | case1 hi lo rest ih =>
      intro w hw
      rw [networkWords] at hw
      have hhi := hi.toNat_lt
      have hlo := lo.toNat_lt
      rcases List.mem_cons.mp hw with rfl | hw
      · omega
      · exact ih w hw
  | case2 bytes hbytes =>
      rw [networkWords]
      · intro w hw
        cases hw
      · exact hbytes

theorem halvesSum_le (bytes : List UInt8) : halvesSum bytes ≤ 65535 * bytes.length := by
  induction bytes using halvesSum.induct with
  | case1 lo hi rest ih =>
      have hhi := hi.toNat_lt
      have hlo := lo.toNat_lt
      rw [halvesSum, List.length_cons, List.length_cons]
      omega
  | case2 bytes hbytes =>
      rw [halvesSum]
      · exact Nat.zero_le _
      · exact hbytes

theorem networkWords_sum (bytes : List UInt8) :
    (networkWords bytes).sum % 65535 = 256 * halvesSum bytes % 65535 := by
  induction bytes using halvesSum.induct with
  | case1 lo hi rest ih =>
      rw [networkWords, halvesSum, List.sum_cons]
      omega
  | case2 bytes hbytes =>
      rw [networkWords, halvesSum]
      · rfl
      · exact hbytes
      · exact hbytes

variable {bytes : List UInt8}

theorem sumHalves_toNat (h : bytes.length ≤ 65536) : (sumHalves bytes).toNat = halvesSum bytes := by
  induction bytes using sumHalves.induct with
  | case1 lo hi rest ih =>
      have hle := halvesSum_le (lo :: hi :: rest)
      rw [List.length_cons, List.length_cons] at h
      have hrest := ih (by omega)
      rw [halvesSum, List.length_cons, List.length_cons] at hle
      rw [sumHalves, halvesSum, UInt32.toNat_add, hrest, UInt32.toNat_ofNat']
      omega
  | case2 bytes hbytes =>
      rw [sumHalves, halvesSum]
      · rfl
      · exact hbytes
      · exact hbytes

theorem fold_toNat (c : UInt32) : let c1 := (c &&& (0xffff : UInt32)) + (c >>> (16 : UInt32))
    let c2 := c1 + (c1 >>> (16 : UInt32))
    let n1 := c.toNat % 65536 + c.toNat / 65536
    (~~~c2).toUInt16.toNat = 65535 - (n1 + n1 / 65536) % 65536 := by
  intro c1 c2 n1
  have hc := c.toNat_lt
  have hc1 : c1.toNat = n1 := by
    have hmask := Nat.and_two_pow_sub_one_eq_mod c.toNat 16
    rw [UInt32.toNat_add, UInt32.toNat_and, UInt32.toNat_shiftRight]
    change ((c.toNat &&& 2 ^ 16 - 1) + c.toNat >>> 16) % 4294967296 = _
    rw [hmask, Nat.shiftRight_eq_div_pow]
    omega
  have hc2 : c2.toNat = n1 + n1 / 65536 := by
    rw [UInt32.toNat_add, UInt32.toNat_shiftRight, hc1]
    change (n1 + n1 >>> 16) % 4294967296 = _
    rw [Nat.shiftRight_eq_div_pow]
    omega
  have hlt := c2.toNat_lt
  rw [UInt32.toNat_toUInt16, UInt32.toNat_not, ← hc2]
  change (4294967295 - c2.toNat) % 65536 = _
  omega

theorem fold_carry (c : UInt32) : let c1 := (c &&& (0xffff : UInt32)) + (c >>> (16 : UInt32))
    let c2 := c1 + (c1 >>> (16 : UInt32))
    (c.toNat + (~~~c2).toUInt16.toNat) % 65535 = 0 := by
  intro c1 c2
  have hc := c.toNat_lt
  have hfold : (~~~c2).toUInt16.toNat = _ := fold_toNat c
  rcases Nat.lt_or_ge (c.toNat % 65536 + c.toNat / 65536) 65536 with hsmall | hcarry
  · have htotal : c.toNat + (~~~c2).toUInt16.toNat = 65535 * (c.toNat / 65536 + 1) := by
      rw [hfold, Nat.div_eq_of_lt hsmall]
      omega
    rw [htotal, Nat.mul_mod_right]
  · have hone : (c.toNat % 65536 + c.toNat / 65536) / 65536 = 1 := by omega
    have htotal : c.toNat + (~~~c2).toUInt16.toNat = 65535 * (c.toNat / 65536 + 2) := by
      rw [hfold, hone]
      omega
    rw [htotal, Nat.mul_mod_right]

theorem fold_eq_ones (c : UInt32) : let c1 := (c &&& (0xffff : UInt32)) + (c >>> (16 : UInt32))
    let c2 := c1 + (c1 >>> (16 : UInt32))
    (~~~c2).toUInt16.toNat = 65535 ↔ c.toNat = 0 := by
  intro c1 c2
  have hc := c.toNat_lt
  have hfold : (~~~c2).toUInt16.toNat = _ := fold_toNat c
  rw [hfold]
  rcases Nat.lt_or_ge (c.toNat % 65536 + c.toNat / 65536) 65536 with hsmall | hcarry
  · rw [Nat.div_eq_of_lt hsmall]
    omega
  · have hone : (c.toNat % 65536 + c.toNat / 65536) / 65536 = 1 := by omega
    rw [hone]
    omega

theorem netChecksum_halvesSum (h : bytes.length ≤ 65536) (hodd : oddByte bytes = 0) :
    (halvesSum bytes + (toNetByteOrder16 (netChecksum none bytes)).toNat) % 65535 = 0 := by
  have hfold := fold_carry (sumHalves bytes)
  rw [sumHalves_toNat h] at hfold
  simp only [netChecksum, toNetByteOrder16_toNetByteOrder16, hodd, UInt32.zero_add, UInt32.add_zero]
  exact hfold

def IpHeader.zeroSum (ip : IpHeader) : IpHeader :=
  { ip with ipSum := 0 }

def IpHeader.withSum (ip : IpHeader) : IpHeader :=
  { ip with ipSum := toNetByteOrder16 (netChecksum none ip.zeroSum.bytes) }

theorem halfBytes_toNat (v : UInt16) :
    (UInt8.ofNat v.toNat).toNat + 256 * (UInt8.ofNat (v.toNat / 256)).toNat = v.toNat := by
  have hv := v.toNat_lt
  rw [UInt8.toNat_ofNat', UInt8.toNat_ofNat']
  omega

theorem halvesSum_bytes (ip : IpHeader) :
    halvesSum ip.bytes = halvesSum ip.zeroSum.bytes + ip.ipSum.toNat := by
  have hsum := halfBytes_toNat ip.ipSum
  have hzero := halfBytes_toNat 0
  change _ = 0 at hzero
  simp only [IpHeader.zeroSum, IpHeader.bytes, halfBytes, List.cons_append, List.nil_append,
    halvesSum]
  omega

theorem withSum_ones (ip : IpHeader) (h : 0 < ip.vHl.toNat) :
    OnesComplement.sum 65535 (networkWords ip.withSum.bytes) = 65535 := by
  have hlength : ip.zeroSum.bytes.length ≤ 65536 := by
    simp [IpHeader.bytes, halfBytes]
  have hodd : oddByte ip.zeroSum.bytes = 0 := by
    simp [IpHeader.bytes, halfBytes, oddByte, List.ofFn_succ]
  have hcheck := netChecksum_halvesSum hlength hodd
  have hhalves := halvesSum_bytes ip.withSum
  have hzero : ip.withSum.zeroSum = ip.zeroSum := rfl
  have hsum : ip.withSum.ipSum = toNetByteOrder16 (netChecksum none ip.zeroSum.bytes) := rfl
  have hwords := networkWords_sum ip.withSum.bytes
  apply OnesComplement.sum_eq_ones (networkWords_le _)
  · change 0 < List.sum ((256 * ip.vHl.toNat + ip.ipTos.toNat) :: _)
    rw [List.sum_cons]
    omega
  · rw [hwords, hhalves, hzero, hsum, Nat.mul_mod, hcheck]

end Gramado.Net.Frame
