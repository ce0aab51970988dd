import MagiStack.Core.Checksum

/-!
# Ipv4 — addresses, packets and the header checksum

Embedding of `layer3/ipv4.c`: `IpAddress`, `IPv4Packet`, `ipv4_create`, `ipv4_compute_checksum`,
`ipv4_to_bytes`, `ipv4_from_bytes` and `ipv4_validate_checksum`.  A payload is the list of its
`payload_len` bytes; a function that returns `0` on failure returns `none` here.
-/

namespace MagiStack

open OnesComplement

/-! ## Addresses -/

/-- `IpAddress`: four octets and a prefix length. -/
structure IpAddress where
  octet0 : UInt8
  octet1 : UInt8
  octet2 : UInt8
  octet3 : UInt8
  prefixLen : UInt8
  deriving DecidableEq, Repr

namespace IpAddress

/-- `ip->octet`. -/
def octets (ip : IpAddress) : List UInt8 :=
  [ip.octet0, ip.octet1, ip.octet2, ip.octet3]

/-- The address at `raw + i`, with prefix `0` as the parsers store it. -/
def read (raw : List UInt8) (i : Nat) : IpAddress :=
  { octet0 := raw.getD i 0
    octet1 := raw.getD (i + 1) 0
    octet2 := raw.getD (i + 2) 0
    octet3 := raw.getD (i + 3) 0
    prefixLen := 0 }

/-- The same octets with prefix `0`: what an address becomes on the wire. -/
def withoutPrefix (ip : IpAddress) : IpAddress :=
  { ip with prefixLen := 0 }

@[simp] theorem octets_length (ip : IpAddress) : ip.octets.length = 4 := rfl

theorem wordSum_octets_read (raw : List UInt8) (i : Nat) :
    wordSum (read raw i).octets = (readU16Be raw i).toNat + (readU16Be raw (i + 2)).toNat := by
  rw [readU16Be, readU16Be, beWord_toNat, beWord_toNat]
  rfl

@[simp] theorem octets_withoutPrefix (ip : IpAddress) : ip.withoutPrefix.octets = ip.octets := rfl

end IpAddress

/-- The all-zero address. -/
def ipZero : IpAddress := ⟨0, 0, 0, 0, 0⟩

/-- `ip_octets_equal_public`: the prefix is not compared. -/
def ipOctetsEqualPublic (a b : IpAddress) : Bool :=
  a.octets == b.octets

theorem ipOctetsEqualPublic_iff {a b : IpAddress} :
    ipOctetsEqualPublic a b = true ↔ a.octets = b.octets :=
  beq_iff_eq

/-! ## Packets -/

def ipv4HeaderSize : Nat := 20
def ipv4MaxPayload : Nat := 1480
def ipv4ProtocolIcmp : UInt8 := 1
def ipv4ProtocolTcp : UInt8 := 6
def ipv4ProtocolUdp : UInt8 := 17
def ipv4DefaultTtl : UInt8 := 64

/-- `IPv4Packet`: the header fields the stack keeps, and the payload. -/
structure Ipv4Packet where
  version : UInt8
  ihl : UInt8
  totalLength : UInt16
  ttl : UInt8
  protocol : UInt8
  checksum : UInt16
  srcIp : IpAddress
  dstIp : IpAddress
  payload : List UInt8
  deriving DecidableEq, Repr

/-- `ipv4_init`. -/
def ipv4Init : Ipv4Packet :=
  { version := 4
    ihl := 5
    totalLength := 0
    ttl := ipv4DefaultTtl
    protocol := 0
    checksum := 0
    srcIp := ⟨0, 0, 0, 0, 0⟩
    dstIp := ⟨0, 0, 0, 0, 0⟩
    payload := [] }

/-- `(uint16_t)(IPV4_HEADER_SIZE + payload_len)`. -/
def ipv4TotalLength (payloadLen : Nat) : UInt16 :=
  UInt16.ofNat (ipv4HeaderSize + payloadLen)

/-- `ipv4_create`. -/
def ipv4Create (srcIp dstIp : IpAddress) (ttl protocol : UInt8) (payload : List UInt8) :
    Option Ipv4Packet :=
  if ipv4MaxPayload < payload.length then
    none
  else
    some
      { ipv4Init with
        srcIp := srcIp
        dstIp := dstIp
        ttl := ttl
        protocol := protocol
        totalLength := ipv4TotalLength payload.length
        payload := payload }

/-- `ipv4_compute_checksum`. -/
def ipv4ComputeChecksum (header : List UInt8) : UInt16 :=
  if header.length = 0 then 0 else complement16 (sumWords 0 header)

/-- The header `ipv4_to_bytes` writes before it stores the checksum. -/
def ipv4HeaderBytes (packet : Ipv4Packet) : List UInt8 :=
  [0x45, 0] ++ writeU16Be (ipv4TotalLength packet.payload.length) ++
    writeU16Be 0 ++ writeU16Be 0 ++ [packet.ttl, packet.protocol] ++ writeU16Be 0 ++
    packet.srcIp.octets ++ packet.dstIp.octets

/-- `ipv4_to_bytes` into a buffer of `outSize` bytes. -/
def ipv4ToBytes (packet : Ipv4Packet) (outSize : Nat) : Option (List UInt8) :=
  if ipv4MaxPayload < packet.payload.length then
    none
  else if outSize < (ipv4TotalLength packet.payload.length).toNat then
    none
  else
    let header := ipv4HeaderBytes packet
    some (setU16Be header 10 (ipv4ComputeChecksum header) ++ packet.payload)

/-- `ipv4_from_bytes`. -/
def ipv4FromBytes (raw : List UInt8) : Option Ipv4Packet :=
  if raw.length < ipv4HeaderSize then
    none
  else
    let version := raw.getD 0 0 >>> 4
    let ihl := raw.getD 0 0 &&& (0x0F : UInt8)
    let headerLen := ihl.toNat * 4
    if version ≠ 4 ∨ ihl < 5 ∨ raw.length < headerLen then
      none
    else
      let totalLength := readU16Be raw 2
      if totalLength.toNat < headerLen ∨ raw.length < totalLength.toNat then
        none
      else
        let payloadLen := totalLength.toNat - headerLen
        if ipv4MaxPayload < payloadLen then
          none
        else
          some
            { version := version
              ihl := ihl
              totalLength := totalLength
              ttl := raw.getD 8 0
              protocol := raw.getD 9 0
              checksum := readU16Be raw 10
              srcIp := IpAddress.read raw 12
              dstIp := IpAddress.read raw 16
              payload := (raw.drop headerLen).take payloadLen }

/-- `ipv4_validate_checksum`: serializes the parsed packet again, restores the received checksum
and sums the twenty header bytes. -/
def ipv4ValidateChecksum (packet : Ipv4Packet) : Bool :=
  match ipv4ToBytes packet (ipv4HeaderSize + ipv4MaxPayload) with
  | none => false
  | some raw =>
      ipv4ComputeChecksum ((setU16Be raw 10 packet.checksum).take ipv4HeaderSize) = 0

/-! ## The checksum of a header -/

theorem ipv4ComputeChecksum_eq_zero_iff {header : List UInt8} (h : header ≠ []) :
    ipv4ComputeChecksum header = 0 ↔ Verifies (wordSum header) := by
  have hlen : header.length ≠ 0 := by simpa using h
  have hsum : (sumWords 0 header).toNat = ocNorm (0 + wordSum header) :=
    sumWords_toNat (n := 0) rfl header
  rw [ipv4ComputeChecksum, if_neg hlen, complement16_eq_zero_iff hsum, Nat.zero_add]

theorem ipv4ComputeChecksum_toNat {header : List UInt8} (h : header ≠ []) :
    (ipv4ComputeChecksum header).toNat = 65535 - ocNorm (wordSum header) := by
  have hlen : header.length ≠ 0 := by simpa using h
  have hsum : (sumWords 0 header).toNat = ocNorm (0 + wordSum header) :=
    sumWords_toNat (n := 0) rfl header
  rw [ipv4ComputeChecksum, if_neg hlen, complement16_of_ocNorm hsum, Nat.zero_add]

@[simp] theorem ipv4HeaderBytes_length (packet : Ipv4Packet) :
    (ipv4HeaderBytes packet).length = ipv4HeaderSize := by
  simp [ipv4HeaderBytes, ipv4HeaderSize]

theorem ipv4HeaderBytes_ne_nil (packet : Ipv4Packet) : ipv4HeaderBytes packet ≠ [] := by
  intro h
  have hlen := ipv4HeaderBytes_length packet
  simp [h, ipv4HeaderSize] at hlen

theorem ipv4TotalLength_toNat {payloadLen : Nat} (h : payloadLen ≤ ipv4MaxPayload) :
    (ipv4TotalLength payloadLen).toNat = 20 + payloadLen := by
  rw [ipv4TotalLength, UInt16.toNat_ofNat', ipv4HeaderSize]
  simp only [ipv4MaxPayload] at h
  omega

/-- The bytes of a packet within the payload limit. -/
def ipv4Bytes (packet : Ipv4Packet) : List UInt8 :=
  setU16Be (ipv4HeaderBytes packet) 10 (ipv4ComputeChecksum (ipv4HeaderBytes packet)) ++
    packet.payload

/-- The size test of `ipv4_to_bytes` always passes for the 1500-byte buffers of the senders. -/
theorem ipv4ToBytes_eq {packet : Ipv4Packet} (h : packet.payload.length ≤ ipv4MaxPayload) :
    ipv4ToBytes packet (ipv4HeaderSize + ipv4MaxPayload) =
      some (ipv4Bytes packet) := by
  have hbig : ¬ ipv4MaxPayload < packet.payload.length := by omega
  have hroom : ¬ ipv4HeaderSize + ipv4MaxPayload <
      (ipv4TotalLength packet.payload.length).toNat := by
    rw [ipv4TotalLength_toNat h, ipv4HeaderSize]
    omega
  rw [ipv4ToBytes, if_neg hbig, if_neg hroom]
  rfl

/-- The header `ipv4_validate_checksum` sums: rebuilt from the packet, with its checksum field. -/
def ipv4RebuiltHeader (packet : Ipv4Packet) : List UInt8 :=
  setU16Be (ipv4HeaderBytes packet) 10 packet.checksum

theorem ipv4ValidateChecksum_iff {packet : Ipv4Packet}
    (h : packet.payload.length ≤ ipv4MaxPayload) :
    ipv4ValidateChecksum packet = true ↔ Verifies (wordSum (ipv4RebuiltHeader packet)) := by
  have hne : ipv4RebuiltHeader packet ≠ [] := by
    simp [ipv4RebuiltHeader, ipv4HeaderBytes, setU16Be]
  have hheader : (setU16Be (ipv4Bytes packet) 10 packet.checksum).take ipv4HeaderSize =
      ipv4RebuiltHeader packet := by
    simp [ipv4RebuiltHeader, ipv4Bytes, setU16Be, ipv4HeaderBytes, ipv4HeaderSize, writeU16Be,
      IpAddress.octets]
  rw [← ipv4ComputeChecksum_eq_zero_iff hne, ipv4ValidateChecksum, ipv4ToBytes_eq h]
  simp only [hheader, decide_eq_true_eq]

/-! ## Round trip -/

/-- What the parser makes of the bytes of a packet: prefixes are not on the wire, and the length and
checksum fields are those the serializer computed. -/
def ipv4Reparsed (packet : Ipv4Packet) : Ipv4Packet :=
  { version := 4
    ihl := 5
    totalLength := ipv4TotalLength packet.payload.length
    ttl := packet.ttl
    protocol := packet.protocol
    checksum := ipv4ComputeChecksum (ipv4HeaderBytes packet)
    srcIp := packet.srcIp.withoutPrefix
    dstIp := packet.dstIp.withoutPrefix
    payload := packet.payload }

theorem ipv4Bytes_length (packet : Ipv4Packet) :
    (ipv4Bytes packet).length = ipv4HeaderSize + packet.payload.length := by
  simp [ipv4Bytes]

theorem ipv4FromBytes_bytes {packet : Ipv4Packet}
    (h : packet.payload.length ≤ ipv4MaxPayload) :
    ipv4FromBytes (ipv4Bytes packet) = some (ipv4Reparsed packet) := by
  have htotal := ipv4TotalLength_toNat h
  have hversion : (0x45 : UInt8) >>> 4 = 4 := rfl
  have hihl : (0x45 : UInt8) &&& 0x0F = 5 := rfl
  have hroom : ¬ packet.payload.length + 20 < 20 + packet.payload.length := by omega
  simp only [ipv4MaxPayload] at h
  simp [ipv4FromBytes, ipv4Bytes, ipv4Reparsed, ipv4HeaderBytes, setU16Be, writeU16Be, readU16Be,
    IpAddress.octets, IpAddress.read, IpAddress.withoutPrefix, ipv4HeaderSize, ipv4MaxPayload,
    hversion, hihl, htotal, hroom, Nat.not_lt.2 h]

/-- A packet that was serialized and parsed passes the header check. -/
theorem ipv4ValidateChecksum_reparsed {packet : Ipv4Packet}
    (h : packet.payload.length ≤ ipv4MaxPayload) :
    ipv4ValidateChecksum (ipv4Reparsed packet) = true := by
  have hlen := ipv4HeaderBytes_length packet
  have hne := ipv4HeaderBytes_ne_nil packet
  have hzero : readU16Be (ipv4HeaderBytes packet) 10 = 0 := by
    simp [readU16Be, ipv4HeaderBytes, writeU16Be, IpAddress.octets]
  have hvalue : (ipv4ComputeChecksum (ipv4HeaderBytes packet)).toNat =
      65535 - ocNorm (0 + wordSum (ipv4HeaderBytes packet)) := by
    rw [ipv4ComputeChecksum_toNat hne, Nat.zero_add]
  have hverifies := verifies_setU16Be (k := 5) (by rw [hlen, ipv4HeaderSize]; omega) hzero hvalue
  rw [@ipv4ValidateChecksum_iff (ipv4Reparsed packet) h]
  rw [Nat.zero_add] at hverifies
  exact hverifies

end MagiStack
