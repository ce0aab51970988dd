import MagiStack.Layer4.PseudoHeader

/-!
# Udp — datagrams and their checksum

Embedding of `layer4/udp.c`.  The parser trusts the length field and ignores trailing bytes; the
validator serializes the parsed datagram again.
-/

namespace MagiStack

def udpHeaderSize : Nat := 8
def udpMaxPayload : Nat := 1472

/-- `UDPDatagram`; the payload is the list of its `payload_len` bytes. -/
structure UdpDatagram where
  srcPort : UInt16
  dstPort : UInt16
  length : UInt16
  checksum : UInt16
  payload : List UInt8
  deriving DecidableEq, Repr

/-- `udp_create`. -/
def udpCreate (srcPort dstPort : UInt16) (payload : List UInt8) : Option UdpDatagram :=
  if udpMaxPayload < payload.length then
    none
  else
    some
      { srcPort := srcPort
        dstPort := dstPort
        length := UInt16.ofNat (udpHeaderSize + payload.length)
        checksum := 0
        payload := payload }

/-- `udp_compute_checksum`. -/
def udpComputeChecksum (raw : List UInt8) (srcIp dstIp : IpAddress) : UInt16 :=
  transportComputeChecksum ipv4ProtocolUdp raw srcIp dstIp

/-- The bytes `udp_to_bytes` writes. -/
def udpBytes (datagram : UdpDatagram) : List UInt8 :=
  writeU16Be datagram.srcPort ++ writeU16Be datagram.dstPort ++ writeU16Be datagram.length ++
    writeU16Be datagram.checksum ++ datagram.payload

/-- `udp_to_bytes` into a buffer of `outSize` bytes. -/
def udpToBytes (datagram : UdpDatagram) (outSize : Nat) : Option (List UInt8) :=
  if udpMaxPayload < datagram.payload.length then
    none
  else if outSize < udpHeaderSize + datagram.payload.length then
    none
  else
    some (udpBytes datagram)

/-- `udp_from_bytes`. -/
def udpFromBytes (raw : List UInt8) : Option UdpDatagram :=
  if raw.length < udpHeaderSize then
    none
  else
    let length := readU16Be raw 4
    if length.toNat < udpHeaderSize ∨ raw.length < length.toNat then
      none
    else if udpMaxPayload < length.toNat - udpHeaderSize then
      none
    else
      some
        { srcPort := readU16Be raw 0
          dstPort := readU16Be raw 2
          length := length
          checksum := readU16Be raw 6
          payload := (raw.drop udpHeaderSize).take (length.toNat - udpHeaderSize) }

/-- `udp_validate_checksum`. -/
def udpValidateChecksum (datagram : UdpDatagram) (srcIp dstIp : IpAddress) : Bool :=
  match udpToBytes datagram (udpHeaderSize + udpMaxPayload) with
  | none => false
  | some raw => udpComputeChecksum (setU16Be raw 6 datagram.checksum) srcIp dstIp = 0

/-! ## Serialization -/

theorem udpBytes_length (datagram : UdpDatagram) :
    (udpBytes datagram).length = udpHeaderSize + datagram.payload.length := by
  simp [udpBytes, udpHeaderSize]
  omega

/-- The serializer succeeds into the 1480-byte buffers of the senders. -/
theorem udpToBytes_eq {datagram : UdpDatagram} (h : datagram.payload.length ≤ udpMaxPayload) :
    udpToBytes datagram (udpHeaderSize + udpMaxPayload) = some (udpBytes datagram) := by
  rw [udpToBytes, if_neg (by omega), if_neg (by omega)]

/-- Only the checksum field of a datagram reaches bytes 6 and 7. -/
theorem setU16Be_udpBytes (datagram : UdpDatagram) (value : UInt16) :
    setU16Be (udpBytes datagram) 6 value = udpBytes { datagram with checksum := value } := by
  simp [setU16Be, udpBytes, writeU16Be]

theorem readU16Be_udpBytes_checksum (datagram : UdpDatagram) :
    readU16Be (udpBytes datagram) 6 = datagram.checksum := by
  simp [readU16Be, udpBytes, writeU16Be]

theorem udpValidateChecksum_iff {datagram : UdpDatagram} {srcIp dstIp : IpAddress}
    (h : datagram.payload.length ≤ udpMaxPayload) :
    udpValidateChecksum datagram srcIp dstIp = true ↔
      udpComputeChecksum (udpBytes datagram) srcIp dstIp = 0 := by
  simp [udpValidateChecksum, udpToBytes_eq h, setU16Be_udpBytes]

/-- Parsing the bytes of a datagram with a true length field gives the datagram back. -/
theorem udpFromBytes_bytes {datagram : UdpDatagram}
    (hlength : datagram.length.toNat = udpHeaderSize + datagram.payload.length)
    (h : datagram.payload.length ≤ udpMaxPayload) :
    udpFromBytes (udpBytes datagram) = some datagram := by
  obtain ⟨srcPort, dstPort, length, checksum, payload⟩ := datagram
  simp only [udpHeaderSize, udpMaxPayload] at hlength h
  have hfit : ¬ payload.length + 8 < 8 + payload.length := by omega
  simp [udpFromBytes, udpBytes, writeU16Be, readU16Be, udpHeaderSize, udpMaxPayload, hlength, hfit,
    Nat.not_lt.2 h]

/-- A datagram whose checksum field holds the checksum of its zeroed serialization is valid. -/
theorem udpValidateChecksum_stored {datagram : UdpDatagram} {srcIp dstIp : IpAddress}
    (h : datagram.payload.length ≤ udpMaxPayload)
    (hstored : datagram.checksum =
      udpComputeChecksum (udpBytes { datagram with checksum := 0 }) srcIp dstIp) :
    udpValidateChecksum datagram srcIp dstIp = true := by
  have hlen := udpBytes_length { datagram with checksum := 0 }
  have hzero := readU16Be_udpBytes_checksum { datagram with checksum := 0 }
  have hsum := transportComputeChecksum_stored (k := 3) ipv4ProtocolUdp srcIp dstIp
    (by rw [hlen, udpHeaderSize]; omega) hzero
  rw [udpValidateChecksum_iff h, udpComputeChecksum]
  rw [udpComputeChecksum] at hstored
  rw [← hstored, setU16Be_udpBytes] at hsum
  exact hsum

end MagiStack
