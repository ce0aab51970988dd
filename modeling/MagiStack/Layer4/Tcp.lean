import MagiStack.Layer4.PseudoHeader

/-!
# Tcp — segments and their checksum

Embedding of `layer4/tcp.c`: `TCPSegment`, `tcp_create`, `tcp_to_bytes`, `tcp_from_bytes`,
`tcp_compute_checksum` and `tcp_validate_checksum`, and the connection states of `tcp.h`.
-/

namespace MagiStack

def tcpHeaderSize : Nat := 20
def tcpMaxPayload : Nat := 1460
def tcpWindowSize : UInt16 := 65535

/-! ## Flags and states -/

def tcpFlagFin : UInt8 := 0x01
def tcpFlagSyn : UInt8 := 0x02
def tcpFlagRst : UInt8 := 0x04
def tcpFlagPsh : UInt8 := 0x08
def tcpFlagAck : UInt8 := 0x10
def tcpFlagSynAck : UInt8 := 0x12

/-- `TCPState`. -/
inductive TcpState
  | closed
  | listen
  | synSent
  | synReceived
  | established
  | finWait1
  | finWait2
  | closing
  | timeWait
  | closeWait
  | lastAck
  deriving DecidableEq, Repr

/-! ## Segments -/

/-- `TCPSegment`; the payload is the list of its `payload_len` bytes. -/
structure TcpSegment where
  srcPort : UInt16
  dstPort : UInt16
  seqNum : UInt32
  ackNum : UInt32
  dataOffset : UInt8
  flags : UInt8
  window : UInt16
  checksum : UInt16
  urgentPtr : UInt16
  payload : List UInt8
  deriving DecidableEq, Repr

namespace TcpSegment

/-- `segment->flags & mask`. -/
def hasFlag (segment : TcpSegment) (mask : UInt8) : Bool :=
  segment.flags &&& mask != 0

end TcpSegment

/-- `tcp_init`. -/
def tcpInit : TcpSegment :=
  { srcPort := 0
    dstPort := 0
    seqNum := 0
    ackNum := 0
    dataOffset := 5
    flags := 0
    window := tcpWindowSize
    checksum := 0
    urgentPtr := 0
    payload := [] }

/-- `tcp_create`. -/
def tcpCreate (srcPort dstPort : UInt16) (seqNum ackNum : UInt32) (flags : UInt8)
    (window : UInt16) (payload : List UInt8) : Option TcpSegment :=
  if tcpMaxPayload < payload.length then
    none
  else
    some
      { tcpInit with
        srcPort := srcPort
        dstPort := dstPort
        seqNum := seqNum
        ackNum := ackNum
        flags := flags
        window := window
        payload := payload }

/-- `tcp_compute_checksum`. -/
def tcpComputeChecksum (raw : List UInt8) (srcIp dstIp : IpAddress) : UInt16 :=
  transportComputeChecksum ipv4ProtocolTcp raw srcIp dstIp

/-- The bytes `tcp_to_bytes` writes. -/
def tcpBytes (segment : TcpSegment) : List UInt8 :=
  writeU16Be segment.srcPort ++ writeU16Be segment.dstPort ++ writeU32Be segment.seqNum ++
    writeU32Be segment.ackNum ++ [segment.dataOffset <<< 4, segment.flags] ++
    writeU16Be segment.window ++ writeU16Be segment.checksum ++ writeU16Be segment.urgentPtr ++
    segment.payload

/-- `tcp_to_bytes` into a buffer of `outSize` bytes. -/
def tcpToBytes (segment : TcpSegment) (outSize : Nat) : Option (List UInt8) :=
  if tcpMaxPayload < segment.payload.length then
    none
  else if outSize < tcpHeaderSize + segment.payload.length then
    none
  else
    some (tcpBytes segment)

/-- `tcp_from_bytes`. -/
def tcpFromBytes (raw : List UInt8) : Option TcpSegment :=
  if raw.length < tcpHeaderSize then
    none
  else
    let dataOffset := raw.getD 12 0 >>> 4
    let headerLen := dataOffset.toNat * 4
    if headerLen < tcpHeaderSize ∨ raw.length < headerLen then
      none
    else if tcpMaxPayload < raw.length - headerLen then
      none
    else
      some
        { srcPort := readU16Be raw 0
          dstPort := readU16Be raw 2
          seqNum := readU32Be raw 4
          ackNum := readU32Be raw 8
          dataOffset := dataOffset
          flags := raw.getD 13 0
          window := readU16Be raw 14
          checksum := readU16Be raw 16
          urgentPtr := readU16Be raw 18
          payload := raw.drop headerLen }

/-- `tcp_validate_checksum`. -/
def tcpValidateChecksum (segment : TcpSegment) (srcIp dstIp : IpAddress) : Bool :=
  match tcpToBytes segment (tcpHeaderSize + tcpMaxPayload) with
  | none => false
  | some raw => tcpComputeChecksum (setU16Be raw 16 segment.checksum) srcIp dstIp = 0

/-! ## Serialization -/

theorem tcpBytes_length (segment : TcpSegment) :
    (tcpBytes segment).length = tcpHeaderSize + segment.payload.length := by
  simp [tcpBytes, tcpHeaderSize]
  omega

/-- The serializer succeeds into the 1480-byte buffers of the senders. -/
theorem tcpToBytes_eq {segment : TcpSegment} (h : segment.payload.length ≤ tcpMaxPayload) :
    tcpToBytes segment (tcpHeaderSize + tcpMaxPayload) = some (tcpBytes segment) := by
  rw [tcpToBytes, if_neg (by omega), if_neg (by omega)]

/-- Only the checksum field of a segment reaches bytes 16 and 17. -/
theorem setU16Be_tcpBytes (segment : TcpSegment) (value : UInt16) :
    setU16Be (tcpBytes segment) 16 value = tcpBytes { segment with checksum := value } := by
  simp [setU16Be, tcpBytes, writeU16Be, writeU32Be]

theorem readU16Be_tcpBytes_checksum (segment : TcpSegment) :
    readU16Be (tcpBytes segment) 16 = segment.checksum := by
  simp [readU16Be, tcpBytes, writeU16Be, writeU32Be]

theorem tcpValidateChecksum_iff {segment : TcpSegment} {srcIp dstIp : IpAddress}
    (h : segment.payload.length ≤ tcpMaxPayload) :
    tcpValidateChecksum segment srcIp dstIp = true ↔
      tcpComputeChecksum (tcpBytes segment) srcIp dstIp = 0 := by
  simp [tcpValidateChecksum, tcpToBytes_eq h, setU16Be_tcpBytes]

/-- Parsing the bytes of a segment without options gives the segment back. -/
theorem tcpFromBytes_bytes {segment : TcpSegment} (hoffset : segment.dataOffset = 5)
    (h : segment.payload.length ≤ tcpMaxPayload) :
    tcpFromBytes (tcpBytes segment) = some segment := by
  obtain ⟨srcPort, dstPort, seqNum, ackNum, dataOffset, flags, window, checksum, urgentPtr,
    payload⟩ := segment
  simp only at hoffset
  subst hoffset
  have hnibble : (5 : UInt8) <<< 4 >>> 4 = 5 := rfl
  simp only [tcpMaxPayload] at h
  simp [tcpFromBytes, tcpBytes, writeU16Be, writeU32Be, readU16Be, readU32Be, tcpHeaderSize,
    tcpMaxPayload, hnibble, Nat.not_lt.2 h]

/-- A segment whose checksum field holds the checksum of its zeroed serialization is valid. -/
theorem tcpValidateChecksum_stored {segment : TcpSegment} {srcIp dstIp : IpAddress}
    (h : segment.payload.length ≤ tcpMaxPayload)
    (hstored : segment.checksum =
      tcpComputeChecksum (tcpBytes { segment with checksum := 0 }) srcIp dstIp) :
    tcpValidateChecksum segment srcIp dstIp = true := by
  have hlen := tcpBytes_length { segment with checksum := 0 }
  have hzero := readU16Be_tcpBytes_checksum { segment with checksum := 0 }
  have hsum := transportComputeChecksum_stored (k := 8) ipv4ProtocolTcp srcIp dstIp
    (by rw [hlen, tcpHeaderSize]; omega) hzero
  rw [tcpValidateChecksum_iff h, tcpComputeChecksum]
  rw [tcpComputeChecksum] at hstored
  rw [← hstored, setU16Be_tcpBytes] at hsum
  exact hsum

end MagiStack
