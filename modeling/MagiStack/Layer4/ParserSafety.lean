import MagiStack.Layer2.Arp
import MagiStack.Layer3.Icmp
import MagiStack.Layer4.Tcp
import MagiStack.Layer4.Udp
import MagiStack.Library.CheckedBuffer

/-!
# ParserSafety — the parsers read and write inside their buffers

The `from_bytes` functions once more, with every access to the input and to the fixed payload array of
the message checked, and with the sizes of the source, whose subtraction wraps around.  None of them
faults on any input; each returns what the unchecked model returns, and leaves in the array the payload
the message declares.  So `host_receive` and `router_receive`, which hand the payload of one layer to the
parser of the next, read received bytes only.
-/

namespace MagiStack

open CheckedBuffer

/-! ## Checked fields -/

/-- `read_u16_be(raw + i)`. -/
def readU16Checked (raw : List UInt8) (i : Nat) : Access UInt16 := do
  let hi ← readByte raw i
  let lo ← readByte raw (i + 1)
  return beWord hi lo

/-- `read_u32_be(raw + i)`. -/
def readU32Checked (raw : List UInt8) (i : Nat) : Access UInt32 := do
  let b0 ← readByte raw i
  let b1 ← readByte raw (i + 1)
  let b2 ← readByte raw (i + 2)
  let b3 ← readByte raw (i + 3)
  return beLong b0 b1 b2 b3

/-- `memcpy(mac.bytes, raw + i, 6)`. -/
def readMacChecked (raw : List UInt8) (i : Nat) : Access MacAddress := do
  let byte0 ← readByte raw i
  let byte1 ← readByte raw (i + 1)
  let byte2 ← readByte raw (i + 2)
  let byte3 ← readByte raw (i + 3)
  let byte4 ← readByte raw (i + 4)
  let byte5 ← readByte raw (i + 5)
  return ⟨byte0, byte1, byte2, byte3, byte4, byte5⟩

/-- `memcpy(ip.octet, raw + i, 4)`, with prefix `0`. -/
def readIpChecked (raw : List UInt8) (i : Nat) : Access IpAddress := do
  let octet0 ← readByte raw i
  let octet1 ← readByte raw (i + 1)
  let octet2 ← readByte raw (i + 2)
  let octet3 ← readByte raw (i + 3)
  return ⟨octet0, octet1, octet2, octet3, 0⟩

section Fields

variable {raw : List UInt8} {i : Nat}

theorem readByte_pure (h : i < raw.length) : readByte raw i = pure (raw.getD i 0) :=
  readByte_eq h

theorem readU16Checked_eq (h : i + 2 ≤ raw.length) :
    readU16Checked raw i = pure (readU16Be raw i) := by
  rw [readU16Checked, readByte_pure (by omega), readByte_pure (by omega)]
  rfl

theorem readU32Checked_eq (h : i + 4 ≤ raw.length) :
    readU32Checked raw i = pure (readU32Be raw i) := by
  rw [readU32Checked, readByte_pure (by omega), readByte_pure (by omega), readByte_pure (by omega),
    readByte_pure (by omega)]
  rfl

theorem readMacChecked_eq (h : i + 6 ≤ raw.length) :
    readMacChecked raw i = pure (MacAddress.read raw i) := by
  rw [readMacChecked, readByte_pure (by omega), readByte_pure (by omega), readByte_pure (by omega),
    readByte_pure (by omega), readByte_pure (by omega), readByte_pure (by omega)]
  rfl

theorem readIpChecked_eq (h : i + 4 ≤ raw.length) :
    readIpChecked raw i = pure (IpAddress.read raw i) := by
  rw [readIpChecked, readByte_pure (by omega), readByte_pure (by omega), readByte_pure (by omega),
    readByte_pure (by omega)]
  rfl

end Fields

/-! ## Messages with their payload array -/

/-- A message as the parser leaves it: its payload is the first `payloadLen` bytes of the array. -/
structure Parsed (α : Type) (size : Nat) where
  message : α
  payload : Vector UInt8 size
  payloadLen : Nat

/-- `memcpy(message->payload, raw + offset, payload_len)`. -/
def storePayload {α : Type} {size : Nat} (payload : Vector UInt8 size) (raw : List UInt8)
    (offset payloadLen : Nat) (message : List UInt8 → α) : Access (Option (Parsed α size)) := do
  let payload ← copyBytes payload raw offset payloadLen
  return some
    { message := message (payload.toList.take payloadLen)
      payload := payload
      payloadLen := payloadLen }

theorem storePayload_eq {α : Type} {size : Nat} (payload : Vector UInt8 size) {raw : List UInt8}
    {offset payloadLen : Nat} (message : List UInt8 → α) (hread : offset + payloadLen ≤ raw.length)
    (hwrite : payloadLen ≤ size) :
    ∃ parsed, storePayload payload raw offset payloadLen message = .ok (some parsed) ∧
      parsed.message = message ((raw.drop offset).take payloadLen) ∧
      parsed.payloadLen = payloadLen ∧
      parsed.payload.toList.take payloadLen = (raw.drop offset).take payloadLen := by
  rcases copyBytes_eq payload hread hwrite with ⟨copied, hcopied, htake, -⟩
  refine ⟨⟨message (copied.toList.take payloadLen), copied, payloadLen⟩, ?_,
    congrArg message htake, rfl, htake⟩
  rw [storePayload, hcopied]
  rfl

/-- What a parser that succeeds leaves behind: a payload of the declared length, which fits the array and
is a part of the input. -/
structure PayloadOk {α : Type} {size : Nat} (raw : List UInt8) (payloadOf : α → List UInt8)
    (offset declared : Nat) (parsed : Parsed α size) : Prop where
  fits : parsed.payloadLen ≤ size
  declared : parsed.payloadLen = declared
  inside : offset + parsed.payloadLen ≤ raw.length
  payload : payloadOf parsed.message = (raw.drop offset).take parsed.payloadLen
  stored : parsed.payload.toList.take parsed.payloadLen = payloadOf parsed.message

/-- The program does not fault, returns the expected message, and leaves its declared payload. -/
def SafeResult {α : Type} {size : Nat} (raw : List UInt8) (payloadOf : α → List UInt8)
    (offset : α → Nat) (declared : List UInt8 → α → Nat)
    (program : Access (Option (Parsed α size))) (expected : Option α) : Prop :=
  ∃ result, program = .ok result ∧ result.map Parsed.message = expected ∧
    ∀ parsed, result = some parsed →
      PayloadOk raw payloadOf (offset parsed.message) (declared raw parsed.message) parsed

/-- On every input and whatever the array holds, the parser does what the unchecked one does. -/
def MemorySafe {α : Type} {size : Nat}
    (parse : Vector UInt8 size → List UInt8 → Access (Option (Parsed α size)))
    (fromBytes : List UInt8 → Option α) (payloadOf : α → List UInt8) (offset : α → Nat)
    (declared : List UInt8 → α → Nat) : Prop :=
  ∀ array raw, SafeResult raw payloadOf offset declared (parse array raw) (fromBytes raw)

/-! ## The parsers -/

/-- `ethernet_from_bytes`. -/
def ethernetFromBytesChecked (payload : Vector UInt8 ethernetMaxPayload) (raw : List UInt8) :
    Access (Option (Parsed EthernetFrame ethernetMaxPayload)) :=
  if raw.length < ethernetHeaderSize then
    pure none
  else do
    let dstMac ← readMacChecked raw 0
    let srcMac ← readMacChecked raw 6
    let typeOrVlan ← readU16Checked raw 12
    if typeOrVlan = ethernetTypeVlan then
      if raw.length < ethernetVlanHeaderSize then
        pure none
      else do
        let tag ← readU16Checked raw 14
        let ethertype ← readU16Checked raw 16
        if ethernetMaxPayload < sizeSub raw.length ethernetVlanHeaderSize then
          pure none
        else
          storePayload payload raw ethernetVlanHeaderSize
            (sizeSub raw.length ethernetVlanHeaderSize) fun bytes =>
              { dstMac := dstMac
                srcMac := srcMac
                hasVlan := true
                vlanId := tag &&& ethernetVlanIdMask
                ethertype := ethertype
                payload := bytes }
    else if ethernetMaxPayload < sizeSub raw.length ethernetHeaderSize then
      pure none
    else
      storePayload payload raw ethernetHeaderSize (sizeSub raw.length ethernetHeaderSize)
        fun bytes =>
          { dstMac := dstMac
            srcMac := srcMac
            hasVlan := false
            vlanId := 0
            ethertype := typeOrVlan
            payload := bytes }

/-- `arp_message_from_bytes`, which has no payload. -/
def arpMessageFromBytesChecked (raw : List UInt8) : Access (Option ArpMessage) :=
  if raw.length < arpSerializedSize then
    pure none
  else do
    let hardwareType ← readU16Checked raw 0
    let protocolType ← readU16Checked raw 2
    let hardwareLen ← readByte raw 4
    let protocolLen ← readByte raw 5
    if hardwareType ≠ arpHardwareEthernet ∨ protocolType ≠ arpProtocolIpv4 ∨
        hardwareLen ≠ arpHardwareLen ∨ protocolLen ≠ arpProtocolLen then
      pure none
    else do
      let opcode ← readU16Checked raw 6
      match ArpOpcode.ofValue opcode with
      | none => pure none
      | some opcode => do
          let senderMac ← readMacChecked raw 8
          let senderIp ← readIpChecked raw 14
          let targetMac ← readMacChecked raw 18
          let targetIp ← readIpChecked raw 24
          return some
            { opcode := opcode
              senderMac := senderMac
              senderIp := senderIp
              targetMac := targetMac
              targetIp := targetIp }

/-- `ipv4_from_bytes`. -/
def ipv4FromBytesChecked (payload : Vector UInt8 ipv4MaxPayload) (raw : List UInt8) :
    Access (Option (Parsed Ipv4Packet ipv4MaxPayload)) :=
  if raw.length < ipv4HeaderSize then
    pure none
  else do
    let first ← readByte raw 0
    let version := first >>> 4
    let ihl := first &&& (0x0F : UInt8)
    let headerLen := ihl.toNat * 4
    if version ≠ 4 ∨ ihl < 5 ∨ raw.length < headerLen then
      pure none
    else do
      let totalLength ← readU16Checked raw 2
      if totalLength.toNat < headerLen ∨ raw.length < totalLength.toNat then
        pure none
      else do
        let ttl ← readByte raw 8
        let protocol ← readByte raw 9
        let checksum ← readU16Checked raw 10
        let srcIp ← readIpChecked raw 12
        let dstIp ← readIpChecked raw 16
        if ipv4MaxPayload < sizeSub totalLength.toNat headerLen then
          pure none
        else
          storePayload payload raw headerLen (sizeSub totalLength.toNat headerLen) fun bytes =>
            { version := version
              ihl := ihl
              totalLength := totalLength
              ttl := ttl
              protocol := protocol
              checksum := checksum
              srcIp := srcIp
              dstIp := dstIp
              payload := bytes }

/-- `icmp_from_bytes`. -/
def icmpFromBytesChecked (payload : Vector UInt8 icmpMaxPayload) (raw : List UInt8) :
    Access (Option (Parsed IcmpMessage icmpMaxPayload)) :=
  if raw.length < icmpHeaderSize then
    pure none
  else if icmpMaxPayload < sizeSub raw.length icmpHeaderSize then
    pure none
  else do
    let type ← readByte raw 0
    let code ← readByte raw 1
    let checksum ← readU16Checked raw 2
    let identifier ← readU16Checked raw 4
    let sequence ← readU16Checked raw 6
    storePayload payload raw icmpHeaderSize (sizeSub raw.length icmpHeaderSize) fun bytes =>
      { type := type
        code := code
        checksum := checksum
        identifier := identifier
        sequence := sequence
        payload := bytes }

/-- `udp_from_bytes`. -/
def udpFromBytesChecked (payload : Vector UInt8 udpMaxPayload) (raw : List UInt8) :
    Access (Option (Parsed UdpDatagram udpMaxPayload)) :=
  if raw.length < udpHeaderSize then
    pure none
  else do
    let srcPort ← readU16Checked raw 0
    let dstPort ← readU16Checked raw 2
    let length ← readU16Checked raw 4
    let checksum ← readU16Checked raw 6
    if length.toNat < udpHeaderSize ∨ raw.length < length.toNat then
      pure none
    else if udpMaxPayload < sizeSub length.toNat udpHeaderSize then
      pure none
    else
      storePayload payload raw udpHeaderSize (sizeSub length.toNat udpHeaderSize) fun bytes =>
        { srcPort := srcPort
          dstPort := dstPort
          length := length
          checksum := checksum
          payload := bytes }

/-- `tcp_from_bytes`. -/
def tcpFromBytesChecked (payload : Vector UInt8 tcpMaxPayload) (raw : List UInt8) :
    Access (Option (Parsed TcpSegment tcpMaxPayload)) :=
  if raw.length < tcpHeaderSize then
    pure none
  else do
    let srcPort ← readU16Checked raw 0
    let dstPort ← readU16Checked raw 2
    let seqNum ← readU32Checked raw 4
    let ackNum ← readU32Checked raw 8
    let offsetByte ← readByte raw 12
    let dataOffset := offsetByte >>> 4
    let flags ← readByte raw 13
    let window ← readU16Checked raw 14
    let checksum ← readU16Checked raw 16
    let urgentPtr ← readU16Checked raw 18
    let headerLen := dataOffset.toNat * 4
    if headerLen < tcpHeaderSize ∨ raw.length < headerLen then
      pure none
    else if tcpMaxPayload < sizeSub raw.length headerLen then
      pure none
    else
      storePayload payload raw headerLen (sizeSub raw.length headerLen) fun bytes =>
        { srcPort := srcPort
          dstPort := dstPort
          seqNum := seqNum
          ackNum := ackNum
          dataOffset := dataOffset
          flags := flags
          window := window
          checksum := checksum
          urgentPtr := urgentPtr
          payload := bytes }

/-! ## Each parser is safe -/

/-- A parser that stores a payload which fits, for the message the unchecked parser returns. -/
theorem SafeResult.store {α : Type} {size : Nat} (array : Vector UInt8 size) {raw : List UInt8}
    {payloadOf : α → List UInt8} {offset : α → Nat} {declared : List UInt8 → α → Nat}
    {message : List UInt8 → α} {start payloadLen : Nat} {expected : α}
    (hread : start + payloadLen ≤ raw.length) (hwrite : payloadLen ≤ size)
    (hexpected : message ((raw.drop start).take payloadLen) = expected)
    (hpayload : payloadOf expected = (raw.drop start).take payloadLen)
    (hoffset : offset expected = start) (hdeclared : declared raw expected = payloadLen) :
    SafeResult raw payloadOf offset declared (storePayload array raw start payloadLen message)
      (some expected) := by
  rcases storePayload_eq array message hread hwrite with ⟨parsed, hparsed, hmessage, hlen, hstored⟩
  have hparsedMessage : parsed.message = expected := hmessage.trans hexpected
  refine ⟨some parsed, hparsed, congrArg some hparsedMessage, fun parsed' hsome => ?_⟩
  rw [← Option.some.inj hsome, hparsedMessage, hoffset, hdeclared]
  exact
    { fits := hlen ▸ hwrite
      declared := hlen
      inside := hlen ▸ hread
      payload := by rw [hparsedMessage, hpayload, hlen]
      stored := by rw [hparsedMessage, hpayload, hlen, hstored] }

/-- A parser that rejects its input. -/
theorem SafeResult.reject {α : Type} {size : Nat} {raw : List UInt8} {payloadOf : α → List UInt8}
    {offset : α → Nat} {declared : List UInt8 → α → Nat} :
    SafeResult raw payloadOf offset declared (pure none : Access (Option (Parsed α size))) none :=
  ⟨none, rfl, rfl, fun _ h => (nomatch h)⟩

/-- The rest of the input from an offset. -/
theorem take_drop_rest (raw : List UInt8) (offset : Nat) :
    (raw.drop offset).take (raw.length - offset) = raw.drop offset :=
  List.take_of_length_le (by simp)

theorem ethernetFromBytesChecked_safe :
    MemorySafe ethernetFromBytesChecked ethernetFromBytes EthernetFrame.payload
      ethernetFrameHeaderSize fun raw frame => raw.length - ethernetFrameHeaderSize frame := by
  intro array raw
  rw [ethernetFromBytesChecked, ethernetFromBytes]
  by_cases hshort : raw.length < ethernetHeaderSize
  · rw [if_pos hshort, if_pos hshort]
    exact SafeResult.reject
  · have hheader : ethernetHeaderSize ≤ raw.length := not_lt.mp hshort
    have hlength : 14 ≤ raw.length := hheader
    rw [if_neg hshort, if_neg hshort, readMacChecked_eq (by omega), readMacChecked_eq (by omega),
      readU16Checked_eq (by omega)]
    simp only [pure_bind]
    by_cases hvlan : readU16Be raw 12 = ethernetTypeVlan
    · rw [if_pos hvlan, if_pos hvlan]
      by_cases hshortVlan : raw.length < ethernetVlanHeaderSize
      · rw [if_pos hshortVlan, if_pos hshortVlan]
        exact SafeResult.reject
      · have hheaderVlan : ethernetVlanHeaderSize ≤ raw.length := not_lt.mp hshortVlan
        have hlengthVlan : 18 ≤ raw.length := hheaderVlan
        rw [if_neg hshortVlan, if_neg hshortVlan, readU16Checked_eq (by omega),
          readU16Checked_eq (by omega)]
        simp only [pure_bind, sizeSub_eq hheaderVlan]
        by_cases hlong : ethernetMaxPayload < raw.length - ethernetVlanHeaderSize
        · rw [if_pos hlong, if_pos hlong]
          exact SafeResult.reject
        · rw [if_neg hlong, if_neg hlong]
          refine SafeResult.store array (show 18 + (raw.length - 18) ≤ raw.length by omega)
            (not_lt.mp hlong) ?_ (take_drop_rest raw _).symm rfl rfl
          rw [take_drop_rest]
    · rw [if_neg hvlan, if_neg hvlan, sizeSub_eq hheader]
      by_cases hlong : ethernetMaxPayload < raw.length - ethernetHeaderSize
      · rw [if_pos hlong, if_pos hlong]
        exact SafeResult.reject
      · rw [if_neg hlong, if_neg hlong]
        refine SafeResult.store array (show 14 + (raw.length - 14) ≤ raw.length by omega)
          (not_lt.mp hlong) ?_ (take_drop_rest raw _).symm rfl rfl
        rw [take_drop_rest]

/-- `arp_message_from_bytes` writes the fields of the message only. -/
theorem arpMessageFromBytesChecked_eq (raw : List UInt8) :
    arpMessageFromBytesChecked raw = .ok (arpMessageFromBytes raw) := by
  rw [arpMessageFromBytesChecked, arpMessageFromBytes]
  by_cases hshort : raw.length < arpSerializedSize
  · rw [if_pos hshort, if_pos hshort]
    rfl
  · have hlength : 28 ≤ raw.length := not_lt.mp hshort
    rw [if_neg hshort, if_neg hshort, readU16Checked_eq (by omega), readU16Checked_eq (by omega),
      readByte_pure (by omega), readByte_pure (by omega)]
    simp only [pure_bind]
    split
    · rfl
    · rw [readU16Checked_eq (by omega), pure_bind]
      cases ArpOpcode.ofValue (readU16Be raw 6) with
      | none => rfl
      | some opcode =>
          simp only [readMacChecked_eq (show 8 + 6 ≤ raw.length by omega),
            readIpChecked_eq (show 14 + 4 ≤ raw.length by omega),
            readMacChecked_eq (show 18 + 6 ≤ raw.length by omega),
            readIpChecked_eq (show 24 + 4 ≤ raw.length by omega), pure_bind]
          rfl

theorem ipv4FromBytesChecked_safe :
    MemorySafe ipv4FromBytesChecked ipv4FromBytes Ipv4Packet.payload
      (fun packet => packet.ihl.toNat * 4)
      fun _ packet => packet.totalLength.toNat - packet.ihl.toNat * 4 := by
  intro array raw
  rw [ipv4FromBytesChecked, ipv4FromBytes]
  by_cases hshort : raw.length < ipv4HeaderSize
  · rw [if_pos hshort, if_pos hshort]
    exact SafeResult.reject
  · have hlength : 20 ≤ raw.length := not_lt.mp hshort
    rw [if_neg hshort, if_neg hshort, readByte_pure (by omega)]
    simp only [pure_bind]
    generalize raw.getD 0 0 = first
    by_cases hheader : first >>> 4 ≠ 4 ∨ first &&& 15 < 5 ∨
        raw.length < (first &&& 15).toNat * 4
    · rw [if_pos hheader, if_pos hheader]
      exact SafeResult.reject
    · rw [if_neg hheader, if_neg hheader, readU16Checked_eq (by omega), pure_bind]
      by_cases htotal : (readU16Be raw 2).toNat < (first &&& 15).toNat * 4 ∨
          raw.length < (readU16Be raw 2).toNat
      · rw [if_pos htotal, if_pos htotal]
        exact SafeResult.reject
      · rcases not_or.mp htotal with ⟨hle, hraw⟩
        rw [if_neg htotal, if_neg htotal]
        simp only [readByte_pure (show 8 < raw.length by omega),
          readByte_pure (show 9 < raw.length by omega),
          readU16Checked_eq (show 10 + 2 ≤ raw.length by omega),
          readIpChecked_eq (show 12 + 4 ≤ raw.length by omega),
          readIpChecked_eq (show 16 + 4 ≤ raw.length by omega), pure_bind,
          sizeSub_eq (not_lt.mp hle)]
        by_cases hlong : ipv4MaxPayload < (readU16Be raw 2).toNat - (first &&& 15).toNat * 4
        · rw [if_pos hlong, if_pos hlong]
          exact SafeResult.reject
        · rw [if_neg hlong, if_neg hlong]
          exact SafeResult.store array (by omega) (not_lt.mp hlong) rfl rfl rfl rfl

theorem icmpFromBytesChecked_safe :
    MemorySafe icmpFromBytesChecked icmpFromBytes IcmpMessage.payload (fun _ => icmpHeaderSize)
      fun raw _ => raw.length - icmpHeaderSize := by
  intro array raw
  rw [icmpFromBytesChecked, icmpFromBytes]
  by_cases hshort : raw.length < icmpHeaderSize
  · rw [if_pos hshort, if_pos hshort]
    exact SafeResult.reject
  · have hheader : icmpHeaderSize ≤ raw.length := not_lt.mp hshort
    have hlength : 8 ≤ raw.length := hheader
    rw [if_neg hshort, if_neg hshort, sizeSub_eq hheader]
    by_cases hlong : icmpMaxPayload < raw.length - icmpHeaderSize
    · rw [if_pos hlong, if_pos hlong]
      exact SafeResult.reject
    · rw [if_neg hlong, if_neg hlong]
      simp only [readByte_pure (show 0 < raw.length by omega),
        readByte_pure (show 1 < raw.length by omega),
        readU16Checked_eq (show 2 + 2 ≤ raw.length by omega),
        readU16Checked_eq (show 4 + 2 ≤ raw.length by omega),
        readU16Checked_eq (show 6 + 2 ≤ raw.length by omega), pure_bind]
      refine SafeResult.store array (show 8 + (raw.length - 8) ≤ raw.length by omega)
        (not_lt.mp hlong) ?_ (take_drop_rest raw _).symm rfl rfl
      rw [take_drop_rest]

theorem udpFromBytesChecked_safe :
    MemorySafe udpFromBytesChecked udpFromBytes UdpDatagram.payload (fun _ => udpHeaderSize)
      fun _ datagram => datagram.length.toNat - udpHeaderSize := by
  intro array raw
  rw [udpFromBytesChecked, udpFromBytes]
  by_cases hshort : raw.length < udpHeaderSize
  · rw [if_pos hshort, if_pos hshort]
    exact SafeResult.reject
  · have hlength : 8 ≤ raw.length := not_lt.mp hshort
    rw [if_neg hshort, if_neg hshort]
    simp only [readU16Checked_eq (show 0 + 2 ≤ raw.length by omega),
      readU16Checked_eq (show 2 + 2 ≤ raw.length by omega),
      readU16Checked_eq (show 4 + 2 ≤ raw.length by omega),
      readU16Checked_eq (show 6 + 2 ≤ raw.length by omega), pure_bind]
    by_cases hdeclared : (readU16Be raw 4).toNat < udpHeaderSize ∨
        raw.length < (readU16Be raw 4).toNat
    · rw [if_pos hdeclared, if_pos hdeclared]
      exact SafeResult.reject
    · rcases not_or.mp hdeclared with ⟨hle, hraw⟩
      have hheader : 8 ≤ (readU16Be raw 4).toNat := not_lt.mp hle
      rw [if_neg hdeclared, if_neg hdeclared, sizeSub_eq (not_lt.mp hle)]
      by_cases hlong : udpMaxPayload < (readU16Be raw 4).toNat - udpHeaderSize
      · rw [if_pos hlong, if_pos hlong]
        exact SafeResult.reject
      · rw [if_neg hlong, if_neg hlong]
        exact SafeResult.store array
          (show 8 + ((readU16Be raw 4).toNat - 8) ≤ raw.length by omega) (not_lt.mp hlong)
          rfl rfl rfl rfl

theorem tcpFromBytesChecked_safe :
    MemorySafe tcpFromBytesChecked tcpFromBytes TcpSegment.payload
      (fun segment => segment.dataOffset.toNat * 4)
      fun raw segment => raw.length - segment.dataOffset.toNat * 4 := by
  intro array raw
  rw [tcpFromBytesChecked, tcpFromBytes]
  by_cases hshort : raw.length < tcpHeaderSize
  · rw [if_pos hshort, if_pos hshort]
    exact SafeResult.reject
  · have hlength : 20 ≤ raw.length := not_lt.mp hshort
    rw [if_neg hshort, if_neg hshort]
    simp only [readU16Checked_eq (show 0 + 2 ≤ raw.length by omega),
      readU16Checked_eq (show 2 + 2 ≤ raw.length by omega),
      readU32Checked_eq (show 4 + 4 ≤ raw.length by omega),
      readU32Checked_eq (show 8 + 4 ≤ raw.length by omega),
      readByte_pure (show 12 < raw.length by omega), readByte_pure (show 13 < raw.length by omega),
      readU16Checked_eq (show 14 + 2 ≤ raw.length by omega),
      readU16Checked_eq (show 16 + 2 ≤ raw.length by omega),
      readU16Checked_eq (show 18 + 2 ≤ raw.length by omega), pure_bind]
    generalize hoffset : raw.getD 12 0 >>> 4 = dataOffset
    by_cases hheader : dataOffset.toNat * 4 < tcpHeaderSize ∨ raw.length < dataOffset.toNat * 4
    · rw [if_pos hheader, if_pos hheader]
      exact SafeResult.reject
    · rcases not_or.mp hheader with ⟨-, hraw⟩
      have hle : dataOffset.toNat * 4 ≤ raw.length := not_lt.mp hraw
      rw [if_neg hheader, if_neg hheader, sizeSub_eq hle]
      by_cases hlong : tcpMaxPayload < raw.length - dataOffset.toNat * 4
      · rw [if_pos hlong, if_pos hlong]
        exact SafeResult.reject
      · rw [if_neg hlong, if_neg hlong]
        refine SafeResult.store array (by omega) (not_lt.mp hlong) ?_ (take_drop_rest raw _).symm
          rfl rfl
        rw [take_drop_rest]

/-! ## The nested parses -/

/-- What is left of a frame after the parsers. -/
inductive Received
  | nothing
  | arp (message : ArpMessage)
  | udp (packet : Ipv4Packet) (datagram : UdpDatagram)
  | tcp (packet : Ipv4Packet) (segment : TcpSegment)
  | icmp (packet : Ipv4Packet) (message : IcmpMessage)
  | other (packet : Ipv4Packet)

/-- The payload arrays of the messages on the stack, with any content. -/
structure Arrays where
  ethernet : Vector UInt8 ethernetMaxPayload
  ipv4 : Vector UInt8 ipv4MaxPayload
  icmp : Vector UInt8 icmpMaxPayload
  udp : Vector UInt8 udpMaxPayload
  tcp : Vector UInt8 tcpMaxPayload

/-- The bytes `message->payload, message->payload_len` hand to the next parser. -/
def Parsed.received {α : Type} {size : Nat} (parsed : Parsed α size) : List UInt8 :=
  parsed.payload.toList.take parsed.payloadLen

/-- The parsers of `host_receive`; the checks between them only make it return earlier. -/
def hostReceiveParse (arrays : Arrays) (raw : List UInt8) : Access Received := do
  match ← ethernetFromBytesChecked arrays.ethernet raw with
  | none => pure .nothing
  | some frame =>
      if frame.message.ethertype = ethernetTypeArp then do
        let message ← arpMessageFromBytesChecked frame.received
        return message.elim .nothing .arp
      else if frame.message.ethertype = ethernetTypeIpv4 then do
        match ← ipv4FromBytesChecked arrays.ipv4 frame.received with
        | none => pure .nothing
        | some packet =>
            if packet.message.protocol = ipv4ProtocolUdp then do
              let datagram ← udpFromBytesChecked arrays.udp packet.received
              return datagram.elim .nothing fun datagram => .udp packet.message datagram.message
            else if packet.message.protocol = ipv4ProtocolTcp then do
              let segment ← tcpFromBytesChecked arrays.tcp packet.received
              return segment.elim .nothing fun segment => .tcp packet.message segment.message
            else if packet.message.protocol = ipv4ProtocolIcmp then do
              let message ← icmpFromBytesChecked arrays.icmp packet.received
              return message.elim .nothing fun message => .icmp packet.message message.message
            else
              pure (.other packet.message)
      else
        pure .nothing

/-- The parsers of `router_receive`, `router_handle_local_ipv4` and
`router_can_send_error_for_packet`. -/
def routerReceiveParse (arrays : Arrays) (raw : List UInt8) : Access Received := do
  match ← ethernetFromBytesChecked arrays.ethernet raw with
  | none => pure .nothing
  | some frame =>
      if frame.message.ethertype = ethernetTypeArp then do
        let message ← arpMessageFromBytesChecked frame.received
        return message.elim .nothing .arp
      else if frame.message.ethertype = ethernetTypeIpv4 then do
        match ← ipv4FromBytesChecked arrays.ipv4 frame.received with
        | none => pure .nothing
        | some packet =>
            if packet.message.protocol = ipv4ProtocolIcmp then do
              let message ← icmpFromBytesChecked arrays.icmp packet.received
              return message.elim (.other packet.message) fun message =>
                .icmp packet.message message.message
            else
              pure (.other packet.message)
      else
        pure .nothing

/-- The unchecked parsers of `host_receive`. -/
def hostReceived (raw : List UInt8) : Received :=
  (ethernetFromBytes raw).elim .nothing fun frame =>
    if frame.ethertype = ethernetTypeArp then
      (arpMessageFromBytes frame.payload).elim .nothing .arp
    else if frame.ethertype = ethernetTypeIpv4 then
      (ipv4FromBytes frame.payload).elim .nothing fun packet =>
        if packet.protocol = ipv4ProtocolUdp then
          (udpFromBytes packet.payload).elim .nothing (.udp packet)
        else if packet.protocol = ipv4ProtocolTcp then
          (tcpFromBytes packet.payload).elim .nothing (.tcp packet)
        else if packet.protocol = ipv4ProtocolIcmp then
          (icmpFromBytes packet.payload).elim .nothing (.icmp packet)
        else
          .other packet
    else
      .nothing

/-- The unchecked parsers of `router_receive`. -/
def routerReceived (raw : List UInt8) : Received :=
  (ethernetFromBytes raw).elim .nothing fun frame =>
    if frame.ethertype = ethernetTypeArp then
      (arpMessageFromBytes frame.payload).elim .nothing .arp
    else if frame.ethertype = ethernetTypeIpv4 then
      (ipv4FromBytes frame.payload).elim .nothing fun packet =>
        if packet.protocol = ipv4ProtocolIcmp then
          (icmpFromBytes packet.payload).elim (.other packet) (.icmp packet)
        else
          .other packet
    else
      .nothing

/-- A safe parser rejects its input, or hands on the payload of the message. -/
theorem MemorySafe.cases {α : Type} {size : Nat}
    {parse : Vector UInt8 size → List UInt8 → Access (Option (Parsed α size))}
    {fromBytes : List UInt8 → Option α} {payloadOf : α → List UInt8} {offset : α → Nat}
    {declared : List UInt8 → α → Nat} (h : MemorySafe parse fromBytes payloadOf offset declared)
    (array : Vector UInt8 size) (raw : List UInt8) :
    (parse array raw = pure none ∧ fromBytes raw = none) ∨
      ∃ parsed, parse array raw = pure (some parsed) ∧ fromBytes raw = some parsed.message ∧
        parsed.received = payloadOf parsed.message := by
  rcases h array raw with ⟨result, hresult, hmessage, hpayload⟩
  cases result with
  | none => exact Or.inl ⟨hresult, hmessage.symm⟩
  | some parsed => exact Or.inr ⟨parsed, hresult, hmessage.symm, (hpayload parsed rfl).stored⟩

theorem hostReceiveParse_eq (arrays : Arrays) (raw : List UInt8) :
    hostReceiveParse arrays raw = .ok (hostReceived raw) := by
  rw [hostReceiveParse, hostReceived]
  -- Each parser reads the payload that the one before it has stored.
  rcases ethernetFromBytesChecked_safe.cases arrays.ethernet raw with
    ⟨hparse, hfrom⟩ | ⟨frame, hparse, hfrom, hframe⟩
  · rw [hparse, hfrom]
    rfl
  · simp only [hparse, hfrom, hframe, pure_bind, Option.elim_some]
    split
    · rw [arpMessageFromBytesChecked_eq]
      rfl
    · split
      · rcases ipv4FromBytesChecked_safe.cases arrays.ipv4 frame.message.payload with
          ⟨hparse, hfrom⟩ | ⟨packet, hparse, hfrom, hpacket⟩
        · rw [hparse, hfrom]
          rfl
        · simp only [hparse, hfrom, hpacket, pure_bind, Option.elim_some]
          split
          · rcases udpFromBytesChecked_safe.cases arrays.udp packet.message.payload with
              ⟨hparse, hfrom⟩ | ⟨datagram, hparse, hfrom, -⟩
            all_goals
              rw [hparse, hfrom]
              rfl
          · split
            · rcases tcpFromBytesChecked_safe.cases arrays.tcp packet.message.payload with
                ⟨hparse, hfrom⟩ | ⟨segment, hparse, hfrom, -⟩
              all_goals
                rw [hparse, hfrom]
                rfl
            · split
              · rcases icmpFromBytesChecked_safe.cases arrays.icmp packet.message.payload with
                  ⟨hparse, hfrom⟩ | ⟨message, hparse, hfrom, -⟩
                all_goals
                  rw [hparse, hfrom]
                  rfl
              · rfl
      · rfl

theorem routerReceiveParse_eq (arrays : Arrays) (raw : List UInt8) :
    routerReceiveParse arrays raw = .ok (routerReceived raw) := by
  rw [routerReceiveParse, routerReceived]
  rcases ethernetFromBytesChecked_safe.cases arrays.ethernet raw with
    ⟨hparse, hfrom⟩ | ⟨frame, hparse, hfrom, hframe⟩
  · rw [hparse, hfrom]
    rfl
  · simp only [hparse, hfrom, hframe, pure_bind, Option.elim_some]
    split
    · rw [arpMessageFromBytesChecked_eq]
      rfl
    · split
      · rcases ipv4FromBytesChecked_safe.cases arrays.ipv4 frame.message.payload with
          ⟨hparse, hfrom⟩ | ⟨packet, hparse, hfrom, hpacket⟩
        · rw [hparse, hfrom]
          rfl
        · simp only [hparse, hfrom, hpacket, pure_bind, Option.elim_some]
          split
          · rcases icmpFromBytesChecked_safe.cases arrays.icmp packet.message.payload with
              ⟨hparse, hfrom⟩ | ⟨message, hparse, hfrom, -⟩
            all_goals
              rw [hparse, hfrom]
              rfl
          · rfl
      · rfl

/-- On every byte string the six parsers stay inside the input and inside their payload arrays, and leave
the payload the message declares; and so do the parsers that `host_receive` and `router_receive` run on
the payloads. -/
theorem parsers_memorySafe :
    (MemorySafe ethernetFromBytesChecked ethernetFromBytes EthernetFrame.payload
        ethernetFrameHeaderSize fun raw frame => raw.length - ethernetFrameHeaderSize frame) ∧
      (∀ raw, arpMessageFromBytesChecked raw = .ok (arpMessageFromBytes raw)) ∧
      (MemorySafe ipv4FromBytesChecked ipv4FromBytes Ipv4Packet.payload
        (fun packet => packet.ihl.toNat * 4)
        fun _ packet => packet.totalLength.toNat - packet.ihl.toNat * 4) ∧
      (MemorySafe icmpFromBytesChecked icmpFromBytes IcmpMessage.payload (fun _ => icmpHeaderSize)
        fun raw _ => raw.length - icmpHeaderSize) ∧
      (MemorySafe udpFromBytesChecked udpFromBytes UdpDatagram.payload (fun _ => udpHeaderSize)
        fun _ datagram => datagram.length.toNat - udpHeaderSize) ∧
      (MemorySafe tcpFromBytesChecked tcpFromBytes TcpSegment.payload
        (fun segment => segment.dataOffset.toNat * 4)
        fun raw segment => raw.length - segment.dataOffset.toNat * 4) ∧
      ∀ arrays raw, hostReceiveParse arrays raw = .ok (hostReceived raw) ∧
        routerReceiveParse arrays raw = .ok (routerReceived raw) :=
  ⟨ethernetFromBytesChecked_safe, arpMessageFromBytesChecked_eq, ipv4FromBytesChecked_safe,
    icmpFromBytesChecked_safe, udpFromBytesChecked_safe, tcpFromBytesChecked_safe,
    fun arrays raw => ⟨hostReceiveParse_eq arrays raw, routerReceiveParse_eq arrays raw⟩⟩

end MagiStack
