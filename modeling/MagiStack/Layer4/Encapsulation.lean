import MagiStack.Layer2.Ethernet
import MagiStack.Layer3.Icmp
import MagiStack.Layer4.Tcp
import MagiStack.Layer4.Udp

/-!
# Encapsulation — from a transport message to a frame and back

`magi_send`, `magi_sendto` and `host_send_icmp_echo_request` all build a message, store its
checksum, serialize it into an IPv4 packet and that into an Ethernet frame; `host_receive` undoes the
three layers and validates both checksums.  The chains below are those of the source, each
serializer writing into the buffer its caller declares.  The result is that no serializer ever
fails, and that the receiver recovers what was sent.
-/

namespace MagiStack

/-! ## The sending chain -/

/-- A frame goes out untagged from a host, and through `ethernet_set_vlan` from a tagged port. -/
def tagFrame (vlan : Option UInt16) (frame : EthernetFrame) : Option EthernetFrame :=
  match vlan with
  | none => some frame
  | some id => ethernetSetVlan frame id

/-- The IPv4 and Ethernet steps: `ipv4_create` and `ipv4_to_bytes` into `ip_raw`, then
`ethernet_create`, `ethernet_set_vlan` for a tagged frame, and `ethernet_to_bytes` into `raw`. -/
def encapsulate (srcMac dstMac : MacAddress) (vlan : Option UInt16) (srcIp dstIp : IpAddress)
    (ttl protocol : UInt8) (message : List UInt8) : Option (List UInt8) := do
  let packet ← ipv4Create srcIp dstIp ttl protocol message
  let ipRaw ← ipv4ToBytes packet (ipv4HeaderSize + ipv4MaxPayload)
  let frame ← ethernetCreate dstMac srcMac ethernetTypeIpv4 ipRaw
  let frame ← tagFrame vlan frame
  ethernetToBytes frame (ethernetVlanHeaderSize + ethernetMaxPayload)

/-- The TCP message of `magi_send`: serialized once for the checksum and once with it. -/
def tcpMessage (srcIp dstIp : IpAddress) (srcPort dstPort : UInt16) (seqNum ackNum : UInt32)
    (flags : UInt8) (window : UInt16) (payload : List UInt8) : Option (List UInt8) := do
  let segment ← tcpCreate srcPort dstPort seqNum ackNum flags window payload
  let tcpRaw ← tcpToBytes segment (tcpHeaderSize + tcpMaxPayload)
  tcpToBytes { segment with checksum := tcpComputeChecksum tcpRaw srcIp dstIp }
    (tcpHeaderSize + tcpMaxPayload)

/-- The UDP message of `magi_send` and `magi_sendto`. -/
def udpMessage (srcIp dstIp : IpAddress) (srcPort dstPort : UInt16) (payload : List UInt8) :
    Option (List UInt8) := do
  let datagram ← udpCreate srcPort dstPort payload
  let udpRaw ← udpToBytes datagram (udpHeaderSize + udpMaxPayload)
  udpToBytes { datagram with checksum := udpComputeChecksum udpRaw srcIp dstIp }
    (udpHeaderSize + udpMaxPayload)

/-- The ICMP message of `host_send_icmp_echo_request`; the serializer stores the checksum. -/
def icmpMessage (type code : UInt8) (identifier sequence : UInt16) (payload : List UInt8) :
    Option (List UInt8) := do
  let message ← icmpCreate type code identifier sequence payload
  icmpToBytes message (icmpHeaderSize + icmpMaxPayload)

/-! ## The receiving chain -/

/-- `ethernet_from_bytes`, `ipv4_from_bytes` and `ipv4_validate_checksum`, as `host_receive` chains
them. -/
def decapsulate (raw : List UInt8) : Option (EthernetFrame × Ipv4Packet) := do
  let frame ← ethernetFromBytes raw
  let packet ← ipv4FromBytes frame.payload
  if ipv4ValidateChecksum packet then some (frame, packet) else none

/-- `tcp_from_bytes` and `tcp_validate_checksum` on the payload of a packet. -/
def receiveTcp (packet : Ipv4Packet) : Option TcpSegment := do
  let segment ← tcpFromBytes packet.payload
  if tcpValidateChecksum segment packet.srcIp packet.dstIp then some segment else none

/-- `udp_from_bytes` and `udp_validate_checksum` on the payload of a packet. -/
def receiveUdp (packet : Ipv4Packet) : Option UdpDatagram := do
  let datagram ← udpFromBytes packet.payload
  if udpValidateChecksum datagram packet.srcIp packet.dstIp then some datagram else none

/-- `icmp_from_bytes` and `icmp_validate_checksum` on the payload of a packet. -/
def receiveIcmp (packet : Ipv4Packet) : Option IcmpMessage := do
  let message ← icmpFromBytes packet.payload
  if icmpValidateChecksum message then some message else none

/-! ## The two lower layers -/

/-- What a receiver recovers of the Ethernet and IPv4 headers of a frame that was sent. -/
structure Recovers (srcMac dstMac : MacAddress) (vlan : Option UInt16) (srcIp dstIp : IpAddress)
    (ttl protocol : UInt8) (frame : EthernetFrame) (packet : Ipv4Packet) : Prop where
  srcMac_eq : frame.srcMac = srcMac
  dstMac_eq : frame.dstMac = dstMac
  hasVlan_eq : frame.hasVlan = vlan.isSome
  vlanId_eq : frame.vlanId = vlan.getD 0
  ethertype_eq : frame.ethertype = ethernetTypeIpv4
  srcIp_eq : packet.srcIp.octets = srcIp.octets
  dstIp_eq : packet.dstIp.octets = dstIp.octets
  ttl_eq : packet.ttl = ttl
  protocol_eq : packet.protocol = protocol

/-- A twelve-bit tag survives the mask of the serializer. -/
theorem vlanId_mask {id : UInt16} (h : id ≤ ethernetVlanIdMask) : id &&& ethernetVlanIdMask = id := by
  rw [UInt16.le_iff_toNat_le] at h
  change id.toNat ≤ 4095 at h
  apply UInt16.toNat_inj.1
  rw [UInt16.toNat_and]
  change id.toNat &&& (2 ^ 12 - 1) = _
  rw [Nat.and_two_pow_sub_one_eq_mod]
  omega

/-- Every message within the IPv4 limit is framed, and the frame is unframed to the same message. -/
theorem decapsulate_encapsulate (srcMac dstMac : MacAddress) {vlan : Option UInt16}
    (hvlan : ∀ id ∈ vlan, id ≠ 0 ∧ id ≤ ethernetVlanIdMask) (srcIp dstIp : IpAddress)
    (ttl protocol : UInt8) {message : List UInt8} (h : message.length ≤ ipv4MaxPayload) :
    ∃ raw frame packet,
      encapsulate srcMac dstMac vlan srcIp dstIp ttl protocol message = some raw ∧
        decapsulate raw = some (frame, packet) ∧ packet.payload = message ∧
        packet.srcIp = srcIp.withoutPrefix ∧ packet.dstIp = dstIp.withoutPrefix ∧
        Recovers srcMac dstMac vlan srcIp dstIp ttl protocol frame packet := by
  have hcreate : ipv4Create srcIp dstIp ttl protocol message =
      some { ipv4Init with
        srcIp := srcIp
        dstIp := dstIp
        ttl := ttl
        protocol := protocol
        totalLength := ipv4TotalLength message.length
        payload := message } := if_neg (by omega)
  generalize hpacket : ({ ipv4Init with
        srcIp := srcIp
        dstIp := dstIp
        ttl := ttl
        protocol := protocol
        totalLength := ipv4TotalLength message.length
        payload := message } : Ipv4Packet) = packet at hcreate
  have hpayload : packet.payload = message := by rw [← hpacket]
  have hlimit : packet.payload.length ≤ ipv4MaxPayload := by rw [hpayload]; exact h
  have hipLen : (ipv4Bytes packet).length ≤ ethernetMaxPayload := by
    rw [ipv4Bytes_length, ipv4HeaderSize, ethernetMaxPayload]
    rw [ipv4MaxPayload] at hlimit
    omega
  -- The frame handed to the serializer, untagged or tagged.
  obtain ⟨frame, hframe, hser, hfields⟩ : ∃ frame : EthernetFrame,
      tagFrame vlan ⟨dstMac, srcMac, false, 0, ethernetTypeIpv4, ipv4Bytes packet⟩ = some frame ∧
        frame.Serializable ∧
        frame = ⟨dstMac, srcMac, vlan.isSome, vlan.getD 0, ethernetTypeIpv4, ipv4Bytes packet⟩ := by
    cases vlan with
    | none =>
        have htype : ethernetTypeIpv4 ≠ ethernetTypeVlan := by decide
        refine ⟨_, rfl, ⟨hipLen, ?_, fun _ => rfl, fun _ => htype⟩, rfl⟩
        intro hno
        cases hno
    | some id =>
        obtain ⟨hne, hle⟩ := hvlan id rfl
        refine ⟨⟨dstMac, srcMac, true, id, ethernetTypeIpv4, ipv4Bytes packet⟩, ?_,
          ⟨hipLen, fun _ => vlanId_mask hle, ?_, ?_⟩, rfl⟩
        · simp [tagFrame, ethernetSetVlan, hne, UInt16.not_lt.2 hle]
        · intro hno
          cases hno
        · intro hno
          cases hno
  have hframePayload : frame.payload = ipv4Bytes packet := by rw [hfields]
  refine ⟨ethernetBytes frame, frame, ipv4Reparsed packet, ?_, ?_, hpayload, ?_, ?_, ?_⟩
  · have hethernet : ethernetCreate dstMac srcMac ethernetTypeIpv4 (ipv4Bytes packet) =
        some ⟨dstMac, srcMac, false, 0, ethernetTypeIpv4, ipv4Bytes packet⟩ :=
      if_neg (by omega)
    simp only [encapsulate, hcreate, Option.bind_eq_bind, Option.bind_some,
      ipv4ToBytes_eq hlimit, hethernet, hframe]
    exact ethernetToBytes_eq hser.payload_le
  · simp only [decapsulate, ethernetFromBytes_bytes hser, Option.bind_eq_bind, Option.bind_some,
      hframePayload, ipv4FromBytes_bytes hlimit, ipv4ValidateChecksum_reparsed hlimit, if_true]
  · rw [← hpacket]
    rfl
  · rw [← hpacket]
    rfl
  · subst hfields
    subst hpacket
    exact ⟨rfl, rfl, rfl, rfl, rfl, rfl, rfl, rfl, rfl⟩

/-! ## The three transports -/

theorem tcpMessage_eq (srcIp dstIp : IpAddress) (srcPort dstPort : UInt16) (seqNum ackNum : UInt32)
    (flags : UInt8) (window : UInt16) {payload : List UInt8} (h : payload.length ≤ tcpMaxPayload) :
    ∃ segment : TcpSegment,
      segment =
          { srcPort := srcPort
            dstPort := dstPort
            seqNum := seqNum
            ackNum := ackNum
            dataOffset := 5
            flags := flags
            window := window
            checksum := segment.checksum
            urgentPtr := 0
            payload := payload } ∧
        segment.checksum =
          tcpComputeChecksum (tcpBytes { segment with checksum := 0 }) srcIp dstIp ∧
        tcpMessage srcIp dstIp srcPort dstPort seqNum ackNum flags window payload =
          some (tcpBytes segment) := by
  have hcreate : tcpCreate srcPort dstPort seqNum ackNum flags window payload =
      some ⟨srcPort, dstPort, seqNum, ackNum, 5, flags, window, 0, 0, payload⟩ :=
    if_neg (by omega)
  refine ⟨⟨srcPort, dstPort, seqNum, ackNum, 5, flags, window, tcpComputeChecksum
    (tcpBytes ⟨srcPort, dstPort, seqNum, ackNum, 5, flags, window, 0, 0, payload⟩) srcIp dstIp, 0,
    payload⟩, rfl, rfl, ?_⟩
  simp only [tcpMessage, hcreate, Option.bind_eq_bind, Option.bind_some]
  rw [tcpToBytes_eq h, Option.bind_some, tcpToBytes_eq h]

theorem udpMessage_eq (srcIp dstIp : IpAddress) (srcPort dstPort : UInt16) {payload : List UInt8}
    (h : payload.length ≤ udpMaxPayload) :
    ∃ datagram : UdpDatagram,
      datagram =
          { srcPort := srcPort
            dstPort := dstPort
            length := UInt16.ofNat (udpHeaderSize + payload.length)
            checksum := datagram.checksum
            payload := payload } ∧
        datagram.checksum =
          udpComputeChecksum (udpBytes { datagram with checksum := 0 }) srcIp dstIp ∧
        udpMessage srcIp dstIp srcPort dstPort payload = some (udpBytes datagram) := by
  have hcreate : udpCreate srcPort dstPort payload =
      some ⟨srcPort, dstPort, UInt16.ofNat (udpHeaderSize + payload.length), 0, payload⟩ :=
    if_neg (by omega)
  refine ⟨⟨srcPort, dstPort, UInt16.ofNat (udpHeaderSize + payload.length), udpComputeChecksum
    (udpBytes ⟨srcPort, dstPort, UInt16.ofNat (udpHeaderSize + payload.length), 0, payload⟩)
    srcIp dstIp, payload⟩, rfl, rfl, ?_⟩
  simp only [udpMessage, hcreate, Option.bind_eq_bind, Option.bind_some]
  rw [udpToBytes_eq h, Option.bind_some, udpToBytes_eq h]

theorem icmpMessage_eq {type code : UInt8} {identifier sequence : UInt16} {payload : List UInt8}
    (h : payload.length ≤ icmpMaxPayload) :
    icmpMessage type code identifier sequence payload =
      some (icmpBytes ⟨type, code, 0, identifier, sequence, payload⟩) := by
  have hcreate : icmpCreate type code identifier sequence payload =
      some ⟨type, code, 0, identifier, sequence, payload⟩ := if_neg (by omega)
  simp only [icmpMessage, hcreate, Option.bind_eq_bind, Option.bind_some]
  exact icmpToBytes_eq h

section Transports

variable (srcMac dstMac : MacAddress) {vlan : Option UInt16}
  (hvlan : ∀ id ∈ vlan, id ≠ 0 ∧ id ≤ ethernetVlanIdMask) (srcIp dstIp : IpAddress) (ttl : UInt8)
include hvlan

theorem encapsulation_tcp (srcPort dstPort : UInt16) (seqNum ackNum : UInt32) (flags : UInt8)
    (window : UInt16) {payload : List UInt8} (h : payload.length ≤ tcpMaxPayload) :
    ∃ message raw frame packet segment,
      tcpMessage srcIp dstIp srcPort dstPort seqNum ackNum flags window payload = some message ∧
        encapsulate srcMac dstMac vlan srcIp dstIp ttl ipv4ProtocolTcp message = some raw ∧
        decapsulate raw = some (frame, packet) ∧
        Recovers srcMac dstMac vlan srcIp dstIp ttl ipv4ProtocolTcp frame packet ∧
        receiveTcp packet = some segment ∧
        { segment with checksum := 0 } =
          ({ srcPort := srcPort
             dstPort := dstPort
             seqNum := seqNum
             ackNum := ackNum
             dataOffset := 5
             flags := flags
             window := window
             checksum := 0
             urgentPtr := 0
             payload := payload } : TcpSegment) := by
  obtain ⟨segment, hsegment, hstored, hmessage⟩ :=
    tcpMessage_eq srcIp dstIp srcPort dstPort seqNum ackNum flags window h
  have hpay : segment.payload.length ≤ tcpMaxPayload := by
    rw [hsegment]
    exact h
  have hlen : (tcpBytes segment).length ≤ ipv4MaxPayload := by
    rw [tcpBytes_length, tcpHeaderSize, ipv4MaxPayload]
    rw [tcpMaxPayload] at hpay
    omega
  obtain ⟨raw, frame, packet, hraw, hdec, hpayload, hsrc, hdst, hrecovers⟩ :=
    decapsulate_encapsulate srcMac dstMac hvlan srcIp dstIp ttl ipv4ProtocolTcp hlen
  have hoffset : segment.dataOffset = 5 := by rw [hsegment]
  have hparse := tcpFromBytes_bytes hoffset hpay
  -- The receiver sums over the addresses of the packet, and these came through.
  have hvalid : tcpValidateChecksum segment packet.srcIp packet.dstIp = true := by
    apply tcpValidateChecksum_stored hpay
    rw [hsrc, hdst, hstored]
    rfl
  refine ⟨_, raw, frame, packet, segment, hmessage, hraw, hdec, hrecovers, ?_, ?_⟩
  · simp only [receiveTcp, hpayload, hparse, Option.bind_eq_bind, Option.bind_some, hvalid,
      if_true]
  · rw [hsegment]

theorem encapsulation_udp (srcPort dstPort : UInt16) {payload : List UInt8}
    (h : payload.length ≤ udpMaxPayload) :
    ∃ message raw frame packet datagram,
      udpMessage srcIp dstIp srcPort dstPort payload = some message ∧
        encapsulate srcMac dstMac vlan srcIp dstIp ttl ipv4ProtocolUdp message = some raw ∧
        decapsulate raw = some (frame, packet) ∧
        Recovers srcMac dstMac vlan srcIp dstIp ttl ipv4ProtocolUdp frame packet ∧
        receiveUdp packet = some datagram ∧
        datagram.srcPort = srcPort ∧ datagram.dstPort = dstPort ∧
        datagram.length.toNat = udpHeaderSize + payload.length ∧
        datagram.payload = payload := by
  obtain ⟨datagram, hdatagram, hstored, hmessage⟩ :=
    udpMessage_eq srcIp dstIp srcPort dstPort h
  have hpayEq : datagram.payload = payload := by rw [hdatagram]
  have hpay : datagram.payload.length ≤ udpMaxPayload := by
    rw [hpayEq]
    exact h
  -- A payload that is accepted leaves room for the header in the length field.
  have hlength : datagram.length.toNat = udpHeaderSize + datagram.payload.length := by
    rw [hpayEq, hdatagram, UInt16.toNat_ofNat', udpHeaderSize]
    rw [udpMaxPayload] at h
    omega
  have hlen : (udpBytes datagram).length ≤ ipv4MaxPayload := by
    rw [udpBytes_length, udpHeaderSize, ipv4MaxPayload]
    rw [udpMaxPayload] at hpay
    omega
  obtain ⟨raw, frame, packet, hraw, hdec, hpayload, hsrc, hdst, hrecovers⟩ :=
    decapsulate_encapsulate srcMac dstMac hvlan srcIp dstIp ttl ipv4ProtocolUdp hlen
  have hparse := udpFromBytes_bytes hlength hpay
  have hvalid : udpValidateChecksum datagram packet.srcIp packet.dstIp = true := by
    apply udpValidateChecksum_stored hpay
    rw [hsrc, hdst, hstored]
    rfl
  refine ⟨_, raw, frame, packet, datagram, hmessage, hraw, hdec, hrecovers, ?_, ?_, ?_, ?_, ?_⟩
  · simp only [receiveUdp, hpayload, hparse, Option.bind_eq_bind, Option.bind_some, hvalid,
      if_true]
  · rw [hdatagram]
  · rw [hdatagram]
  · rw [hlength, hpayEq]
  · exact hpayEq

theorem encapsulation_icmp (type code : UInt8) (identifier sequence : UInt16) {payload : List UInt8}
    (h : payload.length ≤ icmpMaxPayload) :
    ∃ message raw frame packet received,
      icmpMessage type code identifier sequence payload = some message ∧
        encapsulate srcMac dstMac vlan srcIp dstIp ttl ipv4ProtocolIcmp message = some raw ∧
        decapsulate raw = some (frame, packet) ∧
        Recovers srcMac dstMac vlan srcIp dstIp ttl ipv4ProtocolIcmp frame packet ∧
        receiveIcmp packet = some received ∧
        { received with checksum := 0 } =
          ({ type := type
             code := code
             checksum := 0
             identifier := identifier
             sequence := sequence
             payload := payload } : IcmpMessage) := by
  let sent : IcmpMessage := ⟨type, code, 0, identifier, sequence, payload⟩
  have hlen : (icmpBytes sent).length ≤ ipv4MaxPayload := by
    rw [icmpBytes_eq, icmpBytesWith_length, icmpHeaderSize, ipv4MaxPayload]
    rw [icmpMaxPayload] at h
    simp only [sent]
    omega
  obtain ⟨raw, frame, packet, hraw, hdec, hpayload, -, -, hrecovers⟩ :=
    decapsulate_encapsulate srcMac dstMac hvlan srcIp dstIp ttl ipv4ProtocolIcmp hlen
  have hparse := @icmpFromBytes_bytesWith sent
    (icmpComputeChecksum (icmpBytesWith sent 0)) h
  rw [← icmpBytes_eq] at hparse
  -- The sum stands in the message that is sent, not in the one it is computed for.
  have hvalid := @icmpValidateChecksum_stored
    { sent with checksum := icmpComputeChecksum (icmpBytesWith sent 0) } h rfl
  refine ⟨_, raw, frame, packet,
    { sent with checksum := icmpComputeChecksum (icmpBytesWith sent 0) }, icmpMessage_eq h, hraw,
    hdec, hrecovers, ?_, ?_⟩
  · simp only [receiveIcmp, hpayload, hparse, Option.bind_eq_bind, Option.bind_some, hvalid,
      if_true]
  · rfl

end Transports

/-- The round trip through the whole stack: for each transport, the sender's chain succeeds and the
receiver's chain accepts the frame and recovers the addresses, the header fields and the payload. -/
theorem encapsulation_roundTrip (srcMac dstMac : MacAddress) {vlan : Option UInt16}
    (hvlan : ∀ id ∈ vlan, id ≠ 0 ∧ id ≤ ethernetVlanIdMask) (srcIp dstIp : IpAddress)
    (ttl : UInt8) :
    (∀ (srcPort dstPort : UInt16) (seqNum ackNum : UInt32) (flags : UInt8) (window : UInt16)
        (payload : List UInt8), payload.length ≤ tcpMaxPayload →
      ∃ message raw frame packet segment,
        tcpMessage srcIp dstIp srcPort dstPort seqNum ackNum flags window payload = some message ∧
          encapsulate srcMac dstMac vlan srcIp dstIp ttl ipv4ProtocolTcp message = some raw ∧
          decapsulate raw = some (frame, packet) ∧
          Recovers srcMac dstMac vlan srcIp dstIp ttl ipv4ProtocolTcp frame packet ∧
          receiveTcp packet = some segment ∧
          { segment with checksum := 0 } =
            ({ srcPort := srcPort
               dstPort := dstPort
               seqNum := seqNum
               ackNum := ackNum
               dataOffset := 5
               flags := flags
               window := window
               checksum := 0
               urgentPtr := 0
               payload := payload } : TcpSegment)) ∧
    (∀ (srcPort dstPort : UInt16) (payload : List UInt8), payload.length ≤ udpMaxPayload →
      ∃ message raw frame packet datagram,
        udpMessage srcIp dstIp srcPort dstPort payload = some message ∧
          encapsulate srcMac dstMac vlan srcIp dstIp ttl ipv4ProtocolUdp message = some raw ∧
          decapsulate raw = some (frame, packet) ∧
          Recovers srcMac dstMac vlan srcIp dstIp ttl ipv4ProtocolUdp frame packet ∧
          receiveUdp packet = some datagram ∧
          datagram.srcPort = srcPort ∧ datagram.dstPort = dstPort ∧
          datagram.length.toNat = udpHeaderSize + payload.length ∧
          datagram.payload = payload) ∧
    (∀ (type code : UInt8) (identifier sequence : UInt16) (payload : List UInt8),
      payload.length ≤ icmpMaxPayload →
      ∃ message raw frame packet received,
        icmpMessage type code identifier sequence payload = some message ∧
          encapsulate srcMac dstMac vlan srcIp dstIp ttl ipv4ProtocolIcmp message = some raw ∧
          decapsulate raw = some (frame, packet) ∧
          Recovers srcMac dstMac vlan srcIp dstIp ttl ipv4ProtocolIcmp frame packet ∧
          receiveIcmp packet = some received ∧
          { received with checksum := 0 } =
            ({ type := type
               code := code
               checksum := 0
               identifier := identifier
               sequence := sequence
               payload := payload } : IcmpMessage)) := by
  refine ⟨?_, ?_, ?_⟩
  · intro srcPort dstPort seqNum ackNum flags window payload h
    exact encapsulation_tcp srcMac dstMac hvlan srcIp dstIp ttl srcPort dstPort seqNum ackNum flags
      window h
  · intro srcPort dstPort payload h
    exact encapsulation_udp srcMac dstMac hvlan srcIp dstIp ttl srcPort dstPort h
  · intro type code identifier sequence payload h
    exact encapsulation_icmp srcMac dstMac hvlan srcIp dstIp ttl type code identifier sequence h

/-- Two stations for a concrete round trip. -/
def exampleStation (last : UInt8) : MacAddress × IpAddress :=
  (⟨2, 0, 0, 0, 0, last⟩, ⟨10, 0, 0, last, 24⟩)

/-- The round trip of a datagram on VLAN 4095, the largest tag. -/
theorem encapsulation_roundTrip_vlan4095 :
    ∃ message raw frame packet datagram,
      udpMessage (exampleStation 1).2 (exampleStation 2).2 68 67 [1, 2, 3] = some message ∧
        encapsulate (exampleStation 1).1 (exampleStation 2).1 (some 4095) (exampleStation 1).2
          (exampleStation 2).2 64 ipv4ProtocolUdp message = some raw ∧
        decapsulate raw = some (frame, packet) ∧ frame.vlanId = 4095 ∧
        receiveUdp packet = some datagram ∧ datagram.payload = [1, 2, 3] := by
  have hpayload : [1, 2, 3].length ≤ udpMaxPayload := by
    simp [udpMaxPayload]
  have hvlan : ∀ id ∈ some (4095 : UInt16), id ≠ 0 ∧ id ≤ ethernetVlanIdMask := by
    intro id hid
    obtain rfl := Option.mem_some.1 hid
    exact ⟨by decide, UInt16.le_refl _⟩
  obtain ⟨message, raw, frame, packet, datagram, hmessage, hraw, hdec, hrecovers, hreceive, -, -, -,
    hdata⟩ := (@encapsulation_roundTrip (exampleStation 1).1 (exampleStation 2).1 (some 4095)
      hvlan (exampleStation 1).2 (exampleStation 2).2 64).2.1 68 67 [1, 2, 3] hpayload
  exact ⟨message, raw, frame, packet, datagram, hmessage, hraw, hdec, hrecovers.vlanId_eq, hreceive,
    hdata⟩

end MagiStack
