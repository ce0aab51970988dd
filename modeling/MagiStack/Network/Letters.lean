import MagiStack.Network.HostPackets

/-!
# Letters — where the packets of a network come from

A packet without its hops is a letter.  In a network of hosts, switches and routers only some letters can come
about: those that an application has sent; the answer to an echo request that is genuine itself; and an ICMP error
about a packet that is.  No node makes up a sender: who answers or complains owns the source address.
-/

namespace MagiStack

/-- What of a packet stays the same from its sender to its receiver. -/
structure Letter where
  srcIp : List UInt8
  dstIp : List UInt8
  protocol : UInt8
  payload : List UInt8

def Ipv4Packet.letter (packet : Ipv4Packet) : Letter :=
  { srcIp := packet.srcIp.octets
    dstIp := packet.dstIp.octets
    protocol := packet.protocol
    payload := packet.payload }

/-- The ICMP message of a letter, as `icmp_from_bytes` and `icmp_validate_checksum` find it. -/
def Letter.icmp (letter : Letter) : Option IcmpMessage :=
  if letter.protocol = ipv4ProtocolIcmp then
    (icmpFromBytes letter.payload).filter icmpValidateChecksum
  else
    none

theorem receiveIcmp_eq_icmp {packet : Ipv4Packet} (h : packet.protocol = ipv4ProtocolIcmp) :
    receiveIcmp packet = packet.letter.icmp := by
  have hletter : packet.letter.protocol = ipv4ProtocolIcmp := h
  have hpayload : packet.letter.payload = packet.payload := rfl
  rw [Letter.icmp, if_pos hletter, hpayload, receiveIcmp]
  cases icmpFromBytes packet.payload with
  | none => rfl
  | some icmp => rfl

/-- The ICMP error of `router_send_icmp_error`. -/
def icmpErrorAbout (type code : UInt8) (about : Ipv4Packet) : IcmpMessage :=
  { type := type
    code := code
    checksum := 0
    identifier := 0
    sequence := 0
    payload := (ipv4Bytes about).take 28 }

section Network

variable {N : Type*} (owns : N → List UInt8 → Prop) (records : List (N × PacketRecord))

/-- A letter that can come about, given what applications have sent. -/
inductive Genuine : Letter → Prop
  | sent {node : N} {cause : PacketCause} {packet : Ipv4Packet}
      (hrecord : (node, PacketRecord.sent cause packet) ∈ records) : Genuine packet.letter
  | echoReply {node : N} {request : Letter} {icmp : IcmpMessage} {srcIp : List UInt8}
      (hrequest : Genuine request) (hicmp : request.icmp = some icmp) (htype : icmp.type = icmpEchoRequest)
      (howns : owns node srcIp) (hdst : request.dstIp = srcIp ∨ request.dstIp = ipBroadcast.octets) :
      Genuine
        { srcIp := srcIp
          dstIp := request.srcIp
          protocol := ipv4ProtocolIcmp
          payload := icmpBytes (echoReplyTo icmp) }
  | icmpError {node : N} {type code : UInt8} {about : Ipv4Packet} {srcIp : List UInt8}
      (habout : Genuine about.letter) (htype : type = icmpTimeExceeded ∨ type = icmpDestUnreachable)
      (howns : owns node srcIp) :
      Genuine
        { srcIp := srcIp
          dstIp := about.srcIp.octets
          protocol := ipv4ProtocolIcmp
          payload := icmpBytes (icmpErrorAbout type code about) }

variable {owns records}

theorem Genuine.mono {letter : Letter} (h : Genuine owns records letter)
    (more : List (N × PacketRecord)) : Genuine owns (records ++ more) letter := by
  induction h with
  | sent hrecord => exact .sent (List.mem_append_left _ hrecord)
  | echoReply _ hicmp htype howns hdst ih => exact .echoReply ih hicmp htype howns hdst
  | icmpError _ htype howns ih => exact .icmpError ih htype howns

/-- What is on record of the packets that applications have sent. -/
def RecordsOk (owns : N → List UInt8 → Prop) (records : List (N × PacketRecord)) : Prop :=
  ∀ node cause packet, (node, .sent cause packet) ∈ records →
    owns node packet.srcIp.octets ∧ cause.Makes packet

theorem icmpPayload_le {letter : Letter} {icmp : IcmpMessage} (h : letter.icmp = some icmp) :
    letter.protocol = ipv4ProtocolIcmp ∧ icmp.payload.length ≤ icmpMaxPayload := by
  rw [Letter.icmp] at h
  split at h
  · rename_i hprotocol
    refine ⟨hprotocol, ?_⟩
    have hparsed := (Option.filter_eq_some_iff.mp h).1
    rw [icmpFromBytes] at hparsed
    split at hparsed
    · cases hparsed
    split at hparsed
    · cases hparsed
    · rename_i hlong
      rw [← Option.some.inj hparsed, List.length_drop]
      exact Nat.le_of_not_lt hlong
  · cases h

/-- A letter with a serialized message is read as that message. -/
theorem letter_icmp_of_bytes {letter : Letter} {message icmp : IcmpMessage}
    (hlength : message.payload.length ≤ icmpMaxPayload) (hpayload : letter.payload = icmpBytes message)
    (h : letter.icmp = some icmp) :
    icmp.type = message.type ∧ icmp.code = message.code ∧ icmp.identifier = message.identifier ∧
      icmp.sequence = message.sequence ∧ icmp.payload = message.payload := by
  rw [Letter.icmp] at h
  split at h
  · have hparsed := (Option.filter_eq_some_iff.mp h).1
    rw [hpayload, icmpBytes_eq, icmpFromBytes_bytesWith _ hlength] at hparsed
    rw [← Option.some.inj hparsed]
    exact ⟨rfl, rfl, rfl, rfl, rfl⟩
  · cases h

section Origins

variable {letter : Letter} (hrecords : RecordsOk owns records) (h : Genuine owns records letter)

include hrecords h

/-- Whoever a letter comes from, the address is somebody's. -/
theorem Genuine.owned : ∃ node, owns node letter.srcIp := by
  cases h with
  | sent hrecord => exact ⟨_, (hrecords _ _ _ hrecord).1⟩
  | echoReply _ _ _ howns _ => exact ⟨_, howns⟩
  | icmpError _ _ howns => exact ⟨_, howns⟩

/-- A letter that is not ICMP was sent by an application. -/
theorem Genuine.sent_of_protocol (hprotocol : letter.protocol ≠ ipv4ProtocolIcmp) :
    ∃ node cause packet, (node, .sent cause packet) ∈ records ∧ owns node letter.srcIp ∧
      packet.letter = letter ∧ cause.Makes packet := by
  cases h with
  | @sent node cause packet hrecord =>
      exact ⟨node, cause, packet, hrecord, (hrecords _ _ _ hrecord).1, rfl, (hrecords _ _ _ hrecord).2⟩
  | echoReply _ _ _ _ _ => exact absurd rfl hprotocol
  | icmpError _ _ _ => exact absurd rfl hprotocol

/-- The ICMP messages of a network: an echo request that an application has sent, a reply to such a one, or an
error about a letter of the addressee's. -/
theorem Genuine.icmp_cases {icmp : IcmpMessage} (hicmp : letter.icmp = some icmp) :
    (∃ node sequence packet, (node, .sent (.ping sequence) packet) ∈ records ∧ owns node letter.srcIp ∧
      packet.letter = letter ∧ icmp.type = icmpEchoRequest ∧ icmp.sequence = sequence ∧
      icmp.identifier = 0x1234 ∧ icmp.payload = icmpEchoPayload) ∨
    (∃ request asked, Genuine owns records request ∧ request.icmp = some asked ∧
      asked.type = icmpEchoRequest ∧ letter.dstIp = request.srcIp ∧
      (request.dstIp = letter.srcIp ∨ request.dstIp = ipBroadcast.octets) ∧ icmp.type = icmpEchoReply ∧
      icmp.identifier = asked.identifier ∧ icmp.sequence = asked.sequence ∧
      icmp.payload = asked.payload) ∨
    ∃ about : Ipv4Packet, Genuine owns records about.letter ∧ letter.dstIp = about.srcIp.octets ∧
      (icmp.type = icmpTimeExceeded ∨ icmp.type = icmpDestUnreachable) ∧
      icmp.payload = (ipv4Bytes about).take 28 := by
  cases h with
  | @sent node cause packet hrecord =>
      rcases hrecords _ _ _ hrecord with ⟨howns, hmakes⟩
      have hprotocol : packet.protocol = ipv4ProtocolIcmp := (icmpPayload_le hicmp).1
      cases cause with
      | ping sequence =>
          have hlength : (pingMessage sequence).payload.length ≤ icmpMaxPayload := by
            have hpayload : icmpEchoPayload.length ≤ icmpMaxPayload := by decide
            exact hpayload
          rcases letter_icmp_of_bytes hlength hmakes.2 hicmp with ⟨htype, -, hid, hseq, hpayload⟩
          exact Or.inl ⟨node, sequence, packet, hrecord, howns, rfl, htype, hseq, hid, hpayload⟩
      | datagram srcPort dstPort payload => exact absurd (hmakes.1.symm.trans hprotocol) (by decide)
      | segment segment => exact absurd (hmakes.1.symm.trans hprotocol) (by decide)
  | @echoReply node request asked srcIp hrequest hasked htype howns hdst =>
      have hlength : (echoReplyTo asked).payload.length ≤ icmpMaxPayload := (icmpPayload_le hasked).2
      rcases letter_icmp_of_bytes hlength rfl hicmp with ⟨hreply, -, hid, hseq, hpayload⟩
      exact Or.inr (Or.inl ⟨request, asked, hrequest, hasked, htype, rfl, hdst, hreply, hid, hseq, hpayload⟩)
  | @icmpError node type code about srcIp habout htype howns =>
      have hlength : (icmpErrorAbout type code about).payload.length ≤ icmpMaxPayload :=
        (List.length_take_le _ _).trans (by decide)
      rcases letter_icmp_of_bytes hlength rfl hicmp with ⟨herror, -, -, -, hpayload⟩
      have hkind : icmp.type = icmpTimeExceeded ∨ icmp.type = icmpDestUnreachable := by
        rw [herror]
        exact htype
      exact Or.inr (Or.inr ⟨about, habout, rfl, hkind, hpayload⟩)

end Origins

end Network

/-! ## Frames -/

/-- The frames of a network: a truthful ARP message, or a packet that may be on its way. -/
inductive FrameOk (binds : List UInt8 → MacAddress → Prop) (packetOk : Ipv4Packet → Prop)
    (raw : List UInt8) : Prop
  | arp (frame : EthernetFrame) (message : ArpMessage) (hframe : frame.Serializable)
      (htype : frame.ethertype = ethernetTypeArp) (hpayload : frame.payload = arpMessageBytes message)
      (hraw : raw = ethernetBytes frame) (hbinds : binds message.senderIp.octets message.senderMac)
  | ipv4 (frame : EthernetFrame) (packet : Ipv4Packet) (hframe : frame.Serializable)
      (htype : frame.ethertype = ethernetTypeIpv4) (hpayload : frame.payload = ipv4Bytes packet)
      (hraw : raw = ethernetBytes frame) (hlength : packet.payload.length ≤ ipv4MaxPayload)
      (hpacket : packetOk packet)

section Frames

variable {binds : List UInt8 → MacAddress → Prop} {packetOk packetOk' : Ipv4Packet → Prop} {raw : List UInt8}

theorem FrameOk.mono (h : FrameOk binds packetOk raw) (hmono : ∀ packet, packetOk packet → packetOk' packet) :
    FrameOk binds packetOk' raw := by
  cases h with
  | arp frame message hframe htype hpayload hraw hbinds =>
      exact .arp frame message hframe htype hpayload hraw hbinds
  | ipv4 frame packet hframe htype hpayload hraw hlength hpacket =>
      exact .ipv4 frame packet hframe htype hpayload hraw hlength (hmono packet hpacket)

/-- The frame that is parsed, and its type. -/
theorem FrameOk.parses (h : FrameOk binds packetOk raw) :
    ∃ frame : EthernetFrame, frame.Serializable ∧ ethernetFromBytes raw = some frame ∧
      (frame.ethertype = ethernetTypeArp ∨ frame.ethertype = ethernetTypeIpv4) := by
  cases h with
  | arp frame message hframe htype hpayload hraw hbinds =>
      exact ⟨frame, hframe, hraw ▸ ethernetFromBytes_bytes hframe, Or.inl htype⟩
  | ipv4 frame packet hframe htype hpayload hraw hlength hpacket =>
      exact ⟨frame, hframe, hraw ▸ ethernetFromBytes_bytes hframe, Or.inr htype⟩

/-- The message of an ARP frame that comes in binds truthfully. -/
theorem FrameOk.arpMessage (h : FrameOk binds packetOk raw) {frame : EthernetFrame}
    (hframe : ethernetFromBytes raw = some frame) (htype : frame.ethertype = ethernetTypeArp)
    {message : ArpMessage} (hmessage : arpMessageFromBytes frame.payload = some message) :
    binds message.senderIp.octets message.senderMac := by
  cases h with
  | arp sent arp hsent htype' hpayload hraw hbinds =>
      rw [hraw, ethernetFromBytes_bytes hsent] at hframe
      cases hframe
      rw [hpayload, arpMessageFromBytes_bytes] at hmessage
      rw [← Option.some.inj hmessage]
      exact hbinds
  | ipv4 sent packet hsent htype' hpayload hraw hlength hpacket =>
      rw [hraw, ethernetFromBytes_bytes hsent] at hframe
      cases hframe
      rw [htype'] at htype
      exact absurd htype (by decide)

/-- The packet that comes in with a frame is the one that was put into it, parsed again. -/
theorem FrameOk.packet (h : FrameOk binds packetOk raw) {frame : EthernetFrame}
    (hframe : ethernetFromBytes raw = some frame) {packet : Ipv4Packet}
    (hpacket : routerIpv4Packet frame = some packet) :
    ∃ sent, packet = ipv4Reparsed sent ∧ sent.payload.length ≤ ipv4MaxPayload ∧ packetOk sent := by
  cases h with
  | arp sent arp hsent htype hpayload hraw hbinds =>
      rw [hraw, ethernetFromBytes_bytes hsent] at hframe
      cases hframe
      rw [routerIpv4Packet, htype, if_neg (by decide)] at hpacket
      cases hpacket
  | ipv4 sent carried hsent htype hpayload hraw hlength hcarried =>
      rw [hraw, ethernetFromBytes_bytes hsent] at hframe
      cases hframe
      rw [routerIpv4Packet, if_pos htype, hpayload, ipv4FromBytes_bytes hlength, Option.filter_some,
        if_pos (ipv4ValidateChecksum_reparsed hlength)] at hpacket
      exact ⟨carried, (Option.some.inj hpacket).symm, hlength, hcarried⟩

/-- A frame that takes over the type and the payload of another is as good. -/
theorem FrameOk.replaced (h : FrameOk binds packetOk raw) {frame frame' : EthernetFrame}
    (hframe : ethernetFromBytes raw = some frame) (hserial : frame'.Serializable)
    (htype : frame'.ethertype = frame.ethertype) (hpayload : frame'.payload = frame.payload) :
    FrameOk binds packetOk (ethernetBytes frame') := by
  cases h with
  | arp sent arp hsent htype' hpayload' hraw hbinds =>
      rw [hraw, ethernetFromBytes_bytes hsent] at hframe
      cases hframe
      exact .arp frame' arp hserial (htype.trans htype') (hpayload.trans hpayload') rfl hbinds
  | ipv4 sent packet hsent htype' hpayload' hraw hlength hpacket =>
      rw [hraw, ethernetFromBytes_bytes hsent] at hframe
      cases hframe
      exact .ipv4 frame' packet hserial (htype.trans htype') (hpayload.trans hpayload') rfl hlength hpacket

/-- A switch sends on what came in, with another tag or none. -/
theorem FrameOk.switch (h : FrameOk binds packetOk raw) {sw : Switch} {inPort : Int}
    {out : Fin maxPort × List UInt8} (hout : out ∈ (switchReceive sw inPort raw).2) :
    FrameOk binds packetOk out.2 := by
  rcases h.parses with ⟨frame, hserial, hframe, htype⟩
  have htagless : frame.ethertype ≠ ethernetTypeVlan := by
    rcases htype with htype | htype
    · rw [htype]
      decide
    · rw [htype]
      decide
  rw [switchReceive, hframe] at hout
  dsimp only at hout
  split at hout
  · cases hout
  rename_i vlanId hvlan
  rcases out with ⟨port, sentRaw⟩
  rcases mem_switchForward hout with ⟨-, hsend⟩
  rcases switchSendFrameOnPort_eq_some hsend with ⟨-, -, -, outbound, houtbound, rfl⟩
  rw [switchOutbound] at houtbound
  split at houtbound
  · rcases ethernetSetVlan_serializable hserial houtbound with ⟨houtSerial, houtType, houtPayload⟩
    exact h.replaced hframe houtSerial houtType houtPayload
  · cases houtbound
    refine h.replaced hframe ⟨hserial.payload_le, fun hno => ?_, fun _ => rfl, fun _ => htagless⟩ rfl rfl
    cases hno

end Frames

end MagiStack
