import MagiStack.Network.Internet

/-!
# Origins — what a host hears was said

In every run of every network, what comes up at a host has been sent before, by a node that has its source
address: a datagram or a segment by an application, with the very ports and bytes; an echo reply in answer to an
application's ping; an ICMP error about a packet from the host's own address.  No table of addresses names a MAC
address that is not the owner's.
-/

namespace MagiStack

section Runs

variable {Ms : Type} [SimTime Ms] [Zero Ms] [Sub Ms] {N : Type*} [DecidableEq N]

/-- A network after a run. -/
def internetRun (wire : N × Fin maxPort → Option (N × Fin maxPort)) (configs : N → NodeConfig Ms)
    (actions : List (MessageNetwork.Action N (NodeCall Ms) (HostReads Ms))) :
    MessageNetwork.World N (NetNode Ms) (Fin maxPort) (List UInt8) (N × PacketRecord) :=
  (internet wire).run (internetStart configs) actions

variable {wire : N × Fin maxPort → Option (N × Fin maxPort)} {configs : N → NodeConfig Ms}
  {actions : List (MessageNetwork.Action N (NodeCall Ms) (HostReads Ms))}
  {before after : List (N × PacketRecord)} {node : N} {packet : Ipv4Packet}

/-- What has come up is genuine given what is on record before it, and all of that is true. -/
theorem heard_genuine
    (h : (internetRun wire configs actions).records = before ++ (node, .heard packet) :: after) :
    RecordsOk (OwnsIp configs) before ∧ PacketOk (OwnsIp configs) before packet ∧
      (OwnsIp configs node packet.dstIp.octets ∨ packet.dstIp.octets = ipBroadcast.octets) := by
  have hok := (internet_ok wire configs actions).records
  refine ⟨fun other cause sent hsent => ?_, hok before _ after h⟩
  rcases List.append_of_mem hsent with ⟨first, rest, rfl⟩
  rw [List.append_assoc, List.cons_append] at h
  exact hok first _ _ h

/-- A datagram that a host hears was sent before, with its ports and its payload, by an application of a node that
has its source address, and to the address it has come to. -/
theorem heard_datagram_was_sent {udp : UdpDatagram}
    (h : (internetRun wire configs actions).records = before ++ (node, .heard packet) :: after)
    (hprotocol : packet.protocol = ipv4ProtocolUdp) (hudp : receiveUdp packet = some udp) :
    (OwnsIp configs node packet.dstIp.octets ∨ packet.dstIp.octets = ipBroadcast.octets) ∧
      ∃ sender sent, (sender, .sent (.datagram udp.srcPort udp.dstPort udp.payload) sent) ∈ before ∧
        OwnsIp configs sender packet.srcIp.octets ∧ sent.letter = packet.letter := by
  rcases heard_genuine h with ⟨hrecords, hpacket, hdst⟩
  have hother : packet.letter.protocol ≠ ipv4ProtocolIcmp := by
    have hletter : packet.letter.protocol = packet.protocol := rfl
    rw [hletter, hprotocol]
    decide
  rcases hpacket.genuine.sent_of_protocol hrecords hother with ⟨sender, cause, sent, hsent, howns, hsame, hmakes⟩
  have hsentProtocol : sent.protocol = ipv4ProtocolUdp := (congrArg Letter.protocol hsame).trans hprotocol
  cases cause with
  | ping sequence => exact absurd (hmakes.1.symm.trans hsentProtocol) (by decide)
  | segment segment => exact absurd (hmakes.1.symm.trans hsentProtocol) (by decide)
  | datagram srcPort dstPort payload =>
      rcases hmakes with ⟨-, hlength, hmessage⟩
      -- the bytes that came are those of the one datagram that was made
      rcases udpMessage_eq sent.srcIp sent.dstIp srcPort dstPort hlength with ⟨datagram, hdatagram, -, hmade⟩
      have hfields : datagram.length.toNat = udpHeaderSize + datagram.payload.length ∧
          datagram.payload.length ≤ udpMaxPayload := by
        rw [hdatagram]
        refine ⟨?_, hlength⟩
        have hsmall : udpHeaderSize + payload.length < 2 ^ 16 := by
          simp only [udpHeaderSize, udpMaxPayload] at hlength ⊢
          omega
        exact Nat.mod_eq_of_lt hsmall
      have hbytes : packet.payload = udpBytes datagram := by
        rw [hmessage] at hmade
        exact (congrArg Letter.payload hsame).symm.trans (Option.some.inj hmade)
      have hparsed : udpFromBytes packet.payload = some datagram := by
        rw [hbytes]
        exact udpFromBytes_bytes hfields.1 hfields.2
      have hsameUdp : udp = datagram := by
        simp only [receiveUdp, hparsed, Option.bind_eq_bind, Option.bind_some] at hudp
        split at hudp
        · exact (Option.some.inj hudp).symm
        · cases hudp
      rw [hsameUdp, hdatagram]
      exact ⟨hdst, sender, sent, hsent, howns, hsame⟩

/-- Two hosts, each at the other end of the link. -/
def pairConfigs (second : Bool) : NodeConfig ℚ :=
  let last := if second then 2 else 1
  .host
    { hasIp := true
      ipAddress := ⟨10, 0, 0, last, 24⟩
      defaultGateway := ipZero
      macAddress := ⟨2, 0, 0, 0, 0, last⟩ }
    (fun _ =>
      { targetIp := ipZero
        ethertype := 0
        payload := []
        payload_le := Nat.zero_le _
        arpAttempts := 0
        arpLastAttemptMs := 0
        number := 0 }) none none

/-- The first one makes a call, and all that follows from it arrives. -/
def pairRun (call : HostCall ℚ) (arrivals : Nat) :
    MessageNetwork.World Bool (NetNode ℚ) (Fin maxPort) (List UInt8) (Bool × PacketRecord) :=
  internetRun (fun far => some (!far.1, far.2)) pairConfigs
    (.call false (.host call) :: List.replicate arrivals (.arrive 0 { nowMs := 0, socketFree := true }))

/-- A datagram to all, as the second host hears it. -/
def pairDatagram : Ipv4Packet :=
  { version := 4
    ihl := 5
    totalLength := 30
    ttl := 64
    protocol := 17
    checksum := 28879
    srcIp := ⟨10, 0, 0, 1, 0⟩
    dstIp := ⟨255, 255, 255, 255, 0⟩
    payload := [3, 232, 0, 7, 0, 10, 137, 129, 104, 105] }

theorem heard_datagram_was_sent_pair :
    ∃ sender sent,
      (sender, PacketRecord.sent (.datagram 1000 7 [104, 105]) sent) ∈
          (pairRun (.sendto 1000 [104, 105] ipBroadcast 7 0) 1).records.take 1 ∧
        OwnsIp pairConfigs sender [10, 0, 0, 1] ∧ sent.letter = pairDatagram.letter := by
  have hrecords : (pairRun (.sendto 1000 [104, 105] ipBroadcast 7 0) 1).records =
      (pairRun (.sendto 1000 [104, 105] ipBroadcast 7 0) 1).records.take 1 ++
        (true, .heard pairDatagram) :: [] := by decide +kernel
  have hudp : receiveUdp pairDatagram = some ⟨1000, 7, 10, 35201, [104, 105]⟩ := by decide +kernel
  exact (heard_datagram_was_sent hrecords rfl hudp).2

/-- So was a TCP segment, every field of it. -/
theorem heard_segment_was_sent {segment : TcpSegment}
    (h : (internetRun wire configs actions).records = before ++ (node, .heard packet) :: after)
    (hprotocol : packet.protocol = ipv4ProtocolTcp) (hsegment : tcpFromBytes packet.payload = some segment) :
    (OwnsIp configs node packet.dstIp.octets ∨ packet.dstIp.octets = ipBroadcast.octets) ∧
      ∃ sender sent, (sender, .sent (.segment segment) sent) ∈ before ∧
        OwnsIp configs sender packet.srcIp.octets ∧ sent.letter = packet.letter := by
  rcases heard_genuine h with ⟨hrecords, hpacket, hdst⟩
  have hother : packet.letter.protocol ≠ ipv4ProtocolIcmp := by
    have hletter : packet.letter.protocol = packet.protocol := rfl
    rw [hletter, hprotocol]
    decide
  rcases hpacket.genuine.sent_of_protocol hrecords hother with ⟨sender, cause, sent, hsent, howns, hsame, hmakes⟩
  have hsentProtocol : sent.protocol = ipv4ProtocolTcp := (congrArg Letter.protocol hsame).trans hprotocol
  cases cause with
  | ping sequence => exact absurd (hmakes.1.symm.trans hsentProtocol) (by decide)
  | datagram srcPort dstPort payload => exact absurd (hmakes.1.symm.trans hsentProtocol) (by decide)
  | segment made =>
      rcases hmakes with ⟨-, hoffset, hlength, hpayload⟩
      have hbytes : packet.payload = tcpBytes made := (congrArg Letter.payload hsame).symm.trans hpayload
      rw [hbytes, tcpFromBytes_bytes hoffset hlength] at hsegment
      cases hsegment
      exact ⟨hdst, sender, sent, hsent, howns, hsame⟩

/-- The SYN of a connection, as the second host hears it. -/
def pairSyn : TcpSegment :=
  { srcPort := 1080
    dstPort := 80
    seqNum := 1000
    ackNum := 0
    dataOffset := 5
    flags := 2
    window := 65535
    checksum := 37744
    urgentPtr := 0
    payload := [] }

def pairSynPacket : Ipv4Packet :=
  { version := 4
    ihl := 5
    totalLength := 40
    ttl := 64
    protocol := 6
    checksum := 26318
    srcIp := ⟨10, 0, 0, 1, 0⟩
    dstIp := ⟨10, 0, 0, 2, 0⟩
    payload := tcpBytes pairSyn }

/-- The address is asked for first, so that the SYN is the third frame that arrives. -/
theorem heard_segment_was_sent_pair :
    ∃ sender sent,
      (sender, PacketRecord.sent (.segment pairSyn) sent) ∈
          (pairRun (.tcpConnect ⟨10, 0, 0, 2, 0⟩ 80 0) 3).records.take 1 ∧
        OwnsIp pairConfigs sender [10, 0, 0, 1] ∧ sent.letter = pairSynPacket.letter := by
  have hrecords : (pairRun (.tcpConnect ⟨10, 0, 0, 2, 0⟩ 80 0) 3).records =
      (pairRun (.tcpConnect ⟨10, 0, 0, 2, 0⟩ 80 0) 3).records.take 1 ++
        (true, .heard pairSynPacket) :: [] := by decide +kernel
  have hsegment : tcpFromBytes pairSynPacket.payload = some pairSyn := tcpFromBytes_bytes rfl (by decide)
  exact (heard_segment_was_sent hrecords rfl hsegment).2

/-- An echo reply that a host hears answers a ping that was sent before from the address it comes to: to the
address that replies, or to all, with the same sequence number. -/
theorem heard_echoReply_answers_ping {icmp : IcmpMessage}
    (h : (internetRun wire configs actions).records = before ++ (node, .heard packet) :: after)
    (hprotocol : packet.protocol = ipv4ProtocolIcmp) (hicmp : receiveIcmp packet = some icmp)
    (htype : icmp.type = icmpEchoReply) :
    ∃ pinger ping, (pinger, .sent (.ping icmp.sequence) ping) ∈ before ∧
      OwnsIp configs pinger packet.dstIp.octets ∧ ping.srcIp.octets = packet.dstIp.octets ∧
      (ping.dstIp.octets = packet.srcIp.octets ∨ ping.dstIp.octets = ipBroadcast.octets) ∧
      icmp.identifier = 0x1234 ∧ icmp.payload = icmpEchoPayload := by
  rcases heard_genuine h with ⟨hrecords, hpacket, -⟩
  rw [receiveIcmp_eq_icmp hprotocol] at hicmp
  rcases hpacket.genuine.icmp_cases hrecords hicmp with
    ⟨_, _, _, -, -, -, hrequest, -⟩ |
    ⟨request, asked, hgenuine, hasked, haskedType, hto, hfrom, -, hid, hseq, hpayload⟩ |
    ⟨_, -, -, herror, -⟩
  · exact absurd (hrequest.symm.trans htype) (by decide)
  · -- what was answered is an echo request, and those come from applications only
    rcases hgenuine.icmp_cases hrecords hasked with
      ⟨pinger, sequence, ping, hsent, howns, hletter, -, hsequence, hidentifier, hping⟩ |
      ⟨_, _, -, -, -, -, -, hreply, -⟩ | ⟨_, -, -, herror, -⟩
    · have hdst : packet.dstIp.octets = request.srcIp := hto
      have hsrc : ping.srcIp.octets = request.srcIp := congrArg Letter.srcIp hletter
      have hpinged : ping.dstIp.octets = request.dstIp := congrArg Letter.dstIp hletter
      refine ⟨pinger, ping, ?_, ?_, hsrc.trans hdst.symm, ?_, hid.trans hidentifier, hpayload.trans hping⟩
      · rw [hseq, hsequence]
        exact hsent
      · rw [hdst]
        exact howns
      · rw [hpinged]
        exact hfrom
    · exact absurd (haskedType.symm.trans hreply) (by decide)
    · rcases herror with herror | herror
      · exact absurd (haskedType.symm.trans herror) (by decide)
      · exact absurd (haskedType.symm.trans herror) (by decide)
  · rcases herror with herror | herror
    · exact absurd (htype.symm.trans herror) (by decide)
    · exact absurd (htype.symm.trans herror) (by decide)

/-- A host behind the only interface of a router. -/
def borderConfigs (router : Bool) : NodeConfig ℚ :=
  if router then
    .router 1 (by decide) (fun _ => ⟨2, 0, 0, 0, 0, 254⟩)
      (routerAddDirectRoutes 1
        { routerInit with
          interfaceIps := fun _ => { hasIp := true, ipAddress := ⟨10, 0, 0, 254, 24⟩ } })
      fun _ =>
        { nextHopIp := ipZero
          outInterface := 0
          vlanId := 0
          packet := ipv4Init
          arpAttempts := 0
          arpLastAttemptMs := 0
          cargo := none }
  else
    .host
      { hasIp := true
        ipAddress := ⟨10, 0, 0, 1, 24⟩
        defaultGateway := ⟨10, 0, 0, 254, 0⟩
        macAddress := ⟨2, 0, 0, 0, 0, 1⟩ }
      (fun _ =>
        { targetIp := ipZero
          ethertype := 0
          payload := []
          payload_le := Nat.zero_le _
          arpAttempts := 0
          arpLastAttemptMs := 0
          number := 0 }) none none

/-- The host sends a ping, and what follows from it arrives. -/
def borderRun (targetIp : IpAddress) (ttl : UInt8) :
    MessageNetwork.World Bool (NetNode ℚ) (Fin maxPort) (List UInt8) (Bool × PacketRecord) :=
  internetRun (fun far => some (!far.1, far.2)) borderConfigs
    (.call false (.host (.ping targetIp ttl 7 0)) ::
      List.replicate 4 (.arrive 0 { nowMs := 0, socketFree := true }))

/-- The router's answer, as the host hears it. -/
def borderPacket (totalLength checksum : UInt16) (message : IcmpMessage) : Ipv4Packet :=
  { version := 4
    ihl := 5
    totalLength := totalLength
    ttl := 64
    protocol := 1
    checksum := checksum
    srcIp := ⟨10, 0, 0, 254, 0⟩
    dstIp := ⟨10, 0, 0, 1, 0⟩
    payload := icmpBytes message }

theorem heard_echoReply_answers_ping_router :
    ∃ pinger ping, (pinger, PacketRecord.sent (.ping 7) ping) ∈ (borderRun ⟨10, 0, 0, 254, 0⟩ 64).records.take 1 ∧
      OwnsIp borderConfigs pinger [10, 0, 0, 1] ∧ ping.srcIp.octets = [10, 0, 0, 1] := by
  have hrecords : (borderRun ⟨10, 0, 0, 254, 0⟩ 64).records =
      (borderRun ⟨10, 0, 0, 254, 0⟩ 64).records.take 1 ++
        (false, .heard (borderPacket 60 26051 (echoReplyTo (pingMessage 7)))) :: [] := by decide +kernel
  have hicmp : receiveIcmp (borderPacket 60 26051 (echoReplyTo (pingMessage 7))) =
      some { echoReplyTo (pingMessage 7) with checksum := 64707 } := by decide +kernel
  rcases heard_echoReply_answers_ping hrecords rfl hicmp rfl with ⟨pinger, ping, hping, howns, hsrc, -⟩
  exact ⟨pinger, ping, hping, howns, hsrc⟩

/-- An ICMP error that a host hears quotes the first 28 bytes of a genuine packet from the very address that the
error comes to. -/
theorem heard_icmpError_is_about {icmp : IcmpMessage}
    (h : (internetRun wire configs actions).records = before ++ (node, .heard packet) :: after)
    (hprotocol : packet.protocol = ipv4ProtocolIcmp) (hicmp : receiveIcmp packet = some icmp)
    (htype : icmp.type = icmpTimeExceeded ∨ icmp.type = icmpDestUnreachable) :
    ∃ about reporter source, Genuine (OwnsIp configs) before (Ipv4Packet.letter about) ∧
      about.srcIp.octets = packet.dstIp.octets ∧ icmp.payload = (ipv4Bytes about).take 28 ∧
      OwnsIp configs reporter packet.srcIp.octets ∧ OwnsIp configs source packet.dstIp.octets := by
  rcases heard_genuine h with ⟨hrecords, hpacket, -⟩
  rcases hpacket.genuine.owned hrecords with ⟨reporter, hreporter⟩
  rw [receiveIcmp_eq_icmp hprotocol] at hicmp
  rcases hpacket.genuine.icmp_cases hrecords hicmp with
    ⟨_, _, _, -, -, -, hrequest, -⟩ | ⟨_, _, -, -, -, -, -, hreply, -⟩ | ⟨about, habout, hto, -, hquote⟩
  · rcases htype with htype | htype
    · exact absurd (hrequest.symm.trans htype) (by decide)
    · exact absurd (hrequest.symm.trans htype) (by decide)
  · rcases htype with htype | htype
    · exact absurd (hreply.symm.trans htype) (by decide)
    · exact absurd (hreply.symm.trans htype) (by decide)
  · have hdst : packet.dstIp.octets = about.srcIp.octets := hto
    rcases habout.owned hrecords with ⟨source, hsource⟩
    refine ⟨about, reporter, source, habout, hdst.symm, hquote, hreporter, ?_⟩
    rw [hdst]
    exact hsource

/-- The ping that has no hop to live, as the router finds it. -/
def expiredPing : Ipv4Packet :=
  { version := 4
    ihl := 5
    totalLength := 60
    ttl := 1
    protocol := 1
    checksum := 0
    srcIp := ⟨10, 0, 0, 1, 0⟩
    dstIp := ⟨10, 9, 9, 9, 0⟩
    payload := icmpBytes (pingMessage 7) }

theorem heard_icmpError_is_about_expired :
    ∃ about source, Genuine (OwnsIp borderConfigs) ((borderRun ⟨10, 9, 9, 9, 0⟩ 1).records.take 1)
        (Ipv4Packet.letter about) ∧ about.srcIp.octets = [10, 0, 0, 1] ∧
      (ipv4Bytes expiredPing).take 28 = (ipv4Bytes about).take 28 ∧
      OwnsIp borderConfigs source [10, 0, 0, 1] := by
  have hrecords : (borderRun ⟨10, 9, 9, 9, 0⟩ 1).records =
      (borderRun ⟨10, 9, 9, 9, 0⟩ 1).records.take 1 ++
        (false, .heard (borderPacket 56 26055 (icmpErrorAbout icmpTimeExceeded 0 expiredPing))) :: [] := by
    decide +kernel
  have hicmp : receiveIcmp (borderPacket 56 26055 (icmpErrorAbout icmpTimeExceeded 0 expiredPing)) =
      some { icmpErrorAbout icmpTimeExceeded 0 expiredPing with checksum := 58880 } := by decide +kernel
  rcases heard_icmpError_is_about hrecords rfl hicmp (Or.inl rfl) with
    ⟨about, -, source, habout, hsrc, hquote, -, hsource⟩
  exact ⟨about, source, habout, hsrc, hquote, hsource⟩

/-! ## Address tables -/

/-- The entries of a node's address table. -/
def NetNode.arpEntries : NetNode Ms → List ArpTableEntry
  | .host h => h.run.host.arpTable.entries
  | .switch _ => []
  | .router r => r.arpTable.entries

/-- Every entry of a node's address table names a MAC address of a node that has the IP address. -/
def ArpTruthful (configs : N → NodeConfig Ms) (state : NetNode Ms) : Prop :=
  ∀ entry ∈ state.arpEntries, ∃ owner, OwnsIp configs owner entry.ip.octets ∧ OwnsMac configs owner entry.mac

/-- In every run of every network all address tables are true. -/
theorem arp_tables_truthful (wire : N × Fin maxPort → Option (N × Fin maxPort)) (configs : N → NodeConfig Ms)
    (actions : List (MessageNetwork.Action N (NodeCall Ms) (HostReads Ms))) (node : N) :
    ArpTruthful configs ((internetRun wire configs actions).states node) := by
  have hstate := (internet_ok wire configs actions).states node
  have hrun : ((internet wire).run (internetStart configs) actions).states node =
      (internetRun wire configs actions).states node := rfl
  rw [hrun] at hstate
  intro entry hentry
  unfold NodeOk at hstate
  split at hstate
  · rename_i config items dhcp dns h hconfig hnode
    rw [hnode] at hentry
    exact hstate.table entry hentry
  · rename_i sw₀ sw hconfig hnode
    rw [hnode] at hentry
    cases hentry
  · rename_i numInterfaces hports macs config items r hconfig hnode
    rw [hnode] at hentry
    exact hstate.table entry hentry
  · exact hstate.elim

/-! ## Waiting packets -/

/-- What a host has accepted of its applications waits, was sent once in a frame with its bytes, or was given up
after as many requests as allowed; and it carries a genuine packet. -/
structure HostDelivers (configs : N → NodeConfig Ms) (records : List (N × PacketRecord))
    (config : ArpHostConfig) (h : HostStack Ms) : Prop where
  conserved : (h.run.host.pending.map HostPendingPacket.number ++ sentNumbers h.run.host.log ++
    droppedNumbers h.run.host.log).Perm (List.range h.run.accepted.length)
  faithful : h.run.view.Faithful config.macAddress
  dropped : ∀ before number nextHop after, h.run.host.log = before ++ .dropped number nextHop :: after →
    unansweredRequests nextHop before = hostArpMaxAttempts
  queue : h.run.host.pendingQueue.size ≤ hostPendingQueueMaxEntries
  accepted : ∀ a ∈ h.run.accepted, ∃ packet, a.Carries packet ∧
    Genuine (OwnsIp configs) records (Ipv4Packet.letter packet)

/-- A node delivers, if it is a host. -/
def NetNode.Delivers (configs : N → NodeConfig Ms) (records : List (N × PacketRecord)) (node : N) :
    NetNode Ms → Prop
  | .host h => ∃ config items dhcp dns, configs node = .host config items dhcp dns ∧
      HostDelivers configs records config h
  | _ => True

/-- Among hosts, switches and routers, and with everything that a host answers by itself, no host loses or
duplicates a packet that it has accepted, and it accepts only what is genuine. -/
theorem internet_hosts_deliver (wire : N × Fin maxPort → Option (N × Fin maxPort))
    (configs : N → NodeConfig Ms) (actions : List (MessageNetwork.Action N (NodeCall Ms) (HostReads Ms)))
    (node : N) :
    ((internetRun wire configs actions).states node).Delivers configs (internetRun wire configs actions).records
      node := by
  have hstate := (internet_ok wire configs actions).states node
  have hrun : (internet wire).run (internetStart configs) actions = internetRun wire configs actions := rfl
  rw [hrun] at hstate
  unfold NodeOk at hstate
  split at hstate
  · rename_i config items dhcp dns h hconfig hnode
    rw [hnode]
    rcases hstate.kept with ⟨hok, hkept⟩
    refine ⟨config, items, dhcp, dns, hconfig, hkept.conserved, hkept.faithful, hkept.counted.dropped,
      hok.valid.size_le, fun a ha => ?_⟩
    rcases hstate.accepted a ha with ⟨packet, hcarries, hpacket⟩
    exact ⟨packet, hcarries, hpacket.genuine⟩
  · rename_i sw₀ sw hconfig hnode
    rw [hnode]
    trivial
  · rename_i numInterfaces hports macs config items r hconfig hnode
    rw [hnode]
    trivial
  · exact hstate.elim

end Runs

end MagiStack
