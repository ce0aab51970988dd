import MagiStack.Network.HostPaths

/-!
# Queries — datagrams across a network, and a DNS query with its answer

A datagram that is alone on its way is left in the mailbox of the host that it is for, whole and with its source.  A
DNS query to a host with a table is answered from that table, over any number of routers that the TTL of a datagram
allows, and the host that asked finds the address which the table resolves the name to.
-/

namespace MagiStack

/-! ## Messages -/

/-- The datagram that `magi_sendto` sends. -/
def udpSent (srcIp dstIp : IpAddress) (srcPort dstPort : UInt16) (data : List UInt8) : UdpDatagram :=
  let datagram : UdpDatagram :=
    { srcPort := srcPort
      dstPort := dstPort
      length := UInt16.ofNat (udpHeaderSize + data.length)
      checksum := 0
      payload := data }
  { datagram with checksum := udpComputeChecksum (udpBytes datagram) srcIp dstIp }

/-- A datagram on its way. -/
def datagramLetter (srcIp dstIp : IpAddress) (srcPort dstPort : UInt16) (data : List UInt8) : Letter :=
  { srcIp := srcIp.octets
    dstIp := dstIp.octets
    protocol := ipv4ProtocolUdp
    payload := udpBytes (udpSent srcIp dstIp srcPort dstPort data) }

section Messages

variable (srcIp dstIp : IpAddress) (srcPort dstPort : UInt16) {data : List UInt8} (hdata : data.length ≤ udpMaxPayload)

include hdata

theorem udpMessage_sent :
    udpMessage srcIp dstIp srcPort dstPort data = some (udpBytes (udpSent srcIp dstIp srcPort dstPort data)) := by
  rcases udpMessage_eq srcIp dstIp srcPort dstPort hdata with ⟨datagram, hdatagram, hchecksum, hmessage⟩
  have hzero : { datagram with checksum := 0 } = (⟨srcPort, dstPort, UInt16.ofNat (udpHeaderSize + data.length), 0,
      data⟩ : UdpDatagram) := by
    rw [hdatagram]
  rw [hzero] at hchecksum
  have hsent : datagram = udpSent srcIp dstIp srcPort dstPort data := by
    rw [hchecksum] at hdatagram
    exact hdatagram
  rw [hmessage, hsent]

theorem udpBytes_fits : (udpBytes (udpSent srcIp dstIp srcPort dstPort data)).length ≤ ipv4MaxPayload := by
  rw [udpBytes_length]
  exact Nat.add_le_add_left hdata udpHeaderSize

/-- A packet with the datagram gives it back. -/
theorem receiveUdp_letter {packet : Ipv4Packet}
    (hletter : packet.letter = datagramLetter srcIp dstIp srcPort dstPort data) :
    receiveUdp packet = some (udpSent srcIp dstIp srcPort dstPort data) := by
  have hpayload : packet.payload = udpBytes (udpSent srcIp dstIp srcPort dstPort data) :=
    congrArg Letter.payload hletter
  have hsrc : packet.srcIp.octets = srcIp.octets := congrArg Letter.srcIp hletter
  have hdst : packet.dstIp.octets = dstIp.octets := congrArg Letter.dstIp hletter
  have hlength : (udpSent srcIp dstIp srcPort dstPort data).length.toNat = udpHeaderSize + data.length := by
    rw [udpSent, UInt16.toNat_ofNat', Nat.mod_eq_of_lt]
    exact Nat.lt_of_le_of_lt (Nat.add_le_add_left hdata udpHeaderSize) (by decide)
  have hvalid : udpValidateChecksum (udpSent srcIp dstIp srcPort dstPort data) packet.srcIp packet.dstIp = true := by
    refine udpValidateChecksum_stored hdata ?_
    rw [udpComputeChecksum, transportComputeChecksum, hsrc, hdst]
    rfl
  rw [receiveUdp, hpayload, udpFromBytes_bytes hlength hdata]
  exact if_pos hvalid

end Messages

/-! ## DNS messages -/

/-- A server with more room gives the same response. -/
theorem dnsServerHandleQuery_mono {table : DnsTable} {query response : List UInt8} {room room' : Nat}
    (h : dnsServerHandleQuery table query room = some (some response)) (hle : room ≤ room') :
    dnsServerHandleQuery table query room' = some (some response) := by
  rw [dnsServerHandleQuery] at h ⊢
  by_cases hshort : query.length < 12
  · rw [if_pos hshort] at h
    cases h
  rw [if_neg hshort] at h ⊢
  rcases Option.map_eq_some_iff.mp h with ⟨⟨decoded, out⟩, hdecode, hresponse⟩
  rw [hdecode, Option.map_some]
  dsimp only at hresponse ⊢
  by_cases hnothing : decoded = 0
  · rw [if_pos hnothing] at hresponse
    cases hresponse
  rw [if_neg hnothing] at hresponse ⊢
  rcases Option.bind_eq_some_iff.mp hresponse with ⟨encName, hencode, hbuilt⟩
  rw [hencode, Option.bind_some]
  -- each check of the room passes with more of it
  split at hbuilt
  · cases hbuilt
  rename_i hheader
  rw [if_neg (fun hless => hheader (Nat.lt_of_le_of_lt hle hless))]
  split at hbuilt
  · cases hbuilt
  rename_i hquestion
  rw [if_neg (fun hless => hquestion (Nat.lt_of_le_of_lt hle hless))]
  cases hfound : dnsServerResolve table (cString out) with
  | none =>
      rw [hfound] at hbuilt
      exact congrArg some hbuilt
  | some resolved =>
      rw [hfound] at hbuilt
      dsimp only at hbuilt ⊢
      split at hbuilt
      · cases hbuilt
      rename_i hanswer
      rw [if_neg (fun hless => hanswer (Nat.lt_of_le_of_lt hle hless))]
      exact congrArg some hbuilt

theorem dnsQueryOf_length (queryId : UInt16) (name : DnsName) :
    (dnsQueryOf queryId name).length ≤ 512 := by
  have hname := name.encoded_length
  rw [dnsQueryOf, List.length_append, dnsHeader_length, dnsQuestion_length]
  omega

theorem dnsResponseOf_length (queryId : UInt16) (name : DnsName) (found : Option IpAddress) :
    0 < (dnsResponseOf queryId name found).length ∧ (dnsResponseOf queryId name found).length ≤ 512 := by
  have hname := name.encoded_length
  cases found with
  | none =>
      rw [dnsResponseOf, List.length_append, dnsHeader_length, dnsQuestion_length]
      omega
  | some ip =>
      have hanswer : (dnsAnswer ip).length = 16 := rfl
      rw [dnsResponseOf, List.length_append, List.length_append, dnsHeader_length, dnsQuestion_length, hanswer]
      omega

/-! ## Hosts -/

section Hosts

variable {Ms : Type} [SimTime Ms]

/-- A datagram to an address that a host reaches leaves at once. -/
theorem magiSendto_reaches {h : HostStack Ms} {dstIp : IpAddress} {nextMac : MacAddress}
    (hreaches : HostReaches h.run.host dstIp nextMac) (localPort dstPort : UInt16) {data : List UInt8}
    (hdata : data.length ≤ udpMaxPayload) (nowMs : Ms) :
    ∃ packet : Ipv4Packet,
      packet.letter = datagramLetter h.ipAddress dstIp localPort dstPort data ∧ packet.ttl = ipv4DefaultTtl ∧
      packet.payload.length ≤ ipv4MaxPayload ∧
      magiSendto h localPort data dstIp dstPort nowMs =
        ((data.length : Int), { h with run := h.run.sends dstIp nextMac (ipv4Bytes packet) },
          [PacketRecord.sent (.datagram localPort dstPort data) packet]) := by
  rcases hostSendIpv4_reaches hreaches (some (.datagram localPort dstPort data)) h.ipAddress ipv4DefaultTtl
    ipv4ProtocolUdp (udpBytes_fits h.ipAddress dstIp localPort dstPort hdata) nowMs with
    ⟨packet, hletter, httl, hlength, hsend⟩
  refine ⟨packet, hletter, httl, hlength, ?_⟩
  rw [magiSendto, if_neg (Nat.not_lt.mpr hdata), udpMessage_sent _ _ _ _ hdata]
  dsimp only
  rw [hsend]
  rfl

/-- A DNS query to a server that a host reaches leaves at once. -/
theorem cliDnsQuery_reaches {h : HostStack Ms} {serverIp : IpAddress} {nextMac : MacAddress}
    (hreaches : HostReaches h.run.host serverIp nextMac) (queryId : UInt16) (name : DnsName) {reads : HostReads Ms}
    (hfree : reads.socketFree = true) :
    ∃ packet : Ipv4Packet, ∃ h' : HostStack Ms,
      packet.letter = datagramLetter h.ipAddress serverIp dnsClientPort dnsServerPort (dnsQueryOf queryId name) ∧
      packet.ttl = ipv4DefaultTtl ∧ packet.payload.length ≤ ipv4MaxPayload ∧
      h'.run = h.run.sends serverIp nextMac (ipv4Bytes packet) ∧
      cliDnsQuery h serverIp queryId name.text reads =
        (h', [PacketRecord.sent (.datagram dnsClientPort dnsServerPort (dnsQueryOf queryId name)) packet]) := by
  have hdata : (dnsQueryOf queryId name).length ≤ udpMaxPayload := (dnsQueryOf_length queryId name).trans (by decide)
  have hreachesWaiting :
      HostReaches { h with udp := { h.udp with hasLastUdp := false } }.run.host serverIp nextMac := hreaches
  rcases magiSendto_reaches hreachesWaiting dnsClientPort dnsServerPort hdata reads.nowMs with
    ⟨packet, hletter, httl, hlength, hsend⟩
  refine ⟨packet, { h with
    udp := { h.udp with hasLastUdp := false }
    run := h.run.sends serverIp nextMac (ipv4Bytes packet) }, hletter, httl, hlength, rfl, ?_⟩
  rw [cliDnsQuery, hreaches.1, Bool.not_true, if_neg Bool.false_ne_true, dnsCreateQuery_text]
  dsimp only
  rw [if_pos hfree]
  exact congrArg Prod.snd hsend

/-- A host with a datagram in its mailbox. -/
def HostStack.holding (h : HostStack Ms) (udp : UdpDatagram) (source : IpAddress) : HostStack Ms :=
  { h with udp := { lastUdp := udp, lastUdpSrcIp := source, hasLastUdp := true } }

omit [SimTime Ms] in
@[simp] theorem HostStack.holding_run (h : HostStack Ms) (udp : UdpDatagram) (source : IpAddress) :
    (h.holding udp source).run = h.run :=
  rfl

/-- No server of the host is asked by a datagram to the port. -/
def HostStack.NoServer (h : HostStack Ms) (port : UInt16) : Prop :=
  (port = dhcpServerPort → h.dhcp = none) ∧ (port = dnsServerPort → h.dns = none)

section Receiving

variable [Sub Ms] {N : Type*} {h : HostStack Ms} {q : Waypoint N} (hmac : q.dstMac = h.run.host.macAddress)
  (htag : q.tag = none) (hip : h.run.host.hasIp = true) {srcIp dstIp : IpAddress}
  (hmine : dstIp.octets = h.ipAddress.octets) {srcPort dstPort : UInt16} {data : List UInt8}
  (hdata : data.length ≤ udpMaxPayload) {ttl : UInt8} {raw : List UInt8}
  (hraw : FrameHolds q (datagramLetter srcIp dstIp srcPort dstPort data) ttl raw) (reads : HostReads Ms)

include hmac htag hip hmine hdata hraw

/-- A datagram that comes up is put into the mailbox, then the server of its port is asked. -/
theorem hostStackReceive_udp :
    ∃ packet : Ipv4Packet, packet.srcIp = addressOf srcIp.octets ∧
      hostStackReceive h raw reads =
        ((hostReceiveDatagram h packet reads).1, .heard packet :: (hostReceiveDatagram h packet reads).2) ∧
      receiveUdp packet = some (udpSent srcIp dstIp srcPort dstPort data) := by
  rcases hostStackReceive_holds hmac htag hip hmine hraw reads with ⟨packet, hletter, hsrc, -, hreceive⟩
  refine ⟨packet, hsrc, ?_, receiveUdp_letter srcIp dstIp srcPort dstPort hdata hletter⟩
  have hprotocol : packet.protocol = ipv4ProtocolUdp := congrArg Letter.protocol hletter
  rw [hreceive, hostReceiveIpv4, if_pos hprotocol]

/-- Where no server is asked, it stays there. -/
theorem hostStackReceive_datagram (hserver : h.NoServer dstPort) :
    ∃ packet : Ipv4Packet, hostStackReceive h raw reads =
      (h.holding (udpSent srcIp dstIp srcPort dstPort data) (addressOf srcIp.octets), [.heard packet]) := by
  rcases hostStackReceive_udp hmac htag hip hmine hdata hraw reads with ⟨packet, hsrc, hreceive, hudp⟩
  refine ⟨packet, ?_⟩
  have hdhcp : (if (udpSent srcIp dstIp srcPort dstPort data).dstPort = dhcpServerPort then h.dhcp else none) =
      none := by
    split
    · rename_i hport
      exact hserver.1 hport
    · rfl
  have hdns : (if (udpSent srcIp dstIp srcPort dstPort data).dstPort = dnsServerPort then h.dns else none) =
      none := by
    split
    · rename_i hport
      exact hserver.2 hport
    · rfl
  rw [hreceive, hostReceiveDatagram, hudp]
  dsimp only
  rw [hdhcp, hdns]
  dsimp only
  rw [hsrc]
  rfl

/-- A DNS server that has a response sends it to where the query came from. -/
theorem hostStackReceive_query {table : DnsTable} (htable : h.dns = some table) (hport : dstPort = dnsServerPort)
    {response : List UInt8} (hresponse : dnsServerHandleQuery table data 1024 = some (some response))
    (hfits : response.length ≤ udpMaxPayload) (hfree : reads.socketFree = true) {nextMac : MacAddress}
    (hreaches : HostReaches h.run.host (addressOf srcIp.octets) nextMac) :
    ∃ request reply : Ipv4Packet, ∃ h' : HostStack Ms,
      reply.letter = datagramLetter h.ipAddress (addressOf srcIp.octets) dnsServerPort srcPort response ∧
      reply.ttl = ipv4DefaultTtl ∧ reply.payload.length ≤ ipv4MaxPayload ∧
      h'.run = h.run.sends (addressOf srcIp.octets) nextMac (ipv4Bytes reply) ∧
      hostStackReceive h raw reads =
        (h', [.heard request, .sent (.datagram dnsServerPort srcPort response) reply]) := by
  rcases hostStackReceive_udp hmac htag hip hmine hdata hraw reads with ⟨request, hsrc, hreceive, hudp⟩
  have hreachesHeard : HostReaches
      (h.holding (udpSent srcIp dstIp srcPort dstPort data) (addressOf srcIp.octets)).run.host
      (addressOf srcIp.octets) nextMac := hreaches
  rcases magiSendto_reaches hreachesHeard dnsServerPort srcPort hfits reads.nowMs with
    ⟨reply, hletter, httl, hlength, hsend⟩
  refine ⟨request, reply, { h.holding (udpSent srcIp dstIp srcPort dstPort data) (addressOf srcIp.octets) with
    run := h.run.sends (addressOf srcIp.octets) nextMac (ipv4Bytes reply) }, hletter, httl, hlength, rfl, ?_⟩
  have hdhcp : (if (udpSent srcIp dstIp srcPort dstPort data).dstPort = dhcpServerPort then h.dhcp else none) =
      none := by
    refine if_neg ?_
    change ¬ dstPort = dhcpServerPort
    rw [hport]
    decide
  have hdns : (if (udpSent srcIp dstIp srcPort dstPort data).dstPort = dnsServerPort then h.dns else none) =
      some table := (if_pos hport).trans htable
  rw [hreceive, hostReceiveDatagram, hudp]
  dsimp only
  rw [hdhcp, hdns]
  dsimp only
  have hquery : dnsServerHandleQuery table (udpSent srcIp dstIp srcPort dstPort data).payload 1024 =
      some (some response) := hresponse
  rw [hostDnsDispatch, hquery]
  dsimp only
  rw [if_pos hfree, hsrc]
  exact congrArg (fun r : Int × HostStack Ms × List PacketRecord => (r.2.1, PacketRecord.heard request :: r.2.2)) hsend

end Receiving

omit [SimTime Ms] in
/-- `magi_recvfrom` on a descriptor for the port, or for every port, takes the datagram. -/
theorem magiRecvfrom_holding {H : Type*} {sock : MagiSocket H} {srcIp dstIp : IpAddress} {srcPort dstPort : UInt16}
    {data : List UInt8} (hport : sock.localPort = dstPort ∨ sock.localPort = 0) (h : HostStack Ms)
    (source : IpAddress) (bufsize : Nat) :
    (magiRecvfrom sock (h.holding (udpSent srcIp dstIp srcPort dstPort data) source).udp bufsize).1 =
      { bytes := data.take bufsize, source := some (source, srcPort) } := by
  have hmine : ¬ (sock.localPort ≠ 0 ∧ dstPort ≠ sock.localPort) := by
    rcases hport with hport | hport
    · intro hother
      exact hother.2 hport.symm
    · intro hother
      exact hother.1 hport
  rw [magiRecvfrom]
  exact congrArg Prod.fst (if_neg hmine)

end Hosts

/-! ## Across the network -/

section Networks

variable {Ms : Type} {N : Type*} [SimTime Ms] [Zero Ms] [Sub Ms] [DecidableEq N]
  {wire : N × Fin maxPort → Option (N × Fin maxPort)} {states : N → NetNode Ms} {a : N} {hostA : HostStack Ms}

/-- A datagram to a host that is reached within the TTL is in its mailbox at the end, with its data, its port and
its source, as the next `magi_recvfrom` there finds.  The other nodes are as they were, nothing is in flight, the
sender has handed one packet more to its interface, and the mailbox is all that has changed at the other host. -/
theorem datagram_delivered (ha : states a = .host hostA) {dstIp : IpAddress} {hops : Nat}
    (b : Addressee wire states a hostA dstIp hops) (hhops : hops < ipv4DefaultTtl.toNat)
    (localPort : UInt16) {dstPort : UInt16} (hserver : b.host.NoServer dstPort) {data : List UInt8}
    (hdata : data.length ≤ udpMaxPayload) (records : List (N × PacketRecord)) (nowMs : Ms)
    {times : List (HostReads Ms)} (htimes : times.length = b.steps) (atB : HostReads Ms) :
    ∃ hostA' hostB' : HostStack Ms, ∃ sent heard,
      (internet wire).run (Idle states records)
          (.call a (.host (.sendto localPort data dstIp dstPort nowMs)) :: arrivals (times ++ [atB])) =
        Idle (Function.update (Function.update states a (.host hostA')) b.place.node (.host hostB'))
          (records ++ [(a, .sent (.datagram localPort dstPort data) sent)] ++ [(b.place.node, .heard heard)]) ∧
      (∀ (sock : MagiSocket Unit) (bufsize : Nat), sock.localPort = dstPort ∨ sock.localPort = 0 →
        (magiRecvfrom sock hostB'.udp bufsize).1 =
          { bytes := data.take bufsize, source := some (addressOf hostA.ipAddress.octets, localPort) }) ∧
      sent.letter = datagramLetter hostA.ipAddress dstIp localPort dstPort data ∧
      (∃ nextMac, HostReaches hostA.run.host dstIp nextMac ∧
        hostA' = { hostA with run := hostA.run.sends dstIp nextMac (ipv4Bytes sent) }) ∧
      hostB' = b.host.holding (udpSent hostA.ipAddress dstIp localPort dstPort data)
        (addressOf hostA.ipAddress.octets) := by
  rcases b with ⟨q, hostB, steps, hne, hb, htarget, hip, ⟨htag, hmacB⟩, nextMac, far, hreaches, hwire, hroute⟩
  dsimp only at hserver htimes ⊢
  rcases magiSendto_reaches hreaches localPort dstPort hdata nowMs with ⟨packet, hletter, httl, hlength, hsend⟩
  have hdst : dstIp.octets = packet.letter.dstIp := (congrArg Letter.dstIp hletter).symm
  rw [hdst] at hroute
  rw [← httl] at hhops
  obtain ⟨sender, hsender⟩ : ∃ h' : HostStack Ms,
      h' = { hostA with run := hostA.run.sends dstIp nextMac (ipv4Bytes packet) } := ⟨_, rfl⟩
  have hrun : sender.run = hostA.run.sends dstIp nextMac (ipv4Bytes packet) := by
    rw [hsender]
  have hcall : hostCall hostA (.sendto localPort data dstIp dstPort nowMs) =
      (sender, [.sent (.datagram localPort dstPort data) packet]) := by
    rw [hsender]
    exact congrArg Prod.snd hsend
  rcases host_frame_crosses ha hrun hlength hwire hroute hhops records
    [.sent (.datagram localPort dstPort data) packet] htimes with ⟨raw, hcrosses, hraw⟩
  rw [hletter] at hraw
  -- the datagram comes up at the other host
  have hnodeB : Function.update states a (.host sender) q.node = .host hostB := by
    rw [Function.update_of_ne (Ne.symm hne)]
    exact hb
  rcases hostStackReceive_datagram hmacB htag hip htarget hdata hraw atB hserver with ⟨heard, hreceive⟩
  refine ⟨sender, hostB.holding (udpSent hostA.ipAddress dstIp localPort dstPort data)
    (addressOf hostA.ipAddress.octets), packet, heard, ?_, ?_, hletter, ⟨nextMac, hreaches, hsender⟩, rfl⟩
  · have hactions : (.call a (.host (.sendto localPort data dstIp dstPort nowMs)) :: arrivals (times ++ [atB]) :
          List (MessageNetwork.Action N (NodeCall Ms) (HostReads Ms))) =
        .call a (.host (.sendto localPort data dstIp dstPort nowMs)) :: (arrivals times ++ [.arrive 0 atB]) := by
      simp [arrivals]
    rw [hactions, MessageNetwork.run_cons, step_host_call ha, hcall, MessageNetwork.run_append, hcrosses,
      MessageNetwork.run_cons, step_host_arrives hnodeB, hreceive, act_host_quiet (hostB.holding_run _ _),
      MessageNetwork.run_nil]
    rfl
  · intro sock bufsize hport
    exact magiRecvfrom_holding hport hostB _ bufsize

/-- Two bytes across the router. -/
theorem datagram_delivered_crossing :
    ∃ hostA' hostB' : HostStack ℚ, ∃ sent heard,
      (internet crossingWire).run (Idle crossingStates [])
          (.call 0 (.host (.sendto 9 [1, 2] ⟨10, 0, 2, 1, 0⟩ 7 0)) :: arrivals ([⟨1, true⟩] ++ [⟨2, true⟩])) =
        Idle (Function.update (Function.update crossingStates 0 (.host hostA')) 2 (.host hostB'))
          ([] ++ [(0, .sent (.datagram 9 7 [1, 2]) sent)] ++ [(2, .heard heard)]) ∧
      (∀ (sock : MagiSocket Unit) (bufsize : Nat), sock.localPort = 7 ∨ sock.localPort = 0 →
        (magiRecvfrom sock hostB'.udp bufsize).1 =
          { bytes := [1, 2].take bufsize, source := some (⟨10, 0, 1, 1, 0⟩, 9) }) ∧
      sent.letter = datagramLetter ⟨10, 0, 1, 1, 24⟩ ⟨10, 0, 2, 1, 0⟩ 9 7 [1, 2] ∧
      (∃ nextMac, HostReaches (crossingHost 1 none).run.host ⟨10, 0, 2, 1, 0⟩ nextMac ∧
        hostA' = { crossingHost 1 none with
          run := (crossingHost 1 none).run.sends ⟨10, 0, 2, 1, 0⟩ nextMac (ipv4Bytes sent) }) ∧
      hostB' = (crossingHost 2 (some crossingNames)).holding
        (udpSent ⟨10, 0, 1, 1, 24⟩ ⟨10, 0, 2, 1, 0⟩ 9 7 [1, 2]) ⟨10, 0, 1, 1, 0⟩ :=
  @datagram_delivered ℚ (Fin 3) _ _ _ _ crossingWire crossingStates 0 (crossingHost 1 none) rfl ⟨10, 0, 2, 1, 0⟩ 1
    crossingResponder.toAddressee (by decide) 9 7 ⟨by decide, by decide⟩ [1, 2] (by decide) [] 0 [⟨1, true⟩] rfl
    ⟨2, true⟩

/-- `dns_resolve` at a host with a server elsewhere: the query for a well-formed name reaches the server, its response
comes home, and the host finds what the table of the server resolves the name to, without the prefix. -/
theorem dns_query_answered (ha : states a = .host hostA) {serverIp : IpAddress} {hops : Nat}
    (b : Responder wire states a hostA serverIp hops) (hhops : hops < ipv4DefaultTtl.toNat) {table : DnsTable}
    (htable : b.host.dns = some table) (name : DnsName) (queryId : UInt16) (records : List (N × PacketRecord))
    {reads atB : HostReads Ms} (hfree : reads.socketFree = true) (hfreeB : atB.socketFree = true)
    {outward homeward : List (HostReads Ms)} (houtward : outward.length = b.steps)
    (hhomeward : homeward.length = b.backSteps) (atA : HostReads Ms) :
    ∃ hostA' hostB' : HostStack Ms, ∃ query request response answer,
      (internet wire).run (Idle states records)
          (.call a (.host (.dnsQuery serverIp queryId name.text reads)) ::
            arrivals (outward ++ atB :: homeward ++ [atA])) =
        Idle (Function.update (Function.update states b.place.node (.host hostB')) a (.host hostA'))
          (records ++
            [(a, .sent (.datagram dnsClientPort dnsServerPort (dnsQueryOf queryId name)) query)] ++
            [(b.place.node, .heard request), (b.place.node, .sent (.datagram dnsServerPort dnsClientPort
              (dnsResponseOf queryId name (dnsServerResolve table name.text))) response)] ++
            [(a, .heard answer)]) ∧
      cliDnsAnswer hostA' = some ((dnsServerResolve table name.text).map IpAddress.withoutPrefix) := by
  rcases b with ⟨⟨q, hostB, steps, hne, hb, htarget, hipB, ⟨htag, hmacB⟩, hthere⟩, q', hops', steps',
    ⟨rfl, htag', hmacA⟩, ⟨nextMac', far', hreaches', hwire', hroute'⟩, hhome⟩
  dsimp only at htable houtward hhomeward ⊢
  rcases hthere with ⟨nextMac, far, hreaches, hwire, hroute⟩
  rcases cliDnsQuery_reaches hreaches queryId name hfree with
    ⟨packet, waiting, hletter, httl, hlength, hrun, hcall⟩
  have hdst : serverIp.octets = packet.letter.dstIp := (congrArg Letter.dstIp hletter).symm
  rw [hdst] at hroute
  rw [← httl] at hhops
  rcases host_frame_crosses ha hrun hlength hwire hroute hhops records
    [.sent (.datagram dnsClientPort dnsServerPort (dnsQueryOf queryId name)) packet] houtward with
    ⟨raw, hcrosses, hraw⟩
  rw [hletter] at hraw
  -- the query comes up at the server
  have hnodeB : Function.update states q'.node (.host waiting) q.node = .host hostB := by
    rw [Function.update_of_ne (Ne.symm hne)]
    exact hb
  have hresponse := dnsServerHandleQuery_mono (dnsServerHandleQuery_query table queryId name)
    (show 512 ≤ 1024 by decide)
  have hfits : (dnsResponseOf queryId name (dnsServerResolve table name.text)).length ≤ udpMaxPayload :=
    (dnsResponseOf_length queryId name _).2.trans (by decide)
  rcases hostStackReceive_query hmacB htag hipB htarget ((dnsQueryOf_length queryId name).trans (by decide)) hraw atB
    htable rfl hresponse hfits hfreeB hreaches' with
    ⟨request, reply, hostB', hreply, hreplyTtl, hreplyLength, hrunB, hreceiveB⟩
  have hdst' : (addressOf hostA.ipAddress.octets).octets = reply.letter.dstIp :=
    (congrArg Letter.dstIp hreply).symm
  have hroute'' := hroute'.update ha waiting
  rw [hdst'] at hroute''
  rw [← hreplyTtl] at hhome
  rcases host_frame_crosses hnodeB hrunB hreplyLength hwire' hroute'' hhome
    (records ++ [(q'.node, .sent (.datagram dnsClientPort dnsServerPort (dnsQueryOf queryId name)) packet)])
    [.heard request, .sent (.datagram dnsServerPort dnsClientPort
      (dnsResponseOf queryId name (dnsServerResolve table name.text))) reply] hhomeward with
    ⟨raw', hcrosses', hraw'⟩
  rw [hreply] at hraw'
  have hturns : (internet wire).run (AtWaypoint (Function.update states q'.node (.host waiting))
        (records ++ [(q'.node, .sent (.datagram dnsClientPort dnsServerPort (dnsQueryOf queryId name)) packet)]) q raw)
      (.arrive 0 atB :: arrivals homeward) =
        AtWaypoint (Function.update (Function.update states q'.node (.host waiting)) q.node (.host hostB'))
          (records ++ [(q'.node, .sent (.datagram dnsClientPort dnsServerPort (dnsQueryOf queryId name)) packet)] ++
            [(q.node, .heard request), (q.node, .sent (.datagram dnsServerPort dnsClientPort
              (dnsResponseOf queryId name (dnsServerResolve table name.text))) reply)]) q' raw' := by
    rw [MessageNetwork.run_cons, step_host_arrives hnodeB, hreceiveB]
    exact hcrosses'
  -- and its response at the host that asked
  have hnodeA : Function.update (Function.update states q'.node (.host waiting)) q.node (.host hostB') q'.node =
      .host waiting := by
    rw [Function.update_of_ne hne, Function.update_self]
  have hloggedA : hostA.run.host.Logged waiting.run.host := by
    rw [hrun]
    exact hostA.run.sends_logged serverIp nextMac (ipv4Bytes packet)
  have hmacW : q'.dstMac = waiting.run.host.macAddress := by
    rw [hmacA, hloggedA]
  have hipW : waiting.run.host.hasIp = true := (hreaches.logged hloggedA).1
  have hmineW : (addressOf hostA.ipAddress.octets).octets = waiting.ipAddress.octets := by
    rw [HostStack.ipAddress, HostStack.ipAddress, hloggedA]
    rfl
  have hserver : waiting.NoServer dnsClientPort :=
    ⟨fun hport => absurd hport (by decide), fun hport => absurd hport (by decide)⟩
  rcases hostStackReceive_datagram hmacW htag' hipW hmineW hfits hraw' atA hserver with ⟨answer, hreceiveA⟩
  refine ⟨waiting.holding (udpSent hostB.ipAddress (addressOf hostA.ipAddress.octets) dnsServerPort dnsClientPort
    (dnsResponseOf queryId name (dnsServerResolve table name.text))) (addressOf hostB.ipAddress.octets), hostB', packet,
    request, reply, answer, ?_, ?_⟩
  · have hactions : (.call q'.node (.host (.dnsQuery serverIp queryId name.text reads)) ::
        arrivals (outward ++ atB :: homeward ++ [atA]) :
          List (MessageNetwork.Action N (NodeCall Ms) (HostReads Ms))) =
        (.call q'.node (.host (.dnsQuery serverIp queryId name.text reads)) :: arrivals outward) ++
          ((.arrive 0 atB :: arrivals homeward) ++ [.arrive 0 atA]) := by
      simp [arrivals]
    have hcalled : hostCall hostA (.dnsQuery serverIp queryId name.text reads) =
        (waiting, [.sent (.datagram dnsClientPort dnsServerPort (dnsQueryOf queryId name)) packet]) := hcall
    have hleaves : (internet wire).run (Idle states records)
        (.call q'.node (.host (.dnsQuery serverIp queryId name.text reads)) :: arrivals outward) =
        AtWaypoint (Function.update states q'.node (.host waiting))
          (records ++ [(q'.node, .sent (.datagram dnsClientPort dnsServerPort (dnsQueryOf queryId name)) packet)])
          q raw := by
      rw [MessageNetwork.run_cons, step_host_call ha, hcalled]
      exact hcrosses
    rw [hactions, MessageNetwork.run_append, hleaves, MessageNetwork.run_append, hturns, MessageNetwork.run_cons,
      step_host_arrives hnodeA, hreceiveA, act_host_quiet (waiting.holding_run _ _),
      MessageNetwork.run_nil, Function.update_comm hne, Function.update_idem]
    rfl
  · have hfound := @magiRecvfrom_holding Ms Unit { magiSocketZero with localPort := dnsClientPort }
      hostB.ipAddress (addressOf hostA.ipAddress.octets) dnsServerPort dnsClientPort
      (dnsResponseOf queryId name (dnsServerResolve table name.text)) (Or.inl rfl) waiting
      (addressOf hostB.ipAddress.octets) 512
    rw [cliDnsAnswer]
    dsimp only
    rw [hfound]
    dsimp only
    rw [List.take_of_length_le (dnsResponseOf_length queryId name _).2]
    have hsome : ¬ (dnsResponseOf queryId name (dnsServerResolve table name.text)).isEmpty = true := by
      intro hempty
      have hlength := (dnsResponseOf_length queryId name (dnsServerResolve table name.text)).1
      rw [List.isEmpty_iff.mp hempty] at hlength
      exact Nat.lt_irrefl 0 hlength
    rw [if_neg hsome]
    exact dnsParseResponse_response queryId name (dnsServerResolve table name.text)

/-- The name that the other host knows. -/
theorem dns_query_answered_crossing :
    ∃ hostA' hostB' : HostStack ℚ, ∃ query request response answer,
      (internet crossingWire).run (Idle crossingStates [])
          (.call 0 (.host (.dnsQuery ⟨10, 0, 2, 1, 0⟩ 77 dnsLocalhost.text ⟨0, true⟩)) ::
            arrivals ([⟨1, true⟩] ++ ⟨2, true⟩ :: [⟨3, true⟩] ++ [⟨4, true⟩])) =
        Idle (Function.update (Function.update crossingStates 2 (.host hostB')) 0 (.host hostA'))
          ([] ++ [(0, .sent (.datagram dnsClientPort dnsServerPort (dnsQueryOf 77 dnsLocalhost)) query)] ++
            [(2, .heard request), (2, .sent (.datagram dnsServerPort dnsClientPort
              (dnsResponseOf 77 dnsLocalhost (dnsServerResolve crossingNames dnsLocalhost.text))) response)] ++
            [(0, .heard answer)]) ∧
      cliDnsAnswer hostA' =
        some ((dnsServerResolve crossingNames dnsLocalhost.text).map IpAddress.withoutPrefix) :=
  @dns_query_answered ℚ (Fin 3) _ _ _ _ crossingWire crossingStates 0 (crossingHost 1 none) rfl ⟨10, 0, 2, 1, 0⟩ 1
    crossingResponder (by decide) crossingNames rfl dnsLocalhost 77 [] ⟨0, true⟩ ⟨2, true⟩ rfl rfl [⟨1, true⟩]
    [⟨3, true⟩] rfl rfl ⟨4, true⟩

end Networks

end MagiStack
