import MagiStack.Network.HostPaths

/-!
# Ping — an echo request and its answer across a network

When the hosts, the routers and the switches on the way know where to send, an echo request alone on its way is
answered, over any number of routers that its TTL allows: the host that sent it ends with the reply of the other
one, its sequence number and the time it took.  If the TTL is used up at a router, it ends with that router's
report instead.
-/

namespace MagiStack

/-! ## Messages -/

/-- A letter with a serialized message is read as that message. -/
theorem letter_icmp_self {letter : Letter} {message : IcmpMessage}
    (hlength : message.payload.length ≤ icmpMaxPayload) (hprotocol : letter.protocol = ipv4ProtocolIcmp)
    (hpayload : letter.payload = icmpBytes message) :
    letter.icmp = some { message with checksum := icmpComputeChecksum (icmpBytesWith message 0) } := by
  have hvalid := @icmpValidateChecksum_stored
    { message with checksum := icmpComputeChecksum (icmpBytesWith message 0) } hlength rfl
  rw [Letter.icmp, if_pos hprotocol, hpayload, icmpBytes_eq, icmpFromBytes_bytesWith _ hlength,
    Option.filter_some, if_pos hvalid]

theorem icmpBytes_fits {message : IcmpMessage} (h : message.payload.length ≤ icmpMaxPayload) :
    (icmpBytes message).length ≤ ipv4MaxPayload := by
  rw [icmpBytes_eq, icmpBytesWith_length]
  exact Nat.add_le_add_left h icmpHeaderSize

/-! ## Hosts -/

section Hosts

variable {Ms : Type}

/-- What a host is told by an ICMP message. -/
def HostStack.hears (h : HostStack Ms) (icmp : IcmpMessage) (source : IpAddress) : HostStack Ms :=
  { h with icmp := { h.icmp with
      lastIcmpType := icmp.type
      lastIcmpCode := icmp.code
      lastIcmpSource := source
      lastIcmpSequence := icmp.sequence
      hasLastIcmp := true } }

variable [SimTime Ms]

section Receiving

variable {N : Type*} {h : HostStack Ms} {q : Waypoint N} (hmac : q.dstMac = h.run.host.macAddress)
  (htag : q.tag = none) (hip : h.run.host.hasIp = true) {letter : Letter}
  (hmine : letter.dstIp = h.ipAddress.octets) {ttl : UInt8} {raw : List UInt8}
  (hraw : FrameHolds q letter ttl raw) (reads : HostReads Ms)

include hmac htag hip hmine hraw

/-- An echo request is answered at once. -/
theorem hostStackReceive_echoRequest [Sub Ms] {icmp : IcmpMessage} (hicmp : letter.icmp = some icmp)
    (htype : icmp.type = icmpEchoRequest) {nextMac : MacAddress}
    (hreaches : HostReaches h.run.host (addressOf letter.srcIp) nextMac) :
    ∃ request reply : Ipv4Packet, ∃ h' : HostStack Ms,
      reply.letter = ⟨h.ipAddress.octets, letter.srcIp, ipv4ProtocolIcmp, icmpBytes (echoReplyTo icmp)⟩ ∧
      reply.ttl = ipv4DefaultTtl ∧ reply.payload.length ≤ ipv4MaxPayload ∧
      h'.icmp = (h.hears icmp (addressOf letter.srcIp)).icmp ∧
      h'.run = h.run.sends (addressOf letter.srcIp) nextMac (ipv4Bytes reply) ∧
      hostStackReceive h raw reads = (h', [.heard request]) := by
  rcases hostStackReceive_holds hmac htag hip hmine hraw reads with ⟨request, hletter, hsrc, -, hreceive⟩
  have hprotocol : request.protocol = ipv4ProtocolIcmp :=
    (congrArg Letter.protocol hletter).trans (icmpPayload_le hicmp).1
  have hlength := (icmpPayload_le hicmp).2
  have hfits : (icmpBytes (echoReplyTo icmp)).length ≤ ipv4MaxPayload := icmpBytes_fits hlength
  have hreachesHeard : HostReaches (h.hears icmp (addressOf letter.srcIp)).run.host (addressOf letter.srcIp)
      nextMac := hreaches
  rcases hostSendIpv4_reaches hreachesHeard none h.ipAddress ipv4DefaultTtl ipv4ProtocolIcmp hfits
    reads.nowMs with ⟨reply, hreplyLetter, httl, hreplyLength, hsend⟩
  refine ⟨request, reply, { h.hears icmp (addressOf letter.srcIp) with
    run := h.run.sends (addressOf letter.srcIp) nextMac (ipv4Bytes reply) }, ?_, httl, hreplyLength, rfl, rfl, ?_⟩
  · rw [hreplyLetter, hraw.srcIp_octets]
  · have hreceived : receiveIcmp request = some icmp := by
      rw [receiveIcmp_eq_icmp hprotocol, hletter, hicmp]
    have hnotUdp : ¬ request.protocol = ipv4ProtocolUdp := by
      rw [hprotocol]
      decide
    have hnotTcp : ¬ request.protocol = ipv4ProtocolTcp := by
      rw [hprotocol]
      decide
    rw [hreceive, hostReceiveIpv4, if_neg hnotUdp, if_neg hnotTcp, if_pos hprotocol, hostReceiveIcmp,
      hreceived]
    dsimp only
    rw [if_pos htype, icmpMessage_eq hlength, hsrc]
    dsimp only
    have hsend' := congrArg Prod.snd hsend
    dsimp only [Option.elim_none] at hsend'
    exact congrArg (fun r => (Prod.fst r, PacketRecord.heard request :: Prod.snd r)) hsend'

/-- An answer or a report stops the clock. -/
theorem hostStackReceive_answer [Sub Ms] {icmp : IcmpMessage} (hicmp : letter.icmp = some icmp)
    (htype : icmp.type = icmpEchoReply ∨ icmp.type = icmpTimeExceeded ∨ icmp.type = icmpDestUnreachable) :
    ∃ packet : Ipv4Packet, ∃ h' : HostStack Ms, packet.letter = letter ∧
      h'.icmp = hostRecordIcmpRtt (h.hears icmp (addressOf letter.srcIp)).icmp reads.nowMs ∧ h'.run = h.run ∧
      hostStackReceive h raw reads = (h', [.heard packet]) := by
  rcases hostStackReceive_holds hmac htag hip hmine hraw reads with ⟨packet, hletter, hsrc, -, hreceive⟩
  have hprotocol : packet.protocol = ipv4ProtocolIcmp :=
    (congrArg Letter.protocol hletter).trans (icmpPayload_le hicmp).1
  have hreceived : receiveIcmp packet = some icmp := by
    rw [receiveIcmp_eq_icmp hprotocol, hletter, hicmp]
  have hnotUdp : ¬ packet.protocol = ipv4ProtocolUdp := by
    rw [hprotocol]
    decide
  have hnotTcp : ¬ packet.protocol = ipv4ProtocolTcp := by
    rw [hprotocol]
    decide
  have hnotRequest : ¬ icmp.type = icmpEchoRequest := by
    rcases htype with htype | htype | htype
    all_goals rw [htype]
    all_goals decide
  refine ⟨packet, { h with icmp := hostRecordIcmpRtt (h.hears icmp (addressOf letter.srcIp)).icmp reads.nowMs },
    hletter, rfl, rfl, ?_⟩
  rw [hreceive, hostReceiveIpv4, if_neg hnotUdp, if_neg hnotTcp, if_pos hprotocol, hostReceiveIcmp, hreceived]
  dsimp only
  rw [if_neg hnotRequest, if_pos htype, hsrc]
  rfl

end Receiving

/-- A host that has sent an echo request. -/
def HostStack.pinging [Zero Ms] (h : HostStack Ms) (nowMs : Ms) : HostStack Ms :=
  { h with icmp := { h.icmp with
      hasLastIcmp := false, icmpInFlight := true, lastIcmpRttMs := 0, icmpSendTimeMs := nowMs } }

/-- An echo request on its way. -/
def pingLetter (srcIp dstIp : List UInt8) (sequence : UInt16) : Letter :=
  { srcIp := srcIp
    dstIp := dstIp
    protocol := ipv4ProtocolIcmp
    payload := icmpBytes (pingMessage sequence) }

theorem pingMessage_length (sequence : UInt16) : (pingMessage sequence).payload.length ≤ icmpMaxPayload := by
  have hpayload : icmpEchoPayload.length ≤ icmpMaxPayload := by decide
  exact hpayload

/-- A ping to an address that a host reaches leaves at once. -/
theorem hostCall_ping_reaches [Zero Ms] [Sub Ms] {h : HostStack Ms} {targetIp : IpAddress}
    {nextMac : MacAddress} (hreaches : HostReaches h.run.host targetIp nextMac) (ttl : UInt8)
    (sequence : UInt16) (nowMs : Ms) :
    ∃ packet : Ipv4Packet, ∃ h' : HostStack Ms,
      packet.letter = pingLetter h.ipAddress.octets targetIp.octets sequence ∧ packet.ttl = ttl ∧
      packet.payload.length ≤ ipv4MaxPayload ∧ h'.icmp = (h.pinging nowMs).icmp ∧
      h'.run = h.run.sends targetIp nextMac (ipv4Bytes packet) ∧
      hostCall h (.ping targetIp ttl sequence nowMs) = (h', [.sent (.ping sequence) packet]) := by
  have hfits := icmpBytes_fits (pingMessage_length sequence)
  have hreachesWaiting : HostReaches (h.pinging nowMs).run.host targetIp nextMac := hreaches
  rcases hostSendIpv4_reaches hreachesWaiting (some (.ping sequence)) h.ipAddress ttl ipv4ProtocolIcmp hfits
    nowMs with ⟨packet, hletter, httl, hlength, hsend⟩
  refine ⟨packet, { h.pinging nowMs with run := h.run.sends targetIp nextMac (ipv4Bytes packet) }, hletter,
    httl, hlength, rfl, rfl, ?_⟩
  have hcreate : icmpCreate icmpEchoRequest 0 0x1234 sequence icmpEchoPayload = some (pingMessage sequence) := by
    rw [icmpCreate, if_neg (by decide)]
    rfl
  rw [hostCall, hostSendIcmpEchoRequest, hreaches.1, Bool.not_true, if_neg Bool.false_ne_true, hcreate]
  dsimp only
  rw [icmpToBytes_eq (pingMessage_length sequence)]
  exact congrArg Prod.snd hsend

end Hosts

/-! ## Routers -/

section Routers

variable {Ms : Type}

/-- The address from which a router reports to another one: that of the interface it sends by. -/
def routerReportAddress (r : RouterState Ms) (dstIp : IpAddress) : IpAddress :=
  (routerLookupRoute r dstIp).elim ipZero fun route => routerInterfaceIpOrZero r route.outInterface

variable [SimTime Ms]

/-- An ICMP error to an address that a router reaches leaves at once. -/
theorem routerSendIcmpError_reaches {r : RouterState Ms} {about : Ipv4Packet} {out : Fin maxPort}
    {tag : Option UInt16} {nextMac : MacAddress} (hreaches : RouterReaches r about.srcIp out tag nextMac)
    (hreport : ipIsZero (routerReportAddress r about.srcIp) = false)
    (hlength : about.payload.length ≤ ipv4MaxPayload) (type code : UInt8) (nowMs : Ms) :
    ∃ response : Ipv4Packet,
      response.letter = ⟨(routerReportAddress r about.srcIp).octets, about.srcIp.octets, ipv4ProtocolIcmp,
        icmpBytes (icmpErrorAbout type code about)⟩ ∧
      response.ttl = ipv4DefaultTtl ∧ response.payload.length ≤ ipv4MaxPayload ∧
      routerSendIcmpError r about type code nowMs =
        (r, [.icmpError type code about,
          .frame out (ethernetBytes (ipv4Frame (r.macs out) nextMac tag (ipv4Bytes response))) none]) := by
  have hquote : (icmpErrorAbout type code about).payload.length ≤ icmpMaxPayload :=
    (List.length_take_le _ _).trans (by decide)
  rcases ipv4Create_letter (routerReportAddress r about.srcIp) about.srcIp ipv4DefaultTtl ipv4ProtocolIcmp
    (icmpBytes_fits hquote) with ⟨response, hcreate, hletter, httl, hfits⟩
  refine ⟨response, hletter, httl, hfits, ?_⟩
  have hmade : icmpCreate type code 0 0 ((ipv4Bytes about).take 28) = some (icmpErrorAbout type code about) :=
    if_neg (Nat.not_lt.mpr hquote)
  have hdst : response.dstIp = about.srcIp := by
    rw [ipv4Create, if_neg (Nat.not_lt.mpr (icmpBytes_fits hquote))] at hcreate
    rw [← Option.some.inj hcreate]
  have hsent : routerSendIpv4Packet r response nowMs =
      (r, [.frame out (ethernetBytes (ipv4Frame (r.macs out) nextMac tag (ipv4Bytes response))) none]) :=
    routerSendIpv4Packet_reaches hfits (hdst ▸ hreaches) nowMs
  rcases hreaches with ⟨route, nextHop, hroute, -, -, -, -⟩
  have hfrom : routerReportAddress r about.srcIp = routerInterfaceIpOrZero r route.outInterface := by
    rw [routerReportAddress, hroute, Option.elim_some]
  rw [hfrom] at hreport hcreate
  rw [routerSendIcmpError, hroute]
  dsimp only
  rw [hreport, if_neg Bool.false_ne_true, ipv4ToBytes_eq hlength, Option.getD_some, hmade]
  dsimp only
  rw [icmpToBytes_eq hquote]
  dsimp only
  rw [hcreate]
  dsimp only
  rw [hsent]

/-- A router at which the hops of a letter are used up reports to its source. -/
theorem routerReceive_expires {N : Type*} {r : RouterState Ms} {p : Waypoint N}
    (hmac : r.macs p.port = p.dstMac) (hvlan : RouterExpects r p.port p.tag) {letter : Letter} {ttl : UInt8}
    {raw : List UInt8} (hraw : FrameHolds p letter ttl raw) (httl : ttl ≤ 1)
    (hother : routerHasInterfaceIp r (addressOf letter.dstIp) = false) {out : Fin maxPort}
    {tag : Option UInt16} {nextMac : MacAddress}
    (hreaches : RouterReaches r (addressOf letter.srcIp) out tag nextMac)
    (hreport : ipIsZero (routerReportAddress r (addressOf letter.srcIp)) = false) (nowMs : Ms)
    (number : Option Nat) (next : N) (port : Fin maxPort) :
    ∃ about : Ipv4Packet, ∃ sent, about.letter = letter ∧ about.ttl = ttl ∧
      routerResult (routerReceive r p.port raw nowMs number) =
        (NetNode.router r, [(out, sent)], ([] : List (N × PacketRecord))) ∧
      FrameHolds ⟨next, port, r.macs out, nextMac, tag⟩
        ⟨(routerReportAddress r (addressOf letter.srcIp)).octets, letter.srcIp, ipv4ProtocolIcmp,
          icmpBytes (icmpErrorAbout icmpTimeExceeded 0 about)⟩ ipv4DefaultTtl sent := by
  rcases routerReceive_holds hmac hvlan hraw nowMs number with ⟨about, hletter, rfl, hlength, hsrc, hdst, hreceive⟩
  have htag : TagOk tag := by
    rcases hreaches with ⟨_, _, -, -, -, -, rfl⟩
    exact routerTag_ok _
  have hoctets : about.srcIp.octets = letter.srcIp := congrArg Letter.srcIp hletter
  rw [← hsrc] at hreaches hreport ⊢
  rcases routerSendIcmpError_reaches hreaches hreport hlength icmpTimeExceeded 0 nowMs with
    ⟨response, hresponse, hresponseTtl, hfits, hsent⟩
  refine ⟨about, _, hletter, rfl, ?_, htag, response, ?_, hresponseTtl, hfits, rfl⟩
  · rw [hreceive, hdst, hother, if_neg Bool.false_ne_true, routerForwardIpv4Packet, if_pos httl, hsent]
    rfl
  · rw [hresponse, hoctets]

end Routers

/-! ## Across the network -/

section Networks

variable {Ms : Type} {N : Type*} [SimTime Ms] [Zero Ms] [Sub Ms] [DecidableEq N]
  {wire : N × Fin maxPort → Option (N × Fin maxPort)} {states : N → NetNode Ms} {node : N} {h : HostStack Ms}

/-- What a host ends with when its ping has been answered: the answer, and the time that it took. -/
def icmpAnswered (icmp : IcmpMessage) (source : IpAddress) (sentMs nowMs : Ms) : HostIcmp Ms :=
  { lastIcmpType := icmp.type
    lastIcmpCode := icmp.code
    lastIcmpSource := source
    lastIcmpSequence := icmp.sequence
    hasLastIcmp := true
    icmpSendTimeMs := sentMs
    icmpInFlight := false
    lastIcmpRttMs := nowMs - sentMs }

/-- A ping is on its way, and gets as far as its path and its TTL reach. -/
theorem ping_leaves (records : List (N × PacketRecord)) (hnode : states node = .host h) {targetIp : IpAddress}
    {hops steps : Nat} {q : Waypoint N} (hpath : HostPath wire states node h.run.host targetIp hops steps q)
    {ttl : UInt8} (httl : hops < ttl.toNat) (sequence : UInt16) (nowMs : Ms) {times : List (HostReads Ms)}
    (htimes : times.length = steps) :
    ∃ ping : Ipv4Packet, ∃ raw, ∃ h' : HostStack Ms,
      ping.letter = pingLetter h.ipAddress.octets targetIp.octets sequence ∧
      h'.icmp = (h.pinging nowMs).icmp ∧ h.run.host.Logged h'.run.host ∧
      (internet wire).run (Idle states records)
          (.call node (.host (.ping targetIp ttl sequence nowMs)) :: arrivals times) =
        AtWaypoint (Function.update states node (.host h'))
          (records ++ [(node, .sent (.ping sequence) ping)]) q raw ∧
      FrameHolds q (pingLetter h.ipAddress.octets targetIp.octets sequence) (ttl - UInt8.ofNat hops) raw := by
  rcases hpath with ⟨nextMac, far, hreaches, hwire, hroute⟩
  rcases hostCall_ping_reaches hreaches ttl sequence nowMs with
    ⟨ping, h', hletter, rfl, hlength, hicmp, hrun, hcall⟩
  have hdst : targetIp.octets = ping.letter.dstIp := (congrArg Letter.dstIp hletter).symm
  rw [hdst] at hroute
  rcases host_frame_crosses hnode hrun hlength hwire hroute httl records [.sent (.ping sequence) ping] htimes
    with ⟨raw, hcrosses, hraw⟩
  refine ⟨ping, raw, h', hletter, hicmp, ?_, ?_, hletter ▸ hraw⟩
  · rw [hrun]
    exact h.run.sends_logged targetIp nextMac (ipv4Bytes ping)
  · rw [MessageNetwork.run_cons, step_host_call hnode, hcall]
    exact hcrosses

/-- On the last of the hops that a letter has to live, its TTL is 1. -/
theorem ttl_last_hop {ttl : UInt8} {hops : Nat} (httl : ttl.toNat = hops + 1) : ttl - UInt8.ofNat hops = 1 := by
  have hofNat : ttl = UInt8.ofNat (hops + 1) := by
    rw [← httl, UInt8.ofNat_toNat]
  have hnext : UInt8.ofNat (hops + 1) = UInt8.ofNat hops + 1 := UInt8.ofNat_add hops 1
  rw [hofNat, hnext]
  grind

/-- A letter that expires at a router goes no further: in its place the report of the router is on its way. -/
theorem report_leaves {q : Waypoint N} {r : RouterState Ms} (hnode : states q.node = .router r)
    (hmac : r.macs q.port = q.dstMac) (hvlan : RouterExpects r q.port q.tag) {letter : Letter} {ttl : UInt8}
    {raw : List UInt8} (hraw : FrameHolds q letter ttl raw) (httl : ttl ≤ 1)
    (hother : routerHasInterfaceIp r (addressOf letter.dstIp) = false) {out : Fin maxPort}
    {tag : Option UInt16} {nextMac : MacAddress}
    (hreaches : RouterReaches r (addressOf letter.srcIp) out tag nextMac)
    (hreport : ipIsZero (routerReportAddress r (addressOf letter.srcIp)) = false) {far : N × Fin maxPort}
    (hwire : wire (q.node, out) = some far) (records : List (N × PacketRecord)) (reads : HostReads Ms) :
    ∃ about : Ipv4Packet, ∃ sent, about.letter = letter ∧ about.ttl = ttl ∧
      (internet wire).step (AtWaypoint states records q raw) (.arrive 0 reads) =
        AtWaypoint states records ⟨far.1, far.2, r.macs out, nextMac, tag⟩ sent ∧
      FrameHolds ⟨far.1, far.2, r.macs out, nextMac, tag⟩
        ⟨(routerReportAddress r (addressOf letter.srcIp)).octets, letter.srcIp, ipv4ProtocolIcmp,
          icmpBytes (icmpErrorAbout icmpTimeExceeded 0 about)⟩ ipv4DefaultTtl sent := by
  rcases routerReceive_expires hmac hvlan hraw httl hother hreaches hreport reads.nowMs none far.1 far.2 with
    ⟨about, sent, habout, haboutTtl, hexpires, hsent⟩
  refine ⟨about, sent, habout, haboutTtl, ?_, hsent⟩
  -- the router keeps its state and logs nothing: its one frame replaces the one that arrived
  have harrive : (internet wire).arrive q.node (states q.node) q.port raw reads =
      (states q.node, [(out, sent)], ([] : List (N × PacketRecord))) := by
    rw [hnode]
    exact hexpires
  rw [MessageNetwork.step_arrive_only _ rfl]
  exact (congrArg _ harrive).trans (act_single (internet wire) hwire)

section Arrivals

variable {q q' : Waypoint N} (hnode : states q.node = .host h) (hmac : q.dstMac = h.run.host.macAddress)
  (htag : q.tag = none) {letter : Letter} (hmine : letter.dstIp = h.ipAddress.octets) {ttl : UInt8}
  {raw : List UInt8} (hraw : FrameHolds q letter ttl raw) {icmp : IcmpMessage}
  (hicmp : letter.icmp = some icmp) (records : List (N × PacketRecord)) (reads : HostReads Ms)

include hnode hmac htag hmine hraw hicmp

/-- An echo request is answered, and the answer gets as far as its path. -/
theorem echoRequest_answered (htype : icmp.type = icmpEchoRequest) {hops steps : Nat}
    (hpath : HostPath wire states q.node h.run.host (addressOf letter.srcIp) hops steps q')
    (hhops : hops < ipv4DefaultTtl.toNat) {times : List (HostReads Ms)} (htimes : times.length = steps) :
    ∃ request raw', ∃ h' : HostStack Ms, h'.icmp = (h.hears icmp (addressOf letter.srcIp)).icmp ∧
      h.run.host.Logged h'.run.host ∧
      (internet wire).run (AtWaypoint states records q raw) (.arrive 0 reads :: arrivals times) =
        AtWaypoint (Function.update states q.node (.host h')) (records ++ [(q.node, .heard request)]) q' raw' ∧
      FrameHolds q'
        ⟨h.ipAddress.octets, letter.srcIp, ipv4ProtocolIcmp, icmpBytes (echoReplyTo icmp)⟩
        (ipv4DefaultTtl - UInt8.ofNat hops) raw' := by
  rcases hpath with ⟨nextMac, far, hreaches, hwire, hroute⟩
  rcases hostStackReceive_echoRequest hmac htag hreaches.1 hmine hraw reads hicmp htype hreaches with
    ⟨request, reply, h', hreply, hreplyTtl, hreplyLength, hheard, hrun, hreceive⟩
  have hdst : (addressOf letter.srcIp).octets = reply.letter.dstIp := by
    rw [hreply, hraw.srcIp_octets]
  rw [hdst] at hroute
  rw [← hreplyTtl] at hhops
  rcases host_frame_crosses hnode hrun hreplyLength hwire hroute hhops records [.heard request] htimes with
    ⟨raw', hcrosses, hraw'⟩
  rw [hreply, hreplyTtl] at hraw'
  refine ⟨request, raw', h', hheard, ?_, ?_, hraw'⟩
  · rw [hrun]
    exact h.run.sends_logged (addressOf letter.srcIp) nextMac (ipv4Bytes reply)
  · rw [MessageNetwork.run_cons, step_host_arrives hnode, hreceive]
    exact hcrosses

/-- An answer or a report comes up, and stops the clock. -/
theorem answer_arrives (hip : h.run.host.hasIp = true)
    (htype : icmp.type = icmpEchoReply ∨ icmp.type = icmpTimeExceeded ∨ icmp.type = icmpDestUnreachable) :
    ∃ packet : Ipv4Packet, ∃ h' : HostStack Ms, packet.letter = letter ∧
      h'.icmp = hostRecordIcmpRtt (h.hears icmp (addressOf letter.srcIp)).icmp reads.nowMs ∧ h'.run = h.run ∧
      (internet wire).step (AtWaypoint states records q raw) (.arrive 0 reads) =
        Idle (Function.update states q.node (.host h')) (records ++ [(q.node, .heard packet)]) := by
  rcases hostStackReceive_answer hmac htag hip hmine hraw reads hicmp htype with
    ⟨packet, h', hletter, hheard, hrun, hreceive⟩
  refine ⟨packet, h', hletter, hheard, hrun, ?_⟩
  rw [step_host_arrives hnode, hreceive, act_host_quiet hrun]
  rfl

end Arrivals

/-- A ping whose TTL is larger than the number of routers on its path is answered: nothing is left in flight, the
two hosts alone have changed, and the one that sent the ping has the reply, its sequence number and the time from
the call to the last arrival. -/
theorem ping_completes {a : N} {hostA : HostStack Ms} (ha : states a = .host hostA) {targetIp : IpAddress}
    {hops : Nat} (b : Responder wire states a hostA targetIp hops) {ttl : UInt8} (httl : hops < ttl.toNat)
    (records : List (N × PacketRecord)) (sequence : UInt16) (nowMs : Ms) {outward homeward : List (HostReads Ms)}
    (houtward : outward.length = b.steps) (hhomeward : homeward.length = b.backSteps) (atB atA : HostReads Ms) :
    ∃ hostA' hostB' : HostStack Ms, ∃ ping request reply,
      (internet wire).run (Idle states records)
          (.call a (.host (.ping targetIp ttl sequence nowMs)) ::
            arrivals (outward ++ atB :: homeward ++ [atA])) =
        Idle (Function.update (Function.update states b.place.node (.host hostB')) a (.host hostA'))
          (records ++ [(a, .sent (.ping sequence) ping)] ++ [(b.place.node, .heard request)] ++
            [(a, .heard reply)]) ∧
      hostA'.icmp = icmpAnswered (echoReplyTo (pingMessage sequence)) (addressOf b.host.ipAddress.octets) nowMs
        atA.nowMs ∧
      hostB'.icmp = (b.host.hears (pingMessage sequence) (addressOf hostA.ipAddress.octets)).icmp ∧
      hostA.run.host.Logged hostA'.run.host ∧ b.host.run.host.Logged hostB'.run.host := by
  rcases b with ⟨⟨q, hostB, steps, hne, hb, htarget, hasIp, ⟨htag, hmacB⟩, hthere⟩, q', hops', steps', ⟨rfl, htag', hmacA⟩,
    hback, hhome⟩
  dsimp only at houtward hhomeward ⊢
  rcases ping_leaves records ha hthere httl sequence nowMs houtward with
    ⟨ping, raw, waiting, -, hwaiting, hlogged, hleaves, hraw⟩
  have hmac : waiting.run.host.macAddress = hostA.run.host.macAddress := by
    rw [hlogged]
  have hip : waiting.run.host.hasIp = true := by
    rcases hthere with ⟨nextMac, far, hreaches, -, -⟩
    exact (hreaches.logged hlogged).1
  have haddress : hostA.ipAddress = waiting.ipAddress := by
    rw [HostStack.ipAddress, HostStack.ipAddress, hlogged]
  -- the request comes up at the other host
  have hnodeB : Function.update states q'.node (.host waiting) q.node = .host hostB := by
    rw [Function.update_of_ne (Ne.symm hne)]
    exact hb
  have hasked := @letter_icmp_self (pingLetter hostA.ipAddress.octets targetIp.octets sequence)
    (pingMessage sequence) (pingMessage_length sequence) rfl rfl
  have hback' : HostPath wire (Function.update states q'.node (.host waiting)) q.node hostB.run.host
      (addressOf hostA.ipAddress.octets) hops' steps' q' := hback.update (.refl _) ha waiting
  rcases echoRequest_answered hnodeB hmacB htag htarget hraw hasked
    (records ++ [(q'.node, .sent (.ping sequence) ping)]) atB rfl hback' hhome hhomeward with
    ⟨request, raw', hostB', hheardB, hloggedB, hanswered, hraw'⟩
  -- and its answer at the one that waits for it
  have hnodeA : Function.update (Function.update states q'.node (.host waiting)) q.node (.host hostB') q'.node =
      .host waiting := by
    rw [Function.update_of_ne hne, Function.update_self]
  have hreply := @letter_icmp_self ⟨hostB.ipAddress.octets, hostA.ipAddress.octets, ipv4ProtocolIcmp,
    icmpBytes (echoReplyTo (pingMessage sequence))⟩ (echoReplyTo (pingMessage sequence))
    (pingMessage_length sequence) rfl rfl
  rcases answer_arrives hnodeA (hmacA.trans hmac.symm) htag' (congrArg IpAddress.octets haddress) hraw' hreply
    (records ++ [(q'.node, .sent (.ping sequence) ping)] ++ [(q.node, .heard request)]) atA hip (Or.inl rfl) with
    ⟨reply, hostA', -, hheardA, hrunA, harrives⟩
  refine ⟨hostA', hostB', ping, request, reply, ?_, ?_, hheardB, ?_, hloggedB⟩
  · have hactions : (.call q'.node (.host (.ping targetIp ttl sequence nowMs)) ::
        arrivals (outward ++ atB :: homeward ++ [atA]) :
          List (MessageNetwork.Action N (NodeCall Ms) (HostReads Ms))) =
        (.call q'.node (.host (.ping targetIp ttl sequence nowMs)) :: arrivals outward) ++
          ((.arrive 0 atB :: arrivals homeward) ++ [.arrive 0 atA]) := by
      simp [arrivals]
    rw [hactions, MessageNetwork.run_append, hleaves, MessageNetwork.run_append, hanswered,
      MessageNetwork.run_cons, harrives, MessageNetwork.run_nil, Function.update_comm hne, Function.update_idem]
  · rw [hheardA, HostStack.hears, hwaiting]
    rfl
  · rw [hrunA]
    exact hlogged

/-- A ping across the router, and five milliseconds until its answer. -/
theorem ping_completes_crossing :
    ∃ hostA' hostB' : HostStack ℚ, ∃ ping request reply,
      (internet crossingWire).run (Idle crossingStates [])
          (.call 0 (.host (.ping ⟨10, 0, 2, 1, 0⟩ 64 1 0)) ::
            arrivals ([⟨1, true⟩] ++ ⟨2, true⟩ :: [⟨3, true⟩] ++ [⟨5, true⟩])) =
        Idle (Function.update (Function.update crossingStates 2 (.host hostB')) 0 (.host hostA'))
          ([] ++ [(0, .sent (.ping 1) ping)] ++ [(2, .heard request)] ++ [(0, .heard reply)]) ∧
      hostA'.icmp = icmpAnswered (echoReplyTo (pingMessage 1)) ⟨10, 0, 2, 1, 0⟩ 0 5 ∧
      hostB'.icmp = ((crossingHost 2 (some crossingNames)).hears (pingMessage 1) ⟨10, 0, 1, 1, 0⟩).icmp ∧
      (crossingHost 1 none).run.host.Logged hostA'.run.host ∧ (crossingHost 2 (some crossingNames)).run.host.Logged hostB'.run.host :=
  @ping_completes ℚ (Fin 3) _ _ _ _ crossingWire crossingStates 0 (crossingHost 1 none) rfl ⟨10, 0, 2, 1, 0⟩ 1
    crossingResponder 64 (by decide) [] 1 0 [⟨1, true⟩] [⟨3, true⟩] rfl rfl ⟨2, true⟩ ⟨5, true⟩

/-- A router at which a ping with `hops + 1` hops to live ends, and whose report finds its way back. -/
structure Reporter (wire : N × Fin maxPort → Option (N × Fin maxPort)) (states : N → NetNode Ms) (a : N)
    (hostA : HostStack Ms) (targetIp : IpAddress) (hops : Nat) where
  /-- where the ping ends -/
  place : Waypoint N
  router : RouterState Ms
  steps : Nat
  node_eq : states place.node = .router router
  mac_eq : router.macs place.port = place.dstMac
  expects : RouterExpects router place.port place.tag
  not_own : routerHasInterfaceIp router (addressOf targetIp.octets) = false
  path : HostPath wire states a hostA.run.host targetIp hops steps place
  /-- how the report leaves the router -/
  out : Fin maxPort
  tag : Option UInt16
  nextMac : MacAddress
  far : N × Fin maxPort
  reaches : RouterReaches router (addressOf hostA.ipAddress.octets) out tag nextMac
  address_ne : ipIsZero (routerReportAddress router (addressOf hostA.ipAddress.octets)) = false
  wire_eq : wire (place.node, out) = some far
  /-- where the report comes up -/
  home : Waypoint N
  backHops : Nat
  backSteps : Nat
  home_eq : home.node = a ∧ home.tag = none ∧ home.dstMac = hostA.run.host.macAddress
  back : Path wire states hostA.ipAddress.octets ⟨far.1, far.2, router.macs out, nextMac, tag⟩ backHops backSteps
    home
  backHops_lt : backHops < ipv4DefaultTtl.toNat

/-- The address that the report comes from: that of the interface by which the router sends it. -/
def Reporter.address {a : N} {hostA : HostStack Ms} {targetIp : IpAddress} {hops : Nat}
    (r : Reporter wire states a hostA targetIp hops) : IpAddress :=
  addressOf (routerReportAddress r.router (addressOf hostA.ipAddress.octets)).octets

/-- A ping whose TTL is used up at a router on its way brings that router's report, which quotes the ping as it came
to the router: nothing is left in flight, the host that sent the ping alone has changed, and what comes up there is an
ICMP message from the address of the router with the first bytes of the ping. -/
theorem ping_expires {a : N} {hostA : HostStack Ms} (ha : states a = .host hostA) {targetIp : IpAddress}
    {hops : Nat} (r : Reporter wire states a hostA targetIp hops) {ttl : UInt8} (httl : ttl.toNat = hops + 1)
    (records : List (N × PacketRecord)) (sequence : UInt16) (nowMs : Ms) {outward homeward : List (HostReads Ms)}
    (houtward : outward.length = r.steps) (hhomeward : homeward.length = r.backSteps)
    (atRouter atA : HostReads Ms) :
    ∃ hostA' : HostStack Ms, ∃ ping about report,
      (internet wire).run (Idle states records)
          (.call a (.host (.ping targetIp ttl sequence nowMs)) ::
            arrivals (outward ++ atRouter :: homeward ++ [atA])) =
        Idle (Function.update states a (.host hostA'))
          (records ++ [(a, .sent (.ping sequence) ping)] ++ [(a, .heard report)]) ∧
      hostA'.icmp = icmpAnswered (icmpErrorAbout icmpTimeExceeded 0 about) r.address nowMs atA.nowMs ∧
      ping.letter = pingLetter hostA.ipAddress.octets targetIp.octets sequence ∧
      about.letter = ping.letter ∧ about.ttl = 1 ∧
      report.letter = ⟨r.address.octets, hostA.ipAddress.octets, ipv4ProtocolIcmp,
        icmpBytes (icmpErrorAbout icmpTimeExceeded 0 about)⟩ ∧
      hostA.run.host.Logged hostA'.run.host := by
  rcases r with ⟨q, r, steps, hrouter, hmac, hvlan, hother, hthere, out, tag, nextMac, far, hreaches, hreport, hwire,
    q', hops', steps', ⟨rfl, htag', hmacA⟩, hback, hhome⟩
  dsimp only [Reporter.address] at houtward hhomeward ⊢
  have hlives : hops < ttl.toNat := httl ▸ Nat.lt_add_one hops
  rcases ping_leaves records ha hthere hlives sequence nowMs houtward with
    ⟨ping, raw, waiting, hping, hwaiting, hlogged, hleaves, hraw⟩
  have hmacW : waiting.run.host.macAddress = hostA.run.host.macAddress := by
    rw [hlogged]
  have hip : waiting.run.host.hasIp = true := by
    rcases hthere with ⟨firstMac, first, hfirst, -, -⟩
    exact (hfirst.logged hlogged).1
  have haddress : hostA.ipAddress = waiting.ipAddress := by
    rw [HostStack.ipAddress, HostStack.ipAddress, hlogged]
  have hone : ttl - UInt8.ofNat hops = 1 := ttl_last_hop httl
  have hlast : ttl - UInt8.ofNat hops ≤ 1 := by
    rw [hone]
    exact UInt8.le_refl 1
  have hnodeR : Function.update states q'.node (.host waiting) q.node = .router r := by
    rw [Function.update_of_ne, hrouter]
    intro hsame
    rw [hsame, ha] at hrouter
    cases hrouter
  -- the last hop is used up at the router
  rcases report_leaves hnodeR hmac hvlan hraw hlast hother hreaches hreport hwire
    (records ++ [(q'.node, .sent (.ping sequence) ping)]) atRouter with
    ⟨about, sent, habout, haboutTtl, hstep, hsent⟩
  -- and its report comes home
  rcases (hback.update ha waiting).carries hhome hsent (records ++ [(q'.node, .sent (.ping sequence) ping)])
    hhomeward with ⟨raw', hcarried, hraw'⟩
  have hnodeA : Function.update states q'.node (.host waiting) q'.node = .host waiting := Function.update_self ..
  have hquote : (icmpErrorAbout icmpTimeExceeded 0 about).payload.length ≤ icmpMaxPayload :=
    (List.length_take_le _ _).trans (by decide)
  have hread := @letter_icmp_self ⟨(routerReportAddress r (addressOf hostA.ipAddress.octets)).octets,
    hostA.ipAddress.octets, ipv4ProtocolIcmp, icmpBytes (icmpErrorAbout icmpTimeExceeded 0 about)⟩
    (icmpErrorAbout icmpTimeExceeded 0 about) hquote rfl rfl
  rcases answer_arrives hnodeA (hmacA.trans hmacW.symm) htag' (congrArg IpAddress.octets haddress) hraw' hread
    (records ++ [(q'.node, .sent (.ping sequence) ping)]) atA hip (Or.inr (Or.inl rfl)) with
    ⟨report, hostA', hreportLetter, hheardA, hrunA, harrives⟩
  refine ⟨hostA', ping, about, report, ?_, ?_, hping, habout.trans hping.symm, haboutTtl.trans hone,
    hreportLetter, ?_⟩
  · have hactions : (.call q'.node (.host (.ping targetIp ttl sequence nowMs)) ::
        arrivals (outward ++ atRouter :: homeward ++ [atA]) :
          List (MessageNetwork.Action N (NodeCall Ms) (HostReads Ms))) =
        (.call q'.node (.host (.ping targetIp ttl sequence nowMs)) :: arrivals outward) ++
          (.arrive 0 atRouter :: (arrivals homeward ++ [.arrive 0 atA])) := by
      simp [arrivals]
    rw [hactions, MessageNetwork.run_append, hleaves, MessageNetwork.run_cons, hstep, MessageNetwork.run_append,
      hcarried, MessageNetwork.run_cons, harrives, MessageNetwork.run_nil, Function.update_idem]
  · rw [hheardA, HostStack.hears, hwaiting]
    rfl
  · rw [hrunA]
    exact hlogged

/-- The router between the hosts, for a ping that ends there. -/
theorem exists_crossingReporter :
    ∃ r : Reporter crossingWire crossingStates 0 (crossingHost 1 none) ⟨10, 0, 2, 1, 0⟩ 0,
      r.address = ⟨10, 0, 1, 254, 0⟩ ∧ r.steps = 0 ∧ r.backSteps = 0 := by
  refine ⟨{
    place := ⟨1, 0, crossingMac 1, crossingMac 11, none⟩
    router := crossingRouter
    steps := 0
    node_eq := rfl
    mac_eq := by decide +kernel
    expects := crossingRouter_expects 0
    not_own := by decide +kernel
    path := ⟨crossingMac 11, (1, 0), ⟨rfl, rfl, by decide +kernel⟩, rfl, .here _⟩
    out := 0
    tag := none
    nextMac := crossingMac 1
    far := (0, 0)
    reaches := crossingRouter_reaches_first
    address_ne := by decide +kernel
    wire_eq := rfl
    home := crossingEnd 0 1
    backHops := 0
    backSteps := 0
    home_eq := ⟨rfl, rfl, rfl⟩
    back := .here _
    backHops_lt := by decide }, ?_, rfl, rfl⟩
  decide +kernel

/-- With a TTL of one the router between the hosts reports. -/
theorem ping_expires_crossing :
    ∃ hostA' : HostStack ℚ, ∃ ping about report,
      (internet crossingWire).run (Idle crossingStates [])
          (.call 0 (.host (.ping ⟨10, 0, 2, 1, 0⟩ 1 1 0)) :: arrivals ([] ++ ⟨2, true⟩ :: [] ++ [⟨4, true⟩])) =
        Idle (Function.update crossingStates 0 (.host hostA'))
          ([] ++ [(0, .sent (.ping 1) ping)] ++ [(0, .heard report)]) ∧
      hostA'.icmp = icmpAnswered (icmpErrorAbout icmpTimeExceeded 0 about) ⟨10, 0, 1, 254, 0⟩ 0 4 ∧
      ping.letter = pingLetter [10, 0, 1, 1] [10, 0, 2, 1] 1 ∧ about.letter = ping.letter ∧ about.ttl = 1 ∧
      report.letter = ⟨[10, 0, 1, 254], [10, 0, 1, 1], ipv4ProtocolIcmp,
        icmpBytes (icmpErrorAbout icmpTimeExceeded 0 about)⟩ ∧
      (crossingHost 1 none).run.host.Logged hostA'.run.host := by
  rcases exists_crossingReporter with ⟨r, haddress, hsteps, hbackSteps⟩
  have hoctets : ([10, 0, 1, 254] : List UInt8) = r.address.octets := by
    rw [haddress]
    rfl
  rw [← haddress, hoctets]
  exact @ping_expires ℚ (Fin 3) _ _ _ _ crossingWire crossingStates 0 (crossingHost 1 none) rfl ⟨10, 0, 2, 1, 0⟩ 0
    r 1 rfl [] 1 0 [] [] hsteps.symm hbackSteps.symm ⟨2, true⟩ ⟨4, true⟩

end Networks

end MagiStack
