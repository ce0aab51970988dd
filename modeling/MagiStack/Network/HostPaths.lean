import MagiStack.Network.Paths

/-!
# HostPaths — from host to host

What a host sends to an address that it reaches leaves in one frame, and gets as far as the path from the host and
its hops to live allow.  A letter to a host that arrives at it comes up.
-/

namespace MagiStack

/-- A message that fits is put into a packet. -/
theorem ipv4Create_letter (srcIp dstIp : IpAddress) (ttl protocol : UInt8) {message : List UInt8}
    (h : message.length ≤ ipv4MaxPayload) :
    ∃ packet : Ipv4Packet, ipv4Create srcIp dstIp ttl protocol message = some packet ∧
      packet.letter = ⟨srcIp.octets, dstIp.octets, protocol, message⟩ ∧ packet.ttl = ttl ∧
      packet.payload.length ≤ ipv4MaxPayload :=
  ⟨_, if_neg (Nat.not_lt.mpr h), rfl, rfl, h⟩

/-! ## Sending -/

section Hosts

variable {Ms : Type}

/-- A host knows the MAC address of its next hop to an address. -/
def HostReaches (host : ArpHost Ms) (dstIp : IpAddress) (nextMac : MacAddress) : Prop :=
  host.hasIp = true ∧ ipIsBroadcast dstIp = false ∧
    arpTableGetConst host.arpTable (hostNextHop host dstIp) = some nextMac

/-- A host is as it was, but for what it has sent. -/
def ArpHost.Logged (host host' : ArpHost Ms) : Prop :=
  host' = { host with log := host'.log }

theorem ArpHost.Logged.refl (host : ArpHost Ms) : host.Logged host :=
  rfl

theorem HostReaches.logged {host host' : ArpHost Ms} {dstIp : IpAddress} {nextMac : MacAddress}
    (h : HostReaches host dstIp nextMac) (hlogged : host.Logged host') : HostReaches host' dstIp nextMac := by
  rw [hlogged]
  exact h

/-- One more packet is accepted and sent at once. -/
def HostRun.sends (s : HostRun Ms) (dstIp : IpAddress) (nextMac : MacAddress) (ipRaw : List UInt8) : HostRun Ms :=
  { host := s.host.record (.packet s.accepted.length (some (hostNextHop s.host dstIp))
      (hostFrameBytes s.host.macAddress nextMac ethernetTypeIpv4 ipRaw))
    accepted := s.accepted ++ [acceptedPacket s.host dstIp ethernetTypeIpv4 ipRaw] }

theorem HostRun.sends_logged (s : HostRun Ms) (dstIp : IpAddress) (nextMac : MacAddress) (ipRaw : List UInt8) :
    s.host.Logged (s.sends dstIp nextMac ipRaw).host :=
  rfl

/-- The frame is all that a host has sent then. -/
theorem hostSent_sends {before after : HostStack Ms} {dstIp : IpAddress} {nextMac : MacAddress}
    {ipRaw : List UInt8} (h : after.run = before.run.sends dstIp nextMac ipRaw) :
    hostSent before after =
      [(hostPort, ethernetBytes (ipv4Frame before.run.host.macAddress nextMac none ipRaw))] := by
  have hlog : after.run.host.log = before.run.host.log ++
      [.packet before.run.accepted.length (some (hostNextHop before.run.host dstIp))
        (hostFrameBytes before.run.host.macAddress nextMac ethernetTypeIpv4 ipRaw)] := by
    rw [h]
    rfl
  rw [hostSent, hlog, List.drop_left]
  rfl

theorem hostSent_same {before after : HostStack Ms} (h : after.run = before.run) : hostSent before after = [] := by
  rw [hostSent, h, List.drop_length]
  rfl

variable [SimTime Ms]

omit [SimTime Ms] in
theorem hostSendL3Packet_reaches {host : ArpHost Ms} {dstIp : IpAddress} {nextMac : MacAddress}
    (h : HostReaches host dstIp nextMac) {ipRaw : List UInt8} (hlength : ipRaw.length ≤ ethernetMaxPayload)
    (nowMs : Ms) (number : Nat) :
    hostSendL3Packet host dstIp ethernetTypeIpv4 ipRaw nowMs number =
      (true, host.record (.packet number (some (hostNextHop host dstIp))
        (hostFrameBytes host.macAddress nextMac ethernetTypeIpv4 ipRaw))) := by
  rcases h with ⟨hip, hbroadcast, harp⟩
  rw [hostSendL3Packet, if_neg (Nat.not_lt.mpr hlength), hbroadcast, if_neg Bool.false_ne_true, hip,
    Bool.not_true, if_neg Bool.false_ne_true]
  dsimp only
  rw [harp]
  dsimp only
  rw [hostSendEthernetFrame_eq host nextMac ethernetTypeIpv4 _ hlength]

/-- A packet to an address that a host reaches leaves at once. -/
theorem hostSendIpv4_reaches {h : HostStack Ms} {dstIp : IpAddress} {nextMac : MacAddress}
    (hreaches : HostReaches h.run.host dstIp nextMac) (cause : Option PacketCause) (srcIp : IpAddress)
    (ttl protocol : UInt8) {message : List UInt8} (hlength : message.length ≤ ipv4MaxPayload) (nowMs : Ms) :
    ∃ packet : Ipv4Packet, packet.letter = ⟨srcIp.octets, dstIp.octets, protocol, message⟩ ∧ packet.ttl = ttl ∧
      packet.payload.length ≤ ipv4MaxPayload ∧
      hostSendIpv4 h cause srcIp dstIp ttl protocol message nowMs =
        (true, { h with run := h.run.sends dstIp nextMac (ipv4Bytes packet) },
          cause.elim [] fun cause => [.sent cause packet]) := by
  rcases ipv4Create_letter srcIp dstIp ttl protocol hlength with ⟨packet, hcreate, hletter, httl, hpayload⟩
  refine ⟨packet, hletter, httl, hpayload, ?_⟩
  have hsent := hostSendL3Packet_reaches hreaches (ipv4Bytes_length_le hpayload) nowMs h.run.accepted.length
  rw [hostSendIpv4, hcreate]
  dsimp only
  rw [ipv4ToBytes_eq hpayload]
  dsimp only [hostStackSendL3Packet, hostStep]
  rw [hsent]
  rfl

/-! ## Receiving -/

section Receiving

variable {N : Type*} {h : HostStack Ms} {q : Waypoint N} (hmac : q.dstMac = h.run.host.macAddress)
  (htag : q.tag = none) (hip : h.run.host.hasIp = true) {letter : Letter}
  (hmine : letter.dstIp = h.ipAddress.octets) {ttl : UInt8} {raw : List UInt8}
  (hraw : FrameHolds q letter ttl raw) (reads : HostReads Ms)

include hmac htag hip hmine hraw

/-- A letter to a host comes up. -/
theorem hostStackReceive_holds [Sub Ms] :
    ∃ packet : Ipv4Packet, packet.letter = letter ∧ packet.srcIp = addressOf letter.srcIp ∧
      packet.payload.length ≤ ipv4MaxPayload ∧
      hostStackReceive h raw reads =
        ((hostReceiveIpv4 h packet reads).1, .heard packet :: (hostReceiveIpv4 h packet reads).2) := by
  rcases hraw.found with ⟨payload, packet, hframe, hpacket, hletter, -, hlength, hsrc, hdst⟩
  refine ⟨packet, hletter, hsrc, hlength, ?_⟩
  have hcomes : hostIpv4Packet h.run.host raw = some packet := by
    have hequal : macEqual (ipv4Frame q.srcMac q.dstMac q.tag payload).dstMac h.run.host.macAddress = true :=
      macEqual_iff.mpr hmac
    have huntagged : (ipv4Frame q.srcMac q.dstMac q.tag payload).hasVlan = false := by
      rw [htag]
      rfl
    have hto : ipOctetsEqualPublic packet.dstIp h.run.host.ipAddress = true := by
      refine ipOctetsEqualPublic_iff.mpr ?_
      have hoctets : packet.dstIp.octets = letter.dstIp := congrArg Letter.dstIp hletter
      rw [hoctets, hmine]
      rfl
    rw [hostIpv4Packet, hframe]
    dsimp only
    rw [hequal, Bool.not_true, Bool.and_false, if_neg Bool.false_ne_true, huntagged,
      if_neg Bool.false_ne_true, hpacket, Option.filter_some, hip, hto]
    rfl
  rw [hostStackReceive, hcomes]

end Receiving

end Hosts

/-! ## Across the network -/

section Networks

variable {Ms : Type} {N : Type*}

/-- Nothing is in flight. -/
def Idle (states : N → NetNode Ms) (records : List (N × PacketRecord)) :
    MessageNetwork.World N (NetNode Ms) (Fin maxPort) (List UInt8) (N × PacketRecord) :=
  { states := states, inFlight := [], records := records }

/-- From a host a path leads to another place, and the host knows where it begins. -/
def HostPath (wire : N × Fin maxPort → Option (N × Fin maxPort)) (states : N → NetNode Ms) (node : N)
    (host : ArpHost Ms) (dstIp : IpAddress) (hops steps : Nat) (q : Waypoint N) : Prop :=
  ∃ nextMac far, HostReaches host dstIp nextMac ∧ wire (node, hostPort) = some far ∧
    Path wire states dstIp.octets ⟨far.1, far.2, host.macAddress, nextMac, none⟩ hops steps q

/-- A host to which another one finds its way. -/
structure Addressee (wire : N × Fin maxPort → Option (N × Fin maxPort)) (states : N → NetNode Ms) (a : N)
    (hostA : HostStack Ms) (targetIp : IpAddress) (hops : Nat) where
  place : Waypoint N
  host : HostStack Ms
  steps : Nat
  node_ne : a ≠ place.node
  node_eq : states place.node = .host host
  target_eq : targetIp.octets = host.ipAddress.octets
  hasIp : host.run.host.hasIp = true
  place_eq : place.tag = none ∧ place.dstMac = host.run.host.macAddress
  path : HostPath wire states a hostA.run.host targetIp hops steps place

/-- A host to which another one finds its way, and which finds its way back. -/
structure Responder (wire : N × Fin maxPort → Option (N × Fin maxPort)) (states : N → NetNode Ms) (a : N)
    (hostA : HostStack Ms) (targetIp : IpAddress) (hops : Nat) extends
    Addressee wire states a hostA targetIp hops where
  home : Waypoint N
  backHops : Nat
  backSteps : Nat
  home_eq : home.node = a ∧ home.tag = none ∧ home.dstMac = hostA.run.host.macAddress
  back : HostPath wire states place.node host.run.host (addressOf hostA.ipAddress.octets) backHops backSteps home
  backHops_lt : backHops < ipv4DefaultTtl.toNat

variable [SimTime Ms] [Zero Ms] [Sub Ms] [DecidableEq N]
  {wire : N × Fin maxPort → Option (N × Fin maxPort)} {states : N → NetNode Ms}
  {records : List (N × PacketRecord)} {node : N} {h : HostStack Ms}

/-- A host answers with one packet, to an address that it reaches. -/
theorem act_host_sends {h' : HostStack Ms} {dstIp : IpAddress} {nextMac : MacAddress} {packet : Ipv4Packet}
    (hrun : h'.run = h.run.sends dstIp nextMac (ipv4Bytes packet)) {far : N × Fin maxPort}
    (hwire : wire (node, hostPort) = some far) (new : List PacketRecord) :
    (internet wire).act (Idle states records) node (hostResult node h (h', new)) =
      AtWaypoint (Function.update states node (.host h')) (records ++ new.map fun r => (node, r))
        ⟨far.1, far.2, h.run.host.macAddress, nextMac, none⟩
        (ethernetBytes (ipv4Frame h.run.host.macAddress nextMac none (ipv4Bytes packet))) := by
  have hroute : (hostSent h h').filterMap ((@internet Ms N _ _ _ wire).route node) =
      [{ node := far.1, port := far.2
         message := ethernetBytes (ipv4Frame h.run.host.macAddress nextMac none (ipv4Bytes packet)) }] := by
    rw [hostSent_sends hrun]
    have hone : (@internet Ms N _ _ _ wire).route node
        (hostPort, ethernetBytes (ipv4Frame h.run.host.macAddress nextMac none (ipv4Bytes packet))) =
        some { node := far.1, port := far.2
               message := ethernetBytes (ipv4Frame h.run.host.macAddress nextMac none (ipv4Bytes packet)) } := by
      have hfar : (@internet Ms N _ _ _ wire).wire (node, hostPort) = some far := hwire
      rw [MessageNetwork.route, hfar]
      rfl
    rw [List.filterMap_cons_some hone]
    rfl
  rw [MessageNetwork.act, Idle, AtWaypoint]
  simp only [hostResult, hroute, List.nil_append]

/-- A host answers nothing. -/
theorem act_host_quiet {h' : HostStack Ms} (hrun : h'.run = h.run) (new : List PacketRecord) :
    (internet wire).act (Idle states records) node (hostResult node h (h', new)) =
      Idle (Function.update states node (.host h')) (records ++ new.map fun r => (node, r)) := by
  rw [MessageNetwork.act, Idle, Idle]
  simp only [hostResult, hostSent_same hrun, List.filterMap_nil, List.nil_append]

/-- A frame arrives at a host. -/
theorem step_host_arrives {q : Waypoint N} (hnode : states q.node = .host h) (raw : List UInt8)
    (reads : HostReads Ms) :
    (internet wire).step (AtWaypoint states records q raw) (.arrive 0 reads) =
      (internet wire).act (Idle states records) q.node (hostResult q.node h (hostStackReceive h raw reads)) := by
  rw [MessageNetwork.step_arrive_only _ rfl]
  have harrive : (internet wire).arrive q.node (states q.node) q.port raw reads =
      hostResult q.node h (hostStackReceive h raw reads) := by
    rw [hnode]
    rfl
  exact congrArg _ harrive

omit [SimTime Ms] [Zero Ms] [Sub Ms] in
/-- A path stays a path when a host changes. -/
theorem Path.update {dst : List UInt8} {p q : Waypoint N} {hops steps : Nat}
    (hpath : Path wire states dst p hops steps q) (hnode : states node = .host h) (h' : HostStack Ms) :
    Path wire (Function.update states node (.host h')) dst p hops steps q := by
  refine hpath.congr fun other hother => Function.update_of_ne ?_ _ _
  rintro rfl
  exact hother h hnode

omit [SimTime Ms] [Zero Ms] [Sub Ms] in
/-- So does the path from a host, when it or another one changes. -/
theorem HostPath.update {a : N} {host host' : ArpHost Ms} {dstIp : IpAddress} {hops steps : Nat} {q : Waypoint N}
    (hpath : HostPath wire states a host dstIp hops steps q) (hlogged : host.Logged host')
    (hnode : states node = .host h) (h' : HostStack Ms) :
    HostPath wire (Function.update states node (.host h')) a host' dstIp hops steps q := by
  rcases hpath with ⟨nextMac, far, hreaches, hwire, hroute⟩
  refine ⟨nextMac, far, hreaches.logged hlogged, hwire, ?_⟩
  have hmac : host'.macAddress = host.macAddress := by
    rw [hlogged]
  rw [hmac]
  exact hroute.update hnode h'

/-- What a host sends crosses the network, as far as its path and its hops to live reach. -/
theorem host_frame_crosses (hnode : states node = .host h) {h' : HostStack Ms} {dstIp : IpAddress}
    {nextMac : MacAddress} {packet : Ipv4Packet} (hrun : h'.run = h.run.sends dstIp nextMac (ipv4Bytes packet))
    (hlength : packet.payload.length ≤ ipv4MaxPayload) {far : N × Fin maxPort}
    (hwire : wire (node, hostPort) = some far) {hops steps : Nat} {q : Waypoint N}
    (hpath : Path wire states packet.letter.dstIp ⟨far.1, far.2, h.run.host.macAddress, nextMac, none⟩ hops steps q)
    (hhops : hops < packet.ttl.toNat) (records : List (N × PacketRecord)) (new : List PacketRecord)
    {times : List (HostReads Ms)} (htimes : times.length = steps) :
    ∃ raw, (internet wire).run ((internet wire).act (Idle states records) node (hostResult node h (h', new)))
          (arrivals times) =
        AtWaypoint (Function.update states node (.host h')) (records ++ new.map fun r => (node, r)) q raw ∧
      FrameHolds q packet.letter (packet.ttl - UInt8.ofNat hops) raw := by
  have hframe : FrameHolds ⟨far.1, far.2, h.run.host.macAddress, nextMac, none⟩ packet.letter packet.ttl
      (ethernetBytes (ipv4Frame h.run.host.macAddress nextMac none (ipv4Bytes packet))) :=
    ⟨fun id hid => (nomatch hid), packet, rfl, rfl, hlength, rfl⟩
  rcases (hpath.update hnode h').carries hhops hframe (records ++ new.map fun r => (node, r)) htimes with
    ⟨raw, hcarried, hraw⟩
  refine ⟨raw, ?_, hraw⟩
  rw [act_host_sends hrun hwire]
  exact hcarried

/-- The call of a host, when nothing is in flight. -/
theorem step_host_call (hnode : states node = .host h) (call : HostCall Ms) :
    (internet wire).step (Idle states records) (.call node (.host call)) =
      (internet wire).act (Idle states records) node (hostResult node h (hostCall h call)) := by
  have hstates : (Idle states records).states node = .host h := hnode
  rw [MessageNetwork.step, hstates]
  rfl

end Networks

/-! ## Two networks with a host each, and the router between them -/

def crossingMac (last : UInt8) : MacAddress :=
  ⟨2, 0, 0, 0, 0, last⟩

/-- The table with one entry. -/
def crossingTable (ip : IpAddress) (mac : MacAddress) : ArpTable :=
  (arpTableSet arpTableInit ip mac).getD arpTableInit

/-- A slot of a host's queue that has never been used. -/
def crossingSlot : HostPendingPacket ℚ :=
  { targetIp := ipZero
    ethertype := 0
    payload := []
    payload_le := Nat.zero_le _
    arpAttempts := 0
    arpLastAttemptMs := 0
    number := 0 }

def crossingHost (net : UInt8) (dns : Option DnsTable) : HostStack ℚ :=
  let h : HostStack ℚ := hostStackInit
    { hasIp := true
      ipAddress := ⟨10, 0, net, 1, 24⟩
      defaultGateway := ⟨10, 0, net, 254, 0⟩
      macAddress := crossingMac net } (fun _ => crossingSlot) none dns
  { h with run := { h.run with host := { h.run.host with
      arpTable := crossingTable ⟨10, 0, net, 254, 0⟩ (crossingMac (net + 10)) } } }

def crossingRouterSlot : RouterPendingPacket ℚ :=
  { nextHopIp := ipZero
    outInterface := 0
    vlanId := 0
    packet := ipv4Init
    arpAttempts := 0
    arpLastAttemptMs := 0
    cargo := none }

def crossingRouter : RouterState ℚ :=
  let r : RouterState ℚ := routerStateInit 2 (by decide) (fun port => crossingMac (port.val + 11).toUInt8)
    (fun _ => crossingRouterSlot)
  { r with
    config := routerAddDirectRoutes 2
      { routerInit with
        interfaceIps := fun port => { hasIp := true, ipAddress := ⟨10, 0, (port.val + 1).toUInt8, 254, 24⟩ } }
    arpTable := (arpTableSet (crossingTable ⟨10, 0, 1, 1, 0⟩ (crossingMac 1)) ⟨10, 0, 2, 1, 0⟩
      (crossingMac 2)).getD arpTableInit }

def crossingNames : DnsTable :=
  dnsTable [(dnsLocalhost, ⟨10, 0, 1, 1, 24⟩)]

def crossingStates : Fin 3 → NetNode ℚ
  | 0 => .host (crossingHost 1 none)
  | 1 => .router crossingRouter
  | 2 => .host (crossingHost 2 (some crossingNames))

/-- The first host is at the first port of the router, the second one at the second. -/
def crossingWire : Fin 3 × Fin maxPort → Option (Fin 3 × Fin maxPort)
  | (0, _) => some (1, 0)
  | (1, 0) => some (0, 0)
  | (1, _) => some (2, 0)
  | (2, _) => some (1, 1)

theorem crossingRouter_reaches_first :
    RouterReaches crossingRouter (addressOf [10, 0, 1, 1]) 0 none (crossingMac 1) :=
  ⟨⟨⟨10, 0, 1, 0, 24⟩, ipZero, 1⟩, ⟨10, 0, 1, 1, 0⟩, by decide +kernel, by decide +kernel,
    by decide +kernel, by decide +kernel, by decide +kernel⟩

theorem crossingRouter_reaches_second :
    RouterReaches crossingRouter (addressOf [10, 0, 2, 1]) 1 none (crossingMac 2) :=
  ⟨⟨⟨10, 0, 2, 0, 24⟩, ipZero, 2⟩, ⟨10, 0, 2, 1, 0⟩, by decide +kernel, by decide +kernel,
    by decide +kernel, by decide +kernel, by decide +kernel⟩

theorem crossingRouter_expects (port : Fin maxPort) : RouterExpects crossingRouter port none := by
  intro id hid
  cases hid

/-- Where the frames of a host come to the other one. -/
def crossingEnd (node : Fin 3) (net : UInt8) : Waypoint (Fin 3) :=
  ⟨node, 0, crossingMac (net + 10), crossingMac net, none⟩

def crossingResponder : Responder crossingWire crossingStates 0 (crossingHost 1 none) ⟨10, 0, 2, 1, 0⟩ 1 where
  place := crossingEnd 2 2
  host := crossingHost 2 (some crossingNames)
  steps := 1
  node_ne := by decide
  node_eq := rfl
  target_eq := rfl
  hasIp := rfl
  place_eq := ⟨rfl, rfl⟩
  path := by
    refine ⟨crossingMac 11, (1, 0), ⟨rfl, rfl, by decide +kernel⟩, rfl, ?_⟩
    refine .router rfl (by decide +kernel) (crossingRouter_expects _) (by decide +kernel)
      crossingRouter_reaches_second rfl ?_
    exact .here _
  home := crossingEnd 0 1
  backHops := 1
  backSteps := 1
  home_eq := ⟨rfl, rfl, rfl⟩
  back := by
    refine ⟨crossingMac 12, (1, 1), ⟨rfl, rfl, by decide +kernel⟩, rfl, ?_⟩
    refine .router rfl (by decide +kernel) (crossingRouter_expects _) (by decide +kernel)
      crossingRouter_reaches_first rfl ?_
    exact .here _
  backHops_lt := by decide

end MagiStack
