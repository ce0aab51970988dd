import MagiStack.Layer3.RouterResidue
import MagiStack.Network.Internet

/-!
# Paths — a packet goes its way

A path for an address runs through routers that know their next hop and switches that have learned both ends; tags
come and go on it.  A frame alone in flight on a path is carried to its end, whatever number of nodes the path has:
every router takes one hop off the packet, and nobody on the way changes.
-/

namespace MagiStack

/-! ## Frames with a letter -/

/-- A frame with an IPv4 packet in it, tagged or not. -/
def ipv4Frame (srcMac dstMac : MacAddress) (tag : Option UInt16) (payload : List UInt8) : EthernetFrame :=
  { dstMac := dstMac
    srcMac := srcMac
    hasVlan := tag.isSome
    vlanId := tag.getD 0
    ethertype := ethernetTypeIpv4
    payload := payload }

/-- A tag that `ethernet_set_vlan` accepts. -/
def TagOk (tag : Option UInt16) : Prop :=
  ∀ id ∈ tag, ¬ (id = 0 ∨ ethernetVlanIdMask < id)

theorem ipv4Frame_serializable {srcMac dstMac : MacAddress} {tag : Option UInt16} (htag : TagOk tag)
    {payload : List UInt8} (hlength : payload.length ≤ ethernetMaxPayload) :
    (ipv4Frame srcMac dstMac tag payload).Serializable := by
  have hplain : (ipv4Frame srcMac dstMac none payload).Serializable := by
    refine ⟨hlength, fun hno => Bool.noConfusion hno, fun _ => rfl, fun _ => ?_⟩
    have hnot : ethernetTypeIpv4 ≠ ethernetTypeVlan := by decide
    exact hnot
  cases tag with
  | none => exact hplain
  | some id =>
      have hset : ethernetSetVlan (ipv4Frame srcMac dstMac none payload) id =
          some (ipv4Frame srcMac dstMac (some id) payload) := by
        rw [ethernetSetVlan, if_neg (htag id rfl)]
        rfl
      exact (ethernetSetVlan_serializable hplain hset).1

/-- The address that a parser makes of its octets. -/
def addressOf (octets : List UInt8) : IpAddress :=
  IpAddress.read octets 0

/-- Where a frame is on its way, and how it is addressed. -/
structure Waypoint (N : Type*) where
  node : N
  port : Fin maxPort
  srcMac : MacAddress
  dstMac : MacAddress
  tag : Option UInt16

/-- A frame holds a letter with so many hops to live. -/
def FrameHolds {N : Type*} (p : Waypoint N) (letter : Letter) (ttl : UInt8) (raw : List UInt8) : Prop :=
  TagOk p.tag ∧ ∃ packet : Ipv4Packet, packet.letter = letter ∧ packet.ttl = ttl ∧
    packet.payload.length ≤ ipv4MaxPayload ∧
    raw = ethernetBytes (ipv4Frame p.srcMac p.dstMac p.tag (ipv4Bytes packet))

theorem ipv4Bytes_length_le {packet : Ipv4Packet} (h : packet.payload.length ≤ ipv4MaxPayload) :
    (ipv4Bytes packet).length ≤ ethernetMaxPayload := by
  rw [ipv4Bytes_length]
  exact Nat.add_le_add_left h ipv4HeaderSize

/-- What a receiver finds in such a frame. -/
theorem FrameHolds.found {N : Type*} {p : Waypoint N} {letter : Letter} {ttl : UInt8} {raw : List UInt8}
    (h : FrameHolds p letter ttl raw) :
    ∃ payload packet, ethernetFromBytes raw = some (ipv4Frame p.srcMac p.dstMac p.tag payload) ∧
      routerIpv4Packet (ipv4Frame p.srcMac p.dstMac p.tag payload) = some packet ∧
      Ipv4Packet.letter packet = letter ∧ packet.ttl = ttl ∧ packet.payload.length ≤ ipv4MaxPayload ∧
      packet.srcIp = addressOf letter.srcIp ∧ packet.dstIp = addressOf letter.dstIp := by
  rcases h with ⟨htag, packet, rfl, rfl, hlength, rfl⟩
  refine ⟨ipv4Bytes packet, ipv4Reparsed packet, ?_, ?_, rfl, rfl, hlength, rfl, rfl⟩
  · exact ethernetFromBytes_bytes (ipv4Frame_serializable htag (ipv4Bytes_length_le hlength))
  · have htype : (ipv4Frame p.srcMac p.dstMac p.tag (ipv4Bytes packet)).ethertype = ethernetTypeIpv4 := rfl
    have hpayload : (ipv4Frame p.srcMac p.dstMac p.tag (ipv4Bytes packet)).payload = ipv4Bytes packet := rfl
    rw [routerIpv4Packet, if_pos htype, hpayload, ipv4FromBytes_bytes hlength, Option.filter_some,
      if_pos (ipv4ValidateChecksum_reparsed hlength)]

/-- The source of a letter in a frame is an address. -/
theorem FrameHolds.srcIp_octets {N : Type*} {p : Waypoint N} {letter : Letter} {ttl : UInt8} {raw : List UInt8}
    (h : FrameHolds p letter ttl raw) : (addressOf letter.srcIp).octets = letter.srcIp := by
  rcases h with ⟨-, packet, rfl, -⟩
  rfl

/-! ## Routers -/

section Routers

variable {Ms : Type}

/-- The tag of a frame that leaves a router for a VLAN. -/
def routerTag (vlanId : Int) : Option UInt16 :=
  if 0 < vlanId ∧ ¬ (UInt16.ofNat vlanId.toNat = 0 ∨ ethernetVlanIdMask < UInt16.ofNat vlanId.toNat) then
    some (UInt16.ofNat vlanId.toNat)
  else
    none

theorem routerTag_ok (vlanId : Int) : TagOk (routerTag vlanId) := by
  intro id hid
  rw [routerTag] at hid
  split at hid
  · rename_i htag
    rw [← Option.some.inj hid]
    exact htag.2
  · cases hid

/-- A router has a route for an address and knows the MAC address of its next hop. -/
def RouterReaches (r : RouterState Ms) (dstIp : IpAddress) (out : Fin maxPort) (tag : Option UInt16)
    (nextMac : MacAddress) : Prop :=
  ∃ route nextHop, routerLookupRoute r dstIp = some route ∧ routerInterface r route.outInterface = some out ∧
    nextHop = (if ipIsZero route.nextHop then dstIp else route.nextHop) ∧
    arpTableGetConst r.arpTable nextHop = some nextMac ∧
    tag = routerTag (routerVlanForIp r nextHop (r.config.interfaceVlans out))

/-- The VLAN of a frame is that of the interface it comes in by, or there is none. -/
def RouterExpects (r : RouterState Ms) (port : Fin maxPort) (tag : Option UInt16) : Prop :=
  ∀ id ∈ tag, r.config.interfaceVlans port = id.toNat

theorem routerSendEthernetFrame_known {r : RouterState Ms} {outInterface : Int} {out : Fin maxPort}
    (hport : routerInterface r outInterface = some out) (vlanId : Int) (dstMac : MacAddress)
    {payload : List UInt8} (hlength : payload.length ≤ ethernetMaxPayload) (cargo : Option RouterCargo) :
    routerSendEthernetFrame r outInterface vlanId dstMac ethernetTypeIpv4 payload cargo =
      some (.frame out (ethernetBytes (ipv4Frame (r.macs out) dstMac (routerTag vlanId) payload)) cargo) := by
  rw [routerSendEthernetFrame, hport]
  dsimp only
  rw [ethernetCreate, if_neg (Nat.not_lt.mpr hlength)]
  dsimp only
  have hframe : (if 0 < vlanId then
        (ethernetSetVlan (ipv4Frame (r.macs out) dstMac none payload) (UInt16.ofNat vlanId.toNat)).getD
          (ipv4Frame (r.macs out) dstMac none payload)
      else ipv4Frame (r.macs out) dstMac none payload) =
      ipv4Frame (r.macs out) dstMac (routerTag vlanId) payload := by
    rw [routerTag, ethernetSetVlan]
    by_cases hvlan : 0 < vlanId
    · by_cases hvalid : UInt16.ofNat vlanId.toNat = 0 ∨ ethernetVlanIdMask < UInt16.ofNat vlanId.toNat
      · rw [if_pos hvlan, if_pos hvalid, if_neg fun h => h.2 hvalid]
        rfl
      · rw [if_pos hvlan, if_neg hvalid, if_pos ⟨hvlan, hvalid⟩]
        rfl
    · rw [if_neg hvlan, if_neg fun h => hvlan h.1]
  have hplain : (EthernetFrame.mk dstMac (r.macs out) false 0 ethernetTypeIpv4 payload) =
      ipv4Frame (r.macs out) dstMac none payload := rfl
  rw [hplain, hframe, ethernetToBytes_eq hlength]

variable [SimTime Ms]

/-- A packet for an address that a router reaches is sent at once, and the router stays as it is. -/
theorem routerSendPacketToNextHop_reaches {r : RouterState Ms} {packet : Ipv4Packet} {nextHopIp : IpAddress}
    {outInterface : Int} {out : Fin maxPort} {nextMac : MacAddress}
    (hlength : packet.payload.length ≤ ipv4MaxPayload)
    (hport : routerInterface r outInterface = some out)
    (harp : arpTableGetConst r.arpTable nextHopIp = some nextMac) (nowMs : Ms) (cargo : Option RouterCargo) :
    routerSendPacketToNextHop r packet nextHopIp outInterface nowMs cargo =
      (r, [.frame out (ethernetBytes (ipv4Frame (r.macs out) nextMac
        (routerTag (routerVlanForIp r nextHopIp (r.config.interfaceVlans out))) (ipv4Bytes packet))) cargo]) := by
  rw [routerSendPacketToNextHop, hport]
  dsimp only
  rw [harp, ipv4ToBytes_eq hlength]
  dsimp only
  rw [routerSendEthernetFrame_known hport _ _ (ipv4Bytes_length_le hlength)]
  rfl

theorem routerSendIpv4Packet_reaches {r : RouterState Ms} {packet : Ipv4Packet} {out : Fin maxPort}
    {tag : Option UInt16} {nextMac : MacAddress} (hlength : packet.payload.length ≤ ipv4MaxPayload)
    (hreaches : RouterReaches r packet.dstIp out tag nextMac) (nowMs : Ms) :
    routerSendIpv4Packet r packet nowMs =
      (r, [.frame out (ethernetBytes (ipv4Frame (r.macs out) nextMac tag (ipv4Bytes packet))) none]) := by
  rcases hreaches with ⟨route, nextHop, hroute, hport, hnext, harp, rfl⟩
  have hhop : routeNextHop route packet = nextHop := hnext.symm
  rw [routerSendIpv4Packet, hroute]
  dsimp only
  rw [hhop]
  exact routerSendPacketToNextHop_reaches hlength hport harp nowMs none

/-- A frame that comes in for a router on its own VLAN gets to the packet in it. -/
theorem routerReceive_holds {N : Type*} {r : RouterState Ms} {p : Waypoint N} (hmac : r.macs p.port = p.dstMac)
    (hvlan : RouterExpects r p.port p.tag) {letter : Letter} {ttl : UInt8} {raw : List UInt8}
    (h : FrameHolds p letter ttl raw) (nowMs : Ms) (number : Option Nat) :
    ∃ packet, Ipv4Packet.letter packet = letter ∧ packet.ttl = ttl ∧ packet.payload.length ≤ ipv4MaxPayload ∧
      packet.srcIp = addressOf letter.srcIp ∧ packet.dstIp = addressOf letter.dstIp ∧
      routerReceive r p.port raw nowMs number =
        if routerHasInterfaceIp r packet.dstIp then routerHandleLocalIpv4 r packet nowMs
        else routerForwardIpv4Packet r packet nowMs number := by
  rcases h.found with ⟨payload, packet, hframe, hpacket, hletter, httl, hlength, hsrc, hdst⟩
  refine ⟨packet, hletter, httl, hlength, hsrc, hdst, ?_⟩
  have hnoted : routerNoteVlan r p.port (frameVlan (ipv4Frame p.srcMac p.dstMac p.tag payload)) = r := by
    refine (routerNoteVlan_eq_self_iff (frameVlan_nonneg _)).mpr ?_
    cases htag : p.tag with
    | none => exact Or.inl rfl
    | some id => exact Or.inr (hvlan id htag)
  have hmine : (!ethernetIsBroadcast (ipv4Frame p.srcMac p.dstMac p.tag payload).dstMac &&
      !macEqual (ipv4Frame p.srcMac p.dstMac p.tag payload).dstMac (r.macs p.port)) = false := by
    have hequal : macEqual p.dstMac (r.macs p.port) = true := macEqual_iff.mpr hmac.symm
    have hsame : (ipv4Frame p.srcMac p.dstMac p.tag payload).dstMac = p.dstMac := rfl
    rw [hsame, hequal, Bool.not_true, Bool.and_false]
  have hnotArp : ¬ (ipv4Frame p.srcMac p.dstMac p.tag payload).ethertype = ethernetTypeArp := by
    have hnot : ¬ ethernetTypeIpv4 = ethernetTypeArp := by decide
    exact hnot
  rw [routerReceive, hframe]
  dsimp only
  rw [frameVlan] at hnoted
  rw [hnoted, hmine, if_neg Bool.false_ne_true, if_neg hnotArp, hpacket]

/-- A router sends a letter on that is not for it. -/
theorem routerReceive_forwards {N : Type*} {r : RouterState Ms} {p : Waypoint N}
    (hmac : r.macs p.port = p.dstMac) (hvlan : RouterExpects r p.port p.tag) {letter : Letter} {ttl : UInt8}
    {raw : List UInt8} (h : FrameHolds p letter ttl raw) (httl : 1 < ttl)
    (hother : routerHasInterfaceIp r (addressOf letter.dstIp) = false) {out : Fin maxPort}
    {tag : Option UInt16} {nextMac : MacAddress}
    (hreaches : RouterReaches r (addressOf letter.dstIp) out tag nextMac) (nowMs : Ms) (number : Option Nat)
    (next : N) (port : Fin maxPort) :
    ∃ sent cargo, routerReceive r p.port raw nowMs number = (r, [.frame out sent cargo]) ∧
      FrameHolds ⟨next, port, r.macs out, nextMac, tag⟩ letter (ttl - 1) sent := by
  rcases routerReceive_holds hmac hvlan h nowMs number with
    ⟨packet, hletter, rfl, hlength, -, hdst, hreceive⟩
  rw [← hdst] at hother hreaches
  rcases hreaches with ⟨route, nextHop, hroute, hport, rfl, harp, rfl⟩
  have hforwarded : ({ packet with ttl := packet.ttl - 1 } : Ipv4Packet).payload.length ≤ ipv4MaxPayload := hlength
  refine ⟨_, some { incoming := packet, number := number }, ?_, routerTag_ok _,
    { packet with ttl := packet.ttl - 1 }, hletter, rfl, hlength, rfl⟩
  rw [hreceive, hother, if_neg Bool.false_ne_true, routerForwardIpv4Packet, if_neg (UInt8.not_le.mpr httl)]
  dsimp only
  rw [hroute]
  exact routerSendPacketToNextHop_reaches hforwarded hport harp nowMs
    (some { incoming := packet, number := number })

end Routers

/-! ## Switches -/

/-- The VLAN of the frames at a port: on an access port its own, without a tag; on a trunk that of the tag. -/
def PortCarries (config : SwitchPortConfig) (tag : Option UInt16) (vlanId : Int) : Prop :=
  match config.mode with
  | .access => tag = none ∧ config.vlanId = vlanId
  | .trunk => ∃ id, tag = some id ∧ vlanId = id.toNat

/-- A switch has learned where both ends of a frame are, in the frame's VLAN. -/
structure SwitchKnows {N : Type*} (sw : Switch) (p : Waypoint N) (out : Fin maxPort) (tag : Option UInt16) :
    Prop where
  inPort : p.port.val < sw.numInterfaces
  outPort : out.val < sw.numInterfaces
  linked : sw.linked out = true
  other : out ≠ p.port
  unicast : ethernetIsBroadcast p.dstMac = false
  tagOk : TagOk tag
  vlan : ∃ vlanId, 1 ≤ vlanId ∧ PortCarries (sw.portConfigs p.port) p.tag vlanId ∧
    PortCarries (sw.portConfigs out) tag vlanId ∧
    switchMacTableGet sw.macTable vlanId p.srcMac = some (interfacePortNumber p.port) ∧
    switchMacTableGet sw.macTable vlanId p.dstMac = some (interfacePortNumber out)

/-- To learn what is known changes nothing. -/
theorem switchLearn_known {sw : Switch} {vlanId : Int} {mac : MacAddress} {portNumber : Int}
    (h : switchMacTableGet sw.macTable vlanId mac = some portNumber) : switchLearn sw vlanId mac portNumber = sw := by
  rcases Option.bind_eq_some_iff.mp h with ⟨index, hindex, hget⟩
  rcases Option.map_eq_some_iff.mp hget with ⟨entry, hentry, rfl⟩
  have hsame : sw.macTable.entries.modify index (fun e => { e with portNumber := entry.portNumber }) =
      sw.macTable.entries := by
    refine List.ext_getElem? fun i => ?_
    rw [List.getElem?_modify]
    by_cases hi : index = i
    · subst hi
      rw [hentry]
      simp
    · simp [hi]
  rw [switchLearn, switchMacTableSet]
  split
  · rfl
  · rw [hindex]
    dsimp only [Option.getD_some]
    simp only [hsame]

/-- The VLAN a frame comes in on. -/
theorem switchDetermineIngressVlan_carries {N : Type*} {sw : Switch} {p : Waypoint N}
    (hport : p.port.val < sw.numInterfaces) {vlanId : Int} (hvlan : 1 ≤ vlanId)
    (hcarries : PortCarries (sw.portConfigs p.port) p.tag vlanId) (payload : List UInt8) :
    switchDetermineIngressVlan sw (interfacePortNumber p.port) (ipv4Frame p.srcMac p.dstMac p.tag payload) =
      some vlanId := by
  rw [switchDetermineIngressVlan, Switch.interface_eq_some.mpr ⟨rfl, hport⟩]
  dsimp only [ipv4Frame]
  rw [PortCarries] at hcarries
  cases hmode : (sw.portConfigs p.port).mode with
  | access =>
      rw [hmode] at hcarries
      rcases hcarries with ⟨htag, rfl⟩
      rw [htag]
      exact if_pos hvlan
  | trunk =>
      rw [hmode] at hcarries
      rcases hcarries with ⟨id, htag, rfl⟩
      rw [htag]
      have hpositive : ¬ id < 1 := by
        rw [UInt16.lt_iff_toNat_lt]
        have hone : (1 : UInt16).toNat = 1 := rfl
        omega
      refine if_neg ?_
      rintro (hno | hless)
      · cases hno
      · exact hpositive hless

/-- The frame that leaves by a port. -/
theorem switchOutbound_carries {config : SwitchPortConfig} {tag : Option UInt16} (htagOk : TagOk tag)
    {vlanId : Int} (hcarries : PortCarries config tag vlanId) (srcMac dstMac : MacAddress)
    (tagIn : Option UInt16) (payload : List UInt8) :
    switchOutbound config vlanId (ipv4Frame srcMac dstMac tagIn payload) =
      some (ipv4Frame srcMac dstMac tag payload) := by
  rw [switchOutbound]
  rw [PortCarries] at hcarries
  cases hmode : config.mode with
  | access =>
      rw [hmode] at hcarries
      rw [hcarries.1]
      rfl
  | trunk =>
      rw [hmode] at hcarries
      rcases hcarries with ⟨id, rfl, rfl⟩
      have hid : UInt16.ofInt (id.toNat : Int) = id := by
        apply UInt16.toNat_inj.mp
        have hlt : id.toNat < 2 ^ 16 := id.toNat_lt
        simp only [UInt16.ofInt, UInt16.toNat_ofNat']
        omega
      dsimp only
      rw [hid, ethernetSetVlan, if_neg (htagOk id rfl)]
      rfl

/-- A switch that knows both ends of a frame passes it on, and stays as it is. -/
theorem switchReceive_knows {N : Type*} {sw : Switch} {p : Waypoint N} {out : Fin maxPort}
    {tag : Option UInt16} (h : SwitchKnows sw p out tag) (htag : TagOk p.tag) {payload : List UInt8}
    (hlength : payload.length ≤ ethernetMaxPayload) :
    switchReceive sw (interfacePortNumber p.port) (ethernetBytes (ipv4Frame p.srcMac p.dstMac p.tag payload)) =
      (sw, [(out, ethernetBytes (ipv4Frame p.srcMac p.dstMac tag payload))]) := by
  rcases h.vlan with ⟨vlanId, hvlan, hin, hout, hsrc, hdst⟩
  have hmac : (ipv4Frame p.srcMac p.dstMac p.tag payload).srcMac = p.srcMac := rfl
  have hto : (ipv4Frame p.srcMac p.dstMac p.tag payload).dstMac = p.dstMac := rfl
  have hallows : switchPortAllowsVlan sw (interfacePortNumber out) vlanId = true := by
    refine (switchPortAllowsVlan_iff h.outPort vlanId).mpr ⟨hvlan, fun hmode => ?_⟩
    rw [PortCarries, hmode] at hout
    exact hout.2
  rw [switchReceive, ethernetFromBytes_bytes (ipv4Frame_serializable htag hlength)]
  dsimp only
  rw [switchDetermineIngressVlan_carries h.inPort hvlan hin]
  dsimp only
  rw [hmac, switchLearn_known hsrc, switchForward, hto, h.unicast, if_neg Bool.false_ne_true, hdst]
  dsimp only
  rw [if_neg fun heq => h.other (interfacePortNumber_injective heq),
    switchSendFrameOnPort_of_allows h.outPort h.linked hallows
      (switchOutbound_carries h.tagOk hout p.srcMac p.dstMac p.tag payload) hlength]
  rfl

/-! ## Paths -/

section Paths

variable {Ms : Type} {N : Type*}

/-- A path for the letters to an address: so many routers, and so many nodes in all. -/
inductive Path (wire : N × Fin maxPort → Option (N × Fin maxPort)) (states : N → NetNode Ms)
    (dst : List UInt8) : Waypoint N → Nat → Nat → Waypoint N → Prop
  | here (p : Waypoint N) : Path wire states dst p 0 0 p
  | router {p q : Waypoint N} {r : RouterState Ms} {out : Fin maxPort} {tag : Option UInt16}
      {nextMac : MacAddress} {far : N × Fin maxPort} {hops steps : Nat} (hnode : states p.node = .router r)
      (hmac : r.macs p.port = p.dstMac) (hvlan : RouterExpects r p.port p.tag)
      (hother : routerHasInterfaceIp r (addressOf dst) = false)
      (hreaches : RouterReaches r (addressOf dst) out tag nextMac) (hwire : wire (p.node, out) = some far)
      (hrest : Path wire states dst ⟨far.1, far.2, r.macs out, nextMac, tag⟩ hops steps q) :
      Path wire states dst p (hops + 1) (steps + 1) q
  | switch {p q : Waypoint N} {sw : Switch} {out : Fin maxPort} {tag : Option UInt16} {far : N × Fin maxPort}
      {hops steps : Nat} (hnode : states p.node = .switch sw) (hknows : SwitchKnows sw p out tag)
      (hwire : wire (p.node, out) = some far)
      (hrest : Path wire states dst ⟨far.1, far.2, p.srcMac, p.dstMac, tag⟩ hops steps q) :
      Path wire states dst p hops (steps + 1) q

/-- A path does not depend on the hosts. -/
theorem Path.congr {wire : N × Fin maxPort → Option (N × Fin maxPort)} {states states' : N → NetNode Ms}
    {dst : List UInt8} {p q : Waypoint N} {hops steps : Nat} (h : Path wire states dst p hops steps q)
    (hsame : ∀ node, (∀ host, states node ≠ .host host) → states' node = states node) :
    Path wire states' dst p hops steps q := by
  induction h with
  | here p => exact .here p
  | router hnode hmac hvlan hother hreaches hwire _ ih =>
      refine .router ((hsame _ fun host hcontra => ?_).trans hnode) hmac hvlan hother hreaches hwire ih
      rw [hnode] at hcontra
      cases hcontra
  | switch hnode hknows hwire _ ih =>
      refine .switch ((hsame _ fun host hcontra => ?_).trans hnode) hknows hwire ih
      rw [hnode] at hcontra
      cases hcontra

variable [SimTime Ms] [Zero Ms] [Sub Ms] [DecidableEq N]

/-- A frame alone in flight, where it is. -/
def AtWaypoint (states : N → NetNode Ms) (records : List (N × PacketRecord)) (p : Waypoint N)
    (raw : List UInt8) : MessageNetwork.World N (NetNode Ms) (Fin maxPort) (List UInt8) (N × PacketRecord) :=
  { states := states, inFlight := [{ node := p.node, port := p.port, message := raw }], records := records }

/-- The arrival of the only frame in flight, at such times. -/
def arrivals (times : List (HostReads Ms)) : List (MessageNetwork.Action N (NodeCall Ms) (HostReads Ms)) :=
  times.map fun reads => .arrive 0 reads

omit [SimTime Ms] [Zero Ms] [Sub Ms] in
/-- A node that stays as it is sends one frame in answer to the one that arrives. -/
theorem act_single (net : MessageNetwork N (NetNode Ms) (Fin maxPort) (List UInt8) (NodeCall Ms) (HostReads Ms)
    (N × PacketRecord)) {states : N → NetNode Ms} {records : List (N × PacketRecord)} {node : N}
    {out : Fin maxPort} {sent : List UInt8} {far : N × Fin maxPort} (hwire : net.wire (node, out) = some far) :
    net.act { states := states, inFlight := [], records := records } node
      (states node, [(out, sent)], []) =
      { states := states, inFlight := [{ node := far.1, port := far.2, message := sent }], records := records } := by
  have hroute : [(out, sent)].filterMap (net.route node) =
      [{ node := far.1, port := far.2, message := sent }] := by
    rw [List.filterMap_cons_some (b := { node := far.1, port := far.2, message := sent })]
    · rfl
    · rw [MessageNetwork.route, hwire]
      rfl
  rw [MessageNetwork.act]
  simp only [Function.update_eq_self, List.append_nil, List.nil_append, hroute]

/-- A letter with more hops to live than its path has routers gets to the end of the path, and nobody on the way
changes.  By induction on the path. -/
theorem Path.carries {wire : N × Fin maxPort → Option (N × Fin maxPort)} {states : N → NetNode Ms}
    {letter : Letter} {p q : Waypoint N} {hops steps : Nat} (h : Path wire states letter.dstIp p hops steps q)
    {ttl : UInt8} (httl : hops < ttl.toNat) {raw : List UInt8} (hraw : FrameHolds p letter ttl raw)
    (records : List (N × PacketRecord)) {times : List (HostReads Ms)} (htimes : times.length = steps) :
    ∃ raw', (internet wire).run (AtWaypoint states records p raw) (arrivals times) =
        AtWaypoint states records q raw' ∧
      FrameHolds q letter (ttl - UInt8.ofNat hops) raw' := by
  induction h generalizing ttl raw times with
  | here p =>
      rw [List.length_eq_zero_iff.mp htimes]
      refine ⟨raw, rfl, ?_⟩
      have hzero : ttl - UInt8.ofNat 0 = ttl := UInt8.sub_zero ttl
      rw [hzero]
      exact hraw
  | @router p q r out tag nextMac far hops steps hnode hmac hvlan hother hreaches hwire hrest ih =>
      -- The router takes one hop off.
      rcases times with _ | ⟨reads, times⟩
      · cases htimes
      have hone : 1 < ttl := by
        rw [UInt8.lt_iff_toNat_lt]
        have hnat : (1 : UInt8).toNat = 1 := rfl
        omega
      rcases routerReceive_forwards hmac hvlan hraw hone hother hreaches reads.nowMs none far.1 far.2 with
        ⟨sent, cargo, hreceive, hsent⟩
      have hless : (ttl - 1).toNat = ttl.toNat - 1 := UInt8.toNat_sub_of_le _ _ (UInt8.le_of_lt hone)
      rcases ih (by omega) hsent (Nat.succ.inj htimes) with ⟨raw', hrun, hraw'⟩
      refine ⟨raw', ?_, ?_⟩
      · have hstep : (internet wire).step (AtWaypoint states records p raw) (.arrive 0 reads) =
            AtWaypoint states records ⟨far.1, far.2, r.macs out, nextMac, tag⟩ sent := by
          rw [MessageNetwork.step_arrive_only _ rfl]
          have harrive : (internet wire).arrive p.node (states p.node) p.port raw reads =
              (states p.node, [(out, sent)], ([] : List (N × PacketRecord))) := by
            rw [hnode]
            exact congrArg routerResult hreceive
          exact (congrArg _ harrive).trans (act_single (internet wire) hwire)
        rw [arrivals, List.map_cons, MessageNetwork.run_cons, hstep]
        exact hrun
      · have hsame : ttl - 1 - UInt8.ofNat hops = ttl - UInt8.ofNat (hops + 1) := by
          have hnext : UInt8.ofNat (hops + 1) = UInt8.ofNat hops + 1 := UInt8.ofNat_add hops 1
          rw [hnext]
          grind
        rw [← hsame]
        exact hraw'
  | @switch p q sw out tag far hops steps hnode hknows hwire hrest ih =>
      -- The switch passes the packet on with all its hops.
      rcases times with _ | ⟨reads, times⟩
      · cases htimes
      rcases hraw with ⟨htag, packet, hletter, hpacketTtl, hlength, rfl⟩
      have hreceive := switchReceive_knows hknows htag (ipv4Bytes_length_le hlength)
      have hsent : FrameHolds ⟨far.1, far.2, p.srcMac, p.dstMac, tag⟩ letter ttl
          (ethernetBytes (ipv4Frame p.srcMac p.dstMac tag (ipv4Bytes packet))) :=
        ⟨hknows.tagOk, packet, hletter, hpacketTtl, hlength, rfl⟩
      rcases ih httl hsent (Nat.succ.inj htimes) with ⟨raw', hrun, hraw'⟩
      refine ⟨raw', ?_, hraw'⟩
      have hstep : (internet wire).step (AtWaypoint states records p
            (ethernetBytes (ipv4Frame p.srcMac p.dstMac p.tag (ipv4Bytes packet)))) (.arrive 0 reads) =
          AtWaypoint states records ⟨far.1, far.2, p.srcMac, p.dstMac, tag⟩
            (ethernetBytes (ipv4Frame p.srcMac p.dstMac tag (ipv4Bytes packet))) := by
        rw [MessageNetwork.step_arrive_only _ rfl]
        have harrive : (internet wire).arrive p.node (states p.node) p.port
            (ethernetBytes (ipv4Frame p.srcMac p.dstMac p.tag (ipv4Bytes packet))) reads =
            (states p.node, [(out, ethernetBytes (ipv4Frame p.srcMac p.dstMac tag (ipv4Bytes packet)))],
              ([] : List (N × PacketRecord))) := by
          rw [hnode]
          have hswitch : (internet wire).arrive p.node (.switch sw) p.port
              (ethernetBytes (ipv4Frame p.srcMac p.dstMac p.tag (ipv4Bytes packet))) reads =
              (NetNode.switch (switchReceive sw (interfacePortNumber p.port)
                (ethernetBytes (ipv4Frame p.srcMac p.dstMac p.tag (ipv4Bytes packet)))).1,
                (switchReceive sw (interfacePortNumber p.port)
                  (ethernetBytes (ipv4Frame p.srcMac p.dstMac p.tag (ipv4Bytes packet)))).2,
                ([] : List (N × PacketRecord))) := rfl
          rw [hswitch, hreceive]
        exact (congrArg _ harrive).trans (act_single (internet wire) hwire)
      rw [arrivals, List.map_cons, MessageNetwork.run_cons, hstep]
      exact hrun

end Paths

end MagiStack
