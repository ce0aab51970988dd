import MagiStack.Library.MessageNetwork
import MagiStack.Network.RouterFrames

/-!
# Internet — hosts, switches and routers together

The nodes of a simulation, joined by links in any way.  A run interleaves the commands at the nodes, the pieces of
the routers' calls, and the arrival and the loss of frames.  What one node does never makes another one believe
something false: `internet_keeps` says so node by node, and the run lemma of `Library.MessageNetwork` says it of
runs.
-/

namespace MagiStack

/-! ## Nodes -/

/-- A node as it is set up. -/
inductive NodeConfig (Ms : Type)
  | host (config : ArpHostConfig) (items : Nat → HostPendingPacket Ms) (dhcp : Option DhcpServer)
      (dns : Option DnsTable)
  | switch (sw : Switch)
  | router (numInterfaces : Nat) (h : numInterfaces ≤ maxPort) (macs : Fin maxPort → MacAddress)
      (config : Router) (items : Nat → RouterPendingPacket Ms)

/-- A node at work. -/
inductive NetNode (Ms : Type)
  | host (h : HostStack Ms)
  | switch (sw : Switch)
  | router (r : RouterState Ms)

/-- The commands at a node.  A router's polling and the pieces of its calls come from outside too. -/
inductive NodeCall (Ms : Type)
  | host (call : HostCall Ms)
  | configureSwitch (sw : Switch)
  | routerPoll (nowMs : Ms)
  | routerResume (realtime : Bool) (nowMs : Ms)
  | routerAddRoute (destination nextHop : IpAddress) (outInterface : Int)

section Nodes

variable {Ms : Type}

def NodeConfig.start [Zero Ms] : NodeConfig Ms → NetNode Ms
  | .host config items dhcp dns => .host (hostStackInit config items dhcp dns)
  | .switch sw => .switch sw
  | .router numInterfaces h macs config items =>
      .router { routerStateInit numInterfaces h macs items with config := config }

/-- The addresses of a node. -/
def NodeConfig.Owns : NodeConfig Ms → List UInt8 → Prop
  | .host config _ _ _, ip => ip = config.ipAddress.octets
  | .switch _, _ => False
  | .router numInterfaces _ _ config _, ip =>
      ∃ i : Fin maxPort, i.val < numInterfaces ∧ (config.interfaceIps i).hasIp = true ∧
        (config.interfaceIps i).ipAddress.octets = ip

/-- The MAC addresses of a node that sends frames of its own. -/
def NodeConfig.HasMac : NodeConfig Ms → MacAddress → Prop
  | .host config _ _ _, mac => mac = config.macAddress
  | .switch _, _ => False
  | .router numInterfaces _ macs _ _, mac => ∃ i : Fin maxPort, i.val < numInterfaces ∧ macs i = mac

/-- The only port of a host. -/
def hostPort : Fin maxPort := ⟨0, by decide⟩

/-- The frames that a host has sent between two states. -/
def hostSent (before after : HostStack Ms) : List (Fin maxPort × List UInt8) :=
  ((after.run.host.log.drop before.run.host.log.length).filterMap HostEvent.frame).map fun raw =>
    (hostPort, raw)

def RouterEvent.out : RouterEvent → Option (Fin maxPort × List UInt8)
  | .frame port raw _ => some (port, raw)
  | .icmpError .. => none

variable {N : Type*}

def hostResult (node : N) (before : HostStack Ms) (result : HostStack Ms × List PacketRecord) :
    NetNode Ms × List (Fin maxPort × List UInt8) × List (N × PacketRecord) :=
  (.host result.1, hostSent before result.1, result.2.map fun r => (node, r))

def routerResult (result : RouterState Ms × List RouterEvent) :
    NetNode Ms × List (Fin maxPort × List UInt8) × List (N × PacketRecord) :=
  (.router result.1, result.2.filterMap RouterEvent.out, [])

variable [SimTime Ms] [Zero Ms] [Sub Ms]

def nodeCall (node : N) : NetNode Ms → NodeCall Ms →
    NetNode Ms × List (Fin maxPort × List UInt8) × List (N × PacketRecord)
  | .host h, .host call => hostResult node h (hostCall h call)
  | .switch _, .configureSwitch sw => (.switch sw, [], [])
  | .router r, .routerPoll nowMs => routerResult (routerAct r (.poll nowMs))
  | .router r, .routerResume realtime nowMs => routerResult (routerAct r (.resume realtime nowMs))
  | .router r, .routerAddRoute destination nextHop outInterface =>
      (.router { r with config :=
        (routerAddRoute r.numInterfaces r.config destination nextHop outInterface).getD r.config }, [], [])
  -- a command of another kind of node
  | state, _ => (state, [], [])

def nodeArrive (node : N) (state : NetNode Ms) (port : Fin maxPort) (raw : List UInt8) (reads : HostReads Ms) :
    NetNode Ms × List (Fin maxPort × List UInt8) × List (N × PacketRecord) :=
  match state with
  | .host h => hostResult node h (hostStackReceive h raw reads)
  | .switch sw =>
      let (sw, sent) := switchReceive sw (interfacePortNumber port) raw
      (.switch sw, sent, [])
  | .router r => routerResult (routerAct r (.receive port raw reads.nowMs none))

/-- The network of a simulation. -/
def internet (wire : N × Fin maxPort → Option (N × Fin maxPort)) :
    MessageNetwork N (NetNode Ms) (Fin maxPort) (List UInt8) (NodeCall Ms) (HostReads Ms)
      (N × PacketRecord) :=
  { wire := wire, call := nodeCall, arrive := nodeArrive }

omit [SimTime Ms] [Sub Ms] in
def internetStart (configs : N → NodeConfig Ms) :
    MessageNetwork.World N (NetNode Ms) (Fin maxPort) (List UInt8) (N × PacketRecord) :=
  { states := fun node => (configs node).start, inFlight := [], records := [] }

end Nodes

/-! ## Hosts -/

section Hosts

variable {Ms : Type} [SimTime Ms]

omit [SimTime Ms] in
/-- The packet that comes up at a host is for it. -/
theorem hostIpv4Packet_eq_some {host : ArpHost Ms} {raw : List UInt8} {packet : Ipv4Packet}
    (h : hostIpv4Packet host raw = some packet) :
    ∃ frame, ethernetFromBytes raw = some frame ∧ routerIpv4Packet frame = some packet ∧
      (packet.dstIp.octets = host.ipAddress.octets ∨ packet.dstIp.octets = ipBroadcast.octets) := by
  rw [hostIpv4Packet] at h
  split at h
  · cases h
  rename_i frame hframe
  split at h
  · cases h
  split at h
  · cases h
  rcases Option.filter_eq_some_iff.mp h with ⟨hpacket, hdst⟩
  refine ⟨frame, hframe, hpacket, ?_⟩
  rcases Bool.or_eq_true_iff.mp hdst with hmine | hall
  · exact Or.inl (ipOctetsEqualPublic_iff.mp (Bool.and_eq_true_iff.mp hmine).2)
  · right
    simp only [ipIsBroadcast, Bool.and_eq_true, beq_iff_eq] at hall
    rw [IpAddress.octets, hall.1.1.1, hall.1.1.2, hall.1.2, hall.2]
    rfl

omit [SimTime Ms] in
theorem hostArpMessage_eq_some {host : ArpHost Ms} {raw : List UInt8} {arp : ArpMessage}
    (h : hostArpMessage host raw = some arp) :
    ∃ frame, ethernetFromBytes raw = some frame ∧ frame.ethertype = ethernetTypeArp ∧
      arpMessageFromBytes frame.payload = some arp := by
  rw [hostArpMessage] at h
  split at h
  · cases h
  rename_i frame hframe
  split at h
  · cases h
  split at h
  · cases h
  split at h
  · rename_i htype
    exact ⟨frame, hframe, htype, h⟩
  · cases h

variable {N : Type*} (owns : N → List UInt8 → Prop) (hasMac : N → MacAddress → Prop)
  (records : List (N × PacketRecord))

/-- The host of a node in a network: its address resolution is in a run, what it believes is true, and what it
has accepted is genuine. -/
structure HostStack.Sound (node : N) (config : ArpHostConfig) (items : Nat → HostPendingPacket Ms)
    (h : HostStack Ms) : Prop where
  run : ∃ actions, h.run = hostRun (hostRunInit config items) actions
  sockets : h.SocketsOwn
  table : ∀ entry ∈ h.run.host.arpTable.entries, Binds owns hasMac entry.ip.octets entry.mac
  accepted : ∀ a ∈ h.run.accepted, ∃ packet, a.Carries packet ∧ PacketOk owns records packet

variable {owns hasMac records} {node : N} {config : ArpHostConfig} {items : Nat → HostPendingPacket Ms}
  {h h' : HostStack Ms}

theorem HostStack.Sound.mono (hsound : h.Sound owns hasMac records node config items)
    (more : List (N × PacketRecord)) : h.Sound owns hasMac (records ++ more) node config items where
  run := hsound.run
  sockets := hsound.sockets
  table := hsound.table
  accepted := by
    intro a ha
    rcases hsound.accepted a ha with ⟨packet, hcarries, hpacket⟩
    exact ⟨packet, hcarries, hpacket.mono more⟩

/-- What holds of every run of address resolution. -/
theorem HostStack.Sound.kept (hsound : h.Sound owns hasMac records node config items) :
    h.run.host.Ok config ∧ h.run.view.Kept config.macAddress := by
  rcases hsound.run with ⟨actions, hrun⟩
  rcases hostRun_moves (hostRunInit_ok config items) actions with ⟨hok, hmoves⟩
  rw [hrun]
  exact ⟨hok, (hostRunInit_kept config items).moves hmoves⟩

theorem hostRun_concat (s : HostRun Ms) (actions : List (HostAction Ms)) (action : HostAction Ms) :
    hostRun s (actions ++ [action]) = hostStep (hostRun s actions) action := by
  rw [hostRun, List.foldl_append]
  rfl

/-- A host that takes a step goes on as it was: its station is the same, and its log grows. -/
theorem StackSteps.arpSteps {arrived : Option (List UInt8)} {new : List PacketRecord}
    (hsteps : StackSteps arrived h h' new) {learned : List UInt8 → MacAddress → Prop}
    (hlearned : ∀ raw, arrived = some raw → ∀ arp, hostArpMessage h.run.host raw = some arp →
      learned arp.senderIp.octets arp.senderMac) :
    ArpSteps learned h.run.host h'.run.host := by
  rcases hsteps.run with hsame | ⟨action, hrun, harrived⟩
  · rw [hsame]
    exact .refl _
  · rw [hrun]
    exact .step fun raw hraw arp harp => hlearned raw (harrived raw hraw) arp harp

section Steps

variable (hsound : h.Sound owns hasMac records node config items)
  (howns : ∀ ip, ip = config.ipAddress.octets → owns node ip)
  (hmac : hasMac node config.macAddress)
  {arrived : Option (List UInt8)}
  (harrived : ∀ raw, arrived = some raw → FrameOk (Binds owns hasMac) (PacketOk owns records) raw)
  {new : List PacketRecord} (hsteps : StackSteps arrived h h' new)

include hsound howns harrived hsteps

/-- What a host sends is on record, or answers an echo request that is genuine. -/
theorem hostSends_genuine {packet : Ipv4Packet} (hlength : packet.payload.length ≤ ipv4MaxPayload)
    (hsends : HostSends h.ipAddress new packet) :
    PacketOk owns (records ++ new.map fun r => (node, r)) packet := by
  refine ⟨hlength, ?_⟩
  cases hsends with
  | application cause hrecord =>
      exact .sent (List.mem_append_right _ (List.mem_map.mpr ⟨_, hrecord, rfl⟩))
  | echoReply request icmp hrecord hprotocol hicmp htype hsrc hdst hmine hpayload =>
      rcases hsteps.heard request hrecord with ⟨raw, hraw, hcame⟩
      rcases hostIpv4Packet_eq_some hcame with ⟨frame, hframe, hpacket, hto⟩
      rcases (harrived raw hraw).packet hframe hpacket with ⟨sent, rfl, -, hsent⟩
      have hasked : sent.letter.icmp = some icmp := by
        rw [← hicmp, receiveIcmp_eq_icmp hprotocol]
        rfl
      have hletter : packet.letter =
          { srcIp := h.ipAddress.octets
            dstIp := sent.letter.srcIp
            protocol := ipv4ProtocolIcmp
            payload := icmpBytes (echoReplyTo icmp) } := by
        rw [Ipv4Packet.letter, hsrc, hdst, hmine, hpayload]
        rfl
      rw [hletter]
      exact Genuine.echoReply ((hsent.genuine).mono _) hasked htype
        (howns _ (congrArg IpAddress.octets hsound.kept.1.ipAddress)) hto

/-- A host stays sound in a step. -/
theorem HostStack.Sound.step : h'.Sound owns hasMac (records ++ new.map fun r => (node, r)) node config items := by
  have harp : ArpSteps (Binds owns hasMac) h.run.host h'.run.host := by
    refine hsteps.arpSteps fun raw hraw arp hmessage => ?_
    rcases hostArpMessage_eq_some hmessage with ⟨frame, hframe, htype, hparsed⟩
    exact (harrived raw hraw).arpMessage hframe htype hparsed
  refine ⟨?_, hsteps.sockets, fun entry hentry => ?_, fun a ha => ?_⟩
  · rcases hsound.run with ⟨actions, hrun⟩
    rcases hsteps.run with hsame | ⟨action, hstep, -⟩
    · exact ⟨actions, hsame.trans hrun⟩
    · refine ⟨actions ++ [action], ?_⟩
      rw [hostRun_concat, ← hrun]
      exact hstep
  · rcases harp.table entry hentry with hold | hnew
    · exact hsound.table entry hold
    · exact hnew
  · rcases hsteps.accepted a ha with hold | ⟨packet, hcarries, hsends⟩
    · rcases hsound.accepted a hold with ⟨packet, hcarries, hpacket⟩
      exact ⟨packet, hcarries, hpacket.mono _⟩
    · exact ⟨packet, hcarries, hostSends_genuine hsound howns harrived hsteps hcarries.2.1 hsends⟩

include hmac in
/-- The frames of a step: ARP messages about the host itself, and packets that it has accepted. -/
theorem hostSent_frameOk : ∀ out ∈ hostSent h h',
    FrameOk (Binds owns hasMac) (PacketOk owns (records ++ new.map fun r => (node, r))) out.2 := by
  intro out hout
  rcases List.mem_map.mp hout with ⟨raw, hraw, rfl⟩
  rcases List.mem_filterMap.mp hraw with ⟨event, hevent, hframe⟩
  have hafter := hsound.step howns harrived hsteps
  have harp : ArpSteps (fun _ _ => True) h.run.host h'.run.host := hsteps.arpSteps fun _ _ _ _ => trivial
  have hlogged : event ∈ h'.run.host.log := List.mem_of_mem_drop hevent
  rcases harp.log with ⟨events, hlog, htruth⟩
  rw [hlog, List.drop_left] at hevent
  have hbinds : Binds owns hasMac h.run.host.ipAddress.octets h.run.host.macAddress := by
    refine ⟨node, howns _ (congrArg IpAddress.octets hsound.kept.1.ipAddress), ?_⟩
    rw [hsound.kept.1.macAddress]
    exact hmac
  have harpOk : ArpFrame h.run.host.macAddress h.run.host.ipAddress raw → FrameOk (Binds owns hasMac)
      (PacketOk owns (records ++ new.map fun r => (node, r))) raw := by
    rintro ⟨arp, dst, hbytes, hsenderMac, hsenderIp⟩
    refine .arp _ arp ⟨?_, fun htag => Bool.noConfusion htag, fun _ => rfl, fun _ => ?_⟩ rfl rfl hbytes ?_
    · rw [arpMessageBytes_length]
      decide
    · have hnot : ethernetTypeArp ≠ ethernetTypeVlan := by decide
      exact hnot
    · rw [hsenderMac, hsenderIp]
      exact hbinds
  -- each kind of event that hands a frame to the interface
  cases event with
  | arpRequest target frame =>
      cases hframe
      exact harpOk (htruth _ hevent)
  | arpReply frame =>
      cases hframe
      exact harpOk (htruth _ hevent)
  | packet number nextHop frame =>
      cases hframe
      rcases hafter.kept.2.faithful.sent number nextHop raw hlogged with ⟨a, dst, ha, -, hbytes⟩
      rcases hafter.accepted a (List.mem_of_getElem? ha) with ⟨packet, ⟨htype, hlength, hpayload⟩, hpacket⟩
      refine .ipv4 _ packet ⟨?_, fun htag => Bool.noConfusion htag, fun _ => rfl, fun _ => ?_⟩ htype hpayload hbytes
        hlength hpacket
      · dsimp only
        rw [hpayload, ipv4Bytes_length]
        exact Nat.add_le_add_left hlength ipv4HeaderSize
      · dsimp only
        rw [htype]
        decide
  | flushed resolved => cases hframe
  | dropped number nextHop => cases hframe
  | failed target => cases hframe

end Steps

end Hosts

/-! ## The network -/

section Network

variable {Ms : Type} {N : Type*}

/-- The addresses of the nodes of a network. -/
def OwnsIp (configs : N → NodeConfig Ms) (node : N) (ip : List UInt8) : Prop :=
  (configs node).Owns ip

def OwnsMac (configs : N → NodeConfig Ms) (node : N) (mac : MacAddress) : Prop :=
  (configs node).HasMac mac

variable [SimTime Ms]

/-- A node is what its configuration makes it, and sound. -/
def NodeOk (configs : N → NodeConfig Ms) (records : List (N × PacketRecord)) (node : N)
    (state : NetNode Ms) : Prop :=
  match configs node, state with
  | .host config items _ _, .host h =>
      h.Sound (OwnsIp configs) (OwnsMac configs) records node config items
  | .switch _, .switch _ => True
  | .router _ _ _ _ _, .router r => r.Sound (OwnsIp configs) (OwnsMac configs) records node
  | _, _ => False

omit [SimTime Ms] in
/-- A frame of the network. -/
def NetFrameOk (configs : N → NodeConfig Ms) (records : List (N × PacketRecord)) (raw : List UInt8) : Prop :=
  FrameOk (Binds (OwnsIp configs) (OwnsMac configs)) (PacketOk (OwnsIp configs) records) raw

omit [SimTime Ms] in
/-- A record is true: what was sent has the address of its sender and the message of its cause, and what has come
up is genuine, after what has been sent `before`, and is for the one who has heard it. -/
def RecordOk (configs : N → NodeConfig Ms) (before : List (N × PacketRecord)) : N × PacketRecord → Prop
  | (node, .sent cause packet) => OwnsIp configs node packet.srcIp.octets ∧ cause.Makes packet
  | (node, .heard packet) =>
      PacketOk (OwnsIp configs) before packet ∧
        (OwnsIp configs node packet.dstIp.octets ∨ packet.dstIp.octets = ipBroadcast.octets)

variable {configs : N → NodeConfig Ms} {records : List (N × PacketRecord)} {node : N}

/-- A host keeps the network as it should be. -/
theorem hostResult_ok {config : ArpHostConfig} {items : Nat → HostPendingPacket Ms} {dhcp : Option DhcpServer}
    {dns : Option DnsTable} (hconfig : configs node = .host config items dhcp dns) {h : HostStack Ms}
    (hsound : h.Sound (OwnsIp configs) (OwnsMac configs) records node config items)
    {arrived : Option (List UInt8)} (harrived : ∀ raw, arrived = some raw → NetFrameOk configs records raw)
    {result : HostStack Ms × List PacketRecord} (hsteps : StackSteps arrived h result.1 result.2) :
    MessageNetwork.ResultOk (P := Fin maxPort) (NetFrameOk configs) (NodeOk configs) (RecordOk configs) records
      node (hostResult node h result) := by
  have howns : ∀ ip, ip = config.ipAddress.octets → OwnsIp configs node ip := by
    intro ip hip
    rw [OwnsIp, hconfig]
    exact hip
  have hmac : OwnsMac configs node config.macAddress := by
    rw [OwnsMac, hconfig]
    exact rfl
  refine ⟨?_, hostSent_frameOk hsound howns hmac harrived hsteps, fun before r after hsplit => ?_⟩
  · unfold NodeOk
    rw [hconfig]
    exact hsound.step howns harrived hsteps
  · -- A packet sent bears the address of the host, and one that is heard came in the frame.
    have hmem : r ∈ result.2.map fun r => (node, r) := by
      have hsplit' : (result.2.map fun r => (node, r)) = before ++ r :: after := hsplit
      rw [hsplit']
      exact List.mem_append_right _ List.mem_cons_self
    rcases List.mem_map.mp hmem with ⟨record, hrecord, rfl⟩
    cases record with
    | sent cause packet =>
        rcases hsteps.sent cause packet hrecord with ⟨hsrc, hmakes⟩
        refine ⟨howns _ ?_, hmakes⟩
        rw [hsrc]
        exact congrArg IpAddress.octets hsound.kept.1.ipAddress
    | heard packet =>
        rcases hsteps.heard packet hrecord with ⟨raw, hraw, hcame⟩
        rcases hostIpv4Packet_eq_some hcame with ⟨frame, hframe, hpacket, hto⟩
        rcases (harrived raw hraw).packet hframe hpacket with ⟨sent, rfl, hlength, hsent⟩
        have hgenuine : PacketOk (OwnsIp configs) records (ipv4Reparsed sent) := ⟨hlength, hsent.genuine⟩
        refine ⟨hgenuine.mono before, hto.imp_left fun hmine => howns _ ?_⟩
        rw [hmine]
        exact congrArg IpAddress.octets hsound.kept.1.ipAddress

/-- So does a router. -/
theorem routerResult_ok {numInterfaces : Nat} {hports : numInterfaces ≤ maxPort}
    {macs : Fin maxPort → MacAddress} {config : Router} {items : Nat → RouterPendingPacket Ms}
    (hconfig : configs node = .router numInterfaces hports macs config items)
    {result : RouterState Ms × List RouterEvent}
    (hgoes : RouterGoesOn (OwnsIp configs) (OwnsMac configs) records node result) :
    MessageNetwork.ResultOk (NetFrameOk configs) (NodeOk configs) (RecordOk configs) records node
      (routerResult result) := by
  refine ⟨?_, fun out hout => ?_, fun before r after hsplit => ?_⟩
  · unfold NodeOk
    rw [hconfig]
    exact hgoes.router.mono _
  · rcases List.mem_filterMap.mp hout with ⟨event, hevent, heq⟩
    have hsound := hgoes.events event hevent
    cases event with
    | frame port raw cargo =>
        cases heq
        rw [NetFrameOk, routerResult, List.append_nil]
        exact hsound
    | icmpError type code about => cases heq
  · rw [routerResult] at hsplit
    simp at hsplit

section Steps

variable [Zero Ms] [Sub Ms] (wire : N × Fin maxPort → Option (N × Fin maxPort))

/-- Every node of a network keeps it as it should be. -/
theorem internet_keeps (configs : N → NodeConfig Ms) :
    (@internet Ms N _ _ _ wire).Keeps (NetFrameOk configs) (NodeOk configs) (RecordOk configs) := by
  have hsame : ∀ (records : List (N × PacketRecord)) (node : N) (state : NetNode Ms),
      NodeOk configs records node state → MessageNetwork.ResultOk (P := Fin maxPort) (NetFrameOk configs)
        (NodeOk configs) (RecordOk configs) records node (state, [], []) := by
    intro records node state hstate
    refine ⟨?_, fun out hout => (nomatch hout), fun before r after hsplit => by simp at hsplit⟩
    rw [List.append_nil]
    exact hstate
  refine ⟨fun records more raw hraw => hraw.mono fun packet hpacket => hpacket.mono more,
    fun records more node state hstate => ?_, fun records node state call hstate => ?_,
    fun records node state port raw reads hstate hraw => ?_⟩
  · -- A node stays sound while records are added.
    unfold NodeOk at hstate ⊢
    split at hstate
    · exact hstate.mono more
    · trivial
    · exact hstate.mono more
    · exact hstate.elim
  · -- A call is obeyed by the nodes of its kind, and passes the others by.
    have hstate' := hstate
    unfold NodeOk at hstate
    split at hstate
    · rename_i config items dhcp dns h hconfig
      cases call with
      | host call =>
          refine hostResult_ok hconfig hstate ?_ (hostCall_steps hstate.sockets call)
          exact fun _ hcontra => (nomatch hcontra)
      | configureSwitch sw => exact hsame _ _ _ hstate'
      | routerPoll nowMs => exact hsame _ _ _ hstate'
      | routerResume realtime nowMs => exact hsame _ _ _ hstate'
      | routerAddRoute destination nextHop outInterface => exact hsame _ _ _ hstate'
    · rename_i sw₀ sw hconfig
      cases call with
      | host call => exact hsame _ _ _ hstate'
      | configureSwitch sw' =>
          refine hsame _ _ (.switch sw') ?_
          unfold NodeOk
          rw [hconfig]
          trivial
      | routerPoll nowMs => exact hsame _ _ _ hstate'
      | routerResume realtime nowMs => exact hsame _ _ _ hstate'
      | routerAddRoute destination nextHop outInterface => exact hsame _ _ _ hstate'
    · rename_i numInterfaces hports macs config items r hconfig
      cases call with
      | host call => exact hsame _ _ _ hstate'
      | configureSwitch sw => exact hsame _ _ _ hstate'
      | routerPoll nowMs => exact routerResult_ok hconfig (.nothing (hstate.pushTask _))
      | routerResume realtime nowMs => exact routerResult_ok hconfig (routerResume_goesOn hstate realtime nowMs)
      | routerAddRoute destination nextHop outInterface =>
          refine hsame _ _ (.router _) ?_
          unfold NodeOk
          rw [hconfig]
          exact routerAddRoute_sound hstate destination nextHop outInterface
    · exact hstate.elim
  · -- A frame arrives.
    have hstate' := hstate
    unfold NodeOk at hstate
    split at hstate
    · rename_i config items dhcp dns h hconfig
      refine hostResult_ok hconfig hstate (fun other hother => ?_) (hostStackReceive_steps hstate.sockets raw reads)
      cases hother
      exact hraw
    · rename_i sw₀ sw hconfig
      refine ⟨?_, fun out hout => ?_, fun before r after hsplit => ?_⟩
      · unfold NodeOk
        rw [hconfig]
        trivial
      · have hsent : NetFrameOk configs records out.2 := FrameOk.switch hraw hout
        exact hsent.mono fun packet hpacket => hpacket.mono _
      · change [] = _ at hsplit
        simp at hsplit
    · rename_i numInterfaces hports macs config items r hconfig
      exact routerResult_ok hconfig (routerReceive_goesOn hstate port hraw reads.nowMs none)
    · exact hstate.elim

omit [SimTime Ms] [Sub Ms] in
theorem mem_arpTableInit {entry : ArpTableEntry} : entry ∉ arpTableInit.entries :=
  fun hentry => (nomatch hentry)

omit [Sub Ms] in
/-- A network starts as it should be. -/
theorem internetStart_ok (configs : N → NodeConfig Ms) :
    (internetStart configs).Ok (NetFrameOk configs) (NodeOk configs) (RecordOk configs) := by
  refine ⟨fun node => ?_, fun f hf => (nomatch hf), fun before r after hsplit => ?_⟩
  · have hstate : (internetStart configs).states node = (configs node).start := rfl
    rw [hstate]
    unfold NodeOk
    cases hconfig : configs node with
    | host config items dhcp dns =>
        refine ⟨⟨[], rfl⟩, fun i huse => ?_, fun entry hentry => absurd hentry mem_arpTableInit,
          fun a ha => (nomatch ha)⟩
        cases huse
    | switch sw => trivial
    | router numInterfaces hports macs config items =>
        refine ⟨fun ip hip => ?_, fun port hport => ?_, fun entry hentry => absurd hentry mem_arpTableInit,
          fun item hitem => ?_⟩
        · rw [OwnsIp, hconfig]
          exact hip
        · rw [OwnsMac, hconfig]
          exact ⟨port, hport, rfl⟩
        · cases hitem
  · rw [internetStart] at hsplit
    simp at hsplit

/-- In every run of a network, every node, frame and record is as it should be. -/
theorem internet_ok [DecidableEq N] (configs : N → NodeConfig Ms)
    (actions : List (MessageNetwork.Action N (NodeCall Ms) (HostReads Ms))) :
    ((internet wire).run (internetStart configs) actions).Ok (NetFrameOk configs) (NodeOk configs)
      (RecordOk configs) :=
  (internet_keeps wire configs).run (internetStart_ok configs) actions

end Steps

end Network

end MagiStack
