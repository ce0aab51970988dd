import MagiStack.Core.CFloat
import MagiStack.Layer2.Arp
import MagiStack.Layer3.Icmp
import MagiStack.Layer3.Router
import MagiStack.Library.RingBuffer

/-!
# RouterForward — a router at work

Embedding of the forwarding half of `layer3/router.c`.  Outside realtime mode `interface_send` hands a
frame to the other end at once, and whatever follows from it, calls of this router included, happens before
the call that sent it goes on.  A call is therefore given in pieces that end with `interface_send`; what
is left of the calls under way is a stack of tasks, and other calls may come between any two pieces.  In
realtime mode they come only when the stack is empty.

A packet that is forwarded carries along the packet it was when it came in, and the number of its injection,
which the code does not keep.
-/

namespace MagiStack

def routerPendingQueueMaxEntries : Nat := 128
def routerArpMaxAttempts : Nat := 3
def routerArpRetryIntervalMs : Nat := 1000

/-! ## State -/

/-- Where a packet that is forwarded comes from. -/
structure RouterCargo where
  incoming : Ipv4Packet
  number : Option Nat
  deriving DecidableEq

/-- `RouterPendingPacket`, with where its packet comes from. -/
structure RouterPendingPacket (Ms : Type) where
  nextHopIp : IpAddress
  outInterface : Int
  vlanId : Int
  packet : Ipv4Packet
  arpAttempts : Nat
  arpLastAttemptMs : Ms
  cargo : Option RouterCargo

/-- What is left of a call: the test after the first ARP request, and the three loops. -/
inductive RouterTask (Ms : Type)
  | recheck (nextHopIp : IpAddress) (pollMs : Ms)
  | flush (resolvedIp : IpAddress)
  | drop (nextHopIp : IpAddress)
  | poll (nowMs : Ms)

/-- A frame handed to `interface_send`, or an ICMP error that is made about a packet. -/
inductive RouterEvent
  | frame (port : Fin maxPort) (raw : List UInt8) (cargo : Option RouterCargo)
  | icmpError (type code : UInt8) (about : Ipv4Packet)
  deriving DecidableEq

/-- A `Router` with its interfaces and the calls that are under way. -/
structure RouterState (Ms : Type) where
  numInterfaces : Nat
  numInterfaces_le : numInterfaces ≤ maxPort
  macs : Fin maxPort → MacAddress
  config : Router
  arpTable : ArpTable
  arpEntryVlans : Nat → Int
  pendingQueue : RingQueue (RouterPendingPacket Ms) routerPendingQueueMaxEntries
  tasks : List (RouterTask Ms)

section Functions

variable {Ms : Type}

/-- `router_init_with_macs`; the slots of the queue hold anything. -/
def routerStateInit (numInterfaces : Nat) (h : numInterfaces ≤ maxPort)
    (macs : Fin maxPort → MacAddress) (items : Nat → RouterPendingPacket Ms) : RouterState Ms :=
  { numInterfaces := numInterfaces
    numInterfaces_le := h
    macs := macs
    config := routerInit
    arpTable := arpTableInit
    arpEntryVlans := fun _ => 0
    pendingQueue := .empty items (by decide)
    tasks := [] }

/-- The packets that wait, in the order of the queue. -/
def RouterState.pending (r : RouterState Ms) : List (RouterPendingPacket Ms) :=
  r.pendingQueue.toList

/-- A task on top of the stack. -/
def RouterState.pushTask (r : RouterState Ms) (task : RouterTask Ms) : RouterState Ms :=
  { r with tasks := task :: r.tasks }

/-! ## Interfaces and routes -/

/-- `ip_is_zero`. -/
def ipIsZero (ip : IpAddress) : Bool :=
  ip.octet0 == 0 && ip.octet1 == 0 && ip.octet2 == 0 && ip.octet3 == 0

/-- `node_get_interface`. -/
def routerInterface (r : RouterState Ms) (portNumber : Int) : Option (Fin maxPort) :=
  if h : 1 ≤ portNumber ∧ portNumber ≤ r.numInterfaces then
    some ⟨(portNumber - 1).toNat, by have := r.numInterfaces_le; omega⟩
  else
    none

/-- `router_arp_index_for_ip`. -/
def routerArpIndexForIp (r : RouterState Ms) (ip : IpAddress) : Option Nat :=
  arpTableFindIndex r.arpTable ip

/-- `router_vlan_for_ip`. -/
def routerVlanForIp (r : RouterState Ms) (ip : IpAddress) (fallbackVlan : Int) : Int :=
  match routerArpIndexForIp r ip with
  | some index => if 0 < r.arpEntryVlans index then r.arpEntryVlans index else fallbackVlan
  | none => fallbackVlan

/-- `router_has_interface_ip`. -/
def routerHasInterfaceIp (r : RouterState Ms) (ip : IpAddress) : Bool :=
  (List.finRange maxPort).any fun i =>
    decide (i.val < r.numInterfaces) && (r.config.interfaceIps i).hasIp &&
      ipOctetsEqualPublic (r.config.interfaceIps i).ipAddress ip

/-- `router_interface_ip_or_zero`. -/
def routerInterfaceIpOrZero (r : RouterState Ms) (portNumber : Int) : IpAddress :=
  match routerInterface r portNumber with
  | some i => if (r.config.interfaceIps i).hasIp then (r.config.interfaceIps i).ipAddress else ipZero
  | none => ipZero

/-- The loop of `router_lookup_route`, with the best entry so far. -/
def routerLookupLoop (dstValue : UInt32) : List RoutingTableEntry → Option RoutingTableEntry → Int →
    Option RoutingTableEntry
  | [], best, _ => best
  | entry :: entries, best, bestPrefix =>
      let mask := ipPrefixToMask entry.destination.prefixLen
      if dstValue &&& mask = ipToU32Public entry.destination &&& mask ∧
          bestPrefix < entry.destination.prefixLen.toNat then
        routerLookupLoop dstValue entries (some entry) entry.destination.prefixLen.toNat
      else
        routerLookupLoop dstValue entries best bestPrefix

/-- `router_lookup_route`. -/
def routerLookupRoute (r : RouterState Ms) (dstIp : IpAddress) : Option RoutingTableEntry :=
  routerLookupLoop (ipToU32Public dstIp) r.config.routingTable none (-1)

/-- The next hop of a route for a packet. -/
def routeNextHop (route : RoutingTableEntry) (packet : Ipv4Packet) : IpAddress :=
  if ipIsZero route.nextHop then packet.dstIp else route.nextHop

/-- `router_learn_arp`. -/
def routerLearnArp (r : RouterState Ms) (message : ArpMessage) (vlanId : Int) : RouterState Ms :=
  match arpTableSet r.arpTable message.senderIp message.senderMac with
  | none => r
  | some arpTable =>
      let r := { r with arpTable := arpTable }
      match routerArpIndexForIp r message.senderIp with
      | some index => { r with arpEntryVlans := Function.update r.arpEntryVlans index vlanId }
      | none => r

/-! ## Frames -/

/-- `router_send_ethernet_frame`: the frame it hands to `interface_send`, `none` when it returns `0`. -/
def routerSendEthernetFrame (r : RouterState Ms) (outInterface vlanId : Int) (dstMac : MacAddress)
    (ethertype : UInt16) (payload : List UInt8) (cargo : Option RouterCargo) : Option RouterEvent :=
  match routerInterface r outInterface with
  | none => none
  | some port =>
      match ethernetCreate dstMac (r.macs port) ethertype payload with
      | none => none
      | some frame =>
          let frame :=
            if 0 < vlanId then (ethernetSetVlan frame (UInt16.ofNat vlanId.toNat)).getD frame else frame
          match ethernetToBytes frame (ethernetVlanHeaderSize + ethernetMaxPayload) with
          | none => none
          | some raw => some (.frame port raw cargo)

/-- `router_send_arp_request`. -/
def routerSendArpRequest (r : RouterState Ms) (outInterface : Int) (targetIp : IpAddress)
    (vlanId : Int) : Option RouterEvent :=
  match routerInterface r outInterface with
  | none => none
  | some port =>
      let senderIp := routerInterfaceIpOrZero r outInterface
      if ipIsZero senderIp then
        none
      else
        match arpMessageToBytes (arpMessageInitRequest (r.macs port) senderIp targetIp)
            arpSerializedSize with
        | none => none
        | some raw =>
            routerSendEthernetFrame r outInterface vlanId MacAddress.broadcast ethernetTypeArp raw none

/-- `router_send_arp_reply`. -/
def routerSendArpReply (r : RouterState Ms) (request : ArpMessage) (outInterface : Int)
    (vlanId : Int) : Option RouterEvent :=
  match routerInterface r outInterface with
  | none => none
  | some port =>
      match arpMessageToBytes
          (arpMessageInitReply (r.macs port) request.targetIp request.senderMac request.senderIp)
          arpSerializedSize with
      | none => none
      | some raw =>
          routerSendEthernetFrame r outInterface vlanId request.senderMac ethernetTypeArp raw none

/-! ## The queue -/

/-- `router_queue_pending_packet`; `none` when it returns `0`. -/
def routerQueuePendingPacket (r : RouterState Ms) (item : RouterPendingPacket Ms) :
    Option (RouterState Ms) :=
  if h : r.pendingQueue.size < routerPendingQueueMaxEntries then
    some { r with pendingQueue := r.pendingQueue.push h item }
  else
    none

/-- A packet waits for an address. -/
def RouterPendingPacket.waitsFor (nextHopIp : IpAddress) (item : RouterPendingPacket Ms) : Bool :=
  ipOctetsEqualPublic item.nextHopIp nextHopIp

/-- `router_dequeue_pending_for_ip`. -/
def routerDequeuePendingForIp (r : RouterState Ms) (nextHopIp : IpAddress) :
    Option (RouterPendingPacket Ms) × RouterState Ms :=
  let (found, queue) := r.pendingQueue.takeFirst (RouterPendingPacket.waitsFor nextHopIp)
  (found, { r with pendingQueue := queue })

/-- `router_find_pending_for_ip`. -/
def routerFindPendingForIp (r : RouterState Ms) (nextHopIp : IpAddress) :
    Option (RouterPendingPacket Ms) :=
  r.pending.find? (RouterPendingPacket.waitsFor nextHopIp)

/-- A waiting packet after a retry for an address. -/
def RouterPendingPacket.retried (nextHopIp : IpAddress) (arpAttempts : Nat) (attemptMs : Ms)
    (item : RouterPendingPacket Ms) : RouterPendingPacket Ms :=
  if item.waitsFor nextHopIp then
    { item with arpAttempts := arpAttempts, arpLastAttemptMs := attemptMs }
  else
    item

/-- `router_set_arp_attempt_for_ip`. -/
def routerSetArpAttemptForIp (r : RouterState Ms) (nextHopIp : IpAddress) (arpAttempts : Nat)
    (attemptMs : Ms) : RouterState Ms :=
  { r with
    pendingQueue := r.pendingQueue.modifyAll (.retried nextHopIp arpAttempts attemptMs) }

section Times

variable [SimTime Ms]

/-! ## Sending -/

/-- `router_send_packet_to_next_hop` up to its `interface_send`; what comes after it is a task. -/
def routerSendPacketToNextHop (r : RouterState Ms) (packet : Ipv4Packet) (nextHopIp : IpAddress)
    (outInterface : Int) (nowMs : Ms) (cargo : Option RouterCargo) :
    RouterState Ms × List RouterEvent :=
  match routerInterface r outInterface with
  | none => (r, [])
  | some port =>
      let vlanId := routerVlanForIp r nextHopIp (r.config.interfaceVlans port)
      match arpTableGetConst r.arpTable nextHopIp with
      | some nextHopMac =>
          match ipv4ToBytes packet (ipv4HeaderSize + ipv4MaxPayload) with
          | none => (r, [])
          | some rawIp =>
              (r, (routerSendEthernetFrame r outInterface vlanId nextHopMac ethernetTypeIpv4 rawIp
                cargo).toList)
      | none =>
          let existingPending := routerFindPendingForIp r nextHopIp
          match routerQueuePendingPacket r
              { nextHopIp := nextHopIp
                outInterface := outInterface
                vlanId := vlanId
                packet := packet
                arpAttempts := existingPending.elim 1 RouterPendingPacket.arpAttempts
                arpLastAttemptMs := existingPending.elim nowMs RouterPendingPacket.arpLastAttemptMs
                cargo := cargo } with
          | none => (r, [])
          | some r =>
              if existingPending.isSome then
                (r, [])
              else
                match routerSendArpRequest r outInterface nextHopIp vlanId with
                | none => (r, [])
                | some event =>
                    (r.pushTask (.recheck nextHopIp
                      (SimTime.addMs nowMs (routerArpRetryIntervalMs * (routerArpMaxAttempts + 1)))),
                      [event])

/-- `router_send_ipv4_packet`. -/
def routerSendIpv4Packet (r : RouterState Ms) (packet : Ipv4Packet) (nowMs : Ms) :
    RouterState Ms × List RouterEvent :=
  match routerLookupRoute r packet.dstIp with
  | none => (r, [])
  | some route =>
      routerSendPacketToNextHop r packet (routeNextHop route packet) route.outInterface nowMs none

/-- `router_send_icmp_error`. -/
def routerSendIcmpError (r : RouterState Ms) (original : Ipv4Packet) (type code : UInt8)
    (nowMs : Ms) : RouterState Ms × List RouterEvent :=
  match routerLookupRoute r original.srcIp with
  | none => (r, [])
  | some route =>
      let srcIp := routerInterfaceIpOrZero r route.outInterface
      if ipIsZero srcIp then
        (r, [])
      else
        let originalRaw := (ipv4ToBytes original (ipv4HeaderSize + ipv4MaxPayload)).getD []
        match icmpCreate type code 0 0 (originalRaw.take 28) with
        | none => (r, [])
        | some icmp =>
            match icmpToBytes icmp (icmpHeaderSize + icmpMaxPayload) with
            | none => (r, [])
            | some icmpRaw =>
                match ipv4Create srcIp original.srcIp ipv4DefaultTtl ipv4ProtocolIcmp icmpRaw with
                | none => (r, [])
                | some response =>
                    let (r, events) := routerSendIpv4Packet r response nowMs
                    (r, .icmpError type code original :: events)

/-- `router_can_send_error_for_packet`. -/
def routerCanSendErrorForPacket (packet : Ipv4Packet) : Bool :=
  if packet.protocol ≠ ipv4ProtocolIcmp then
    true
  else
    match icmpFromBytes packet.payload with
    | none => true
    | some icmp => icmp.type != icmpDestUnreachable && icmp.type != icmpTimeExceeded

/-- `router_forward_ipv4_packet`. -/
def routerForwardIpv4Packet (r : RouterState Ms) (packet : Ipv4Packet) (nowMs : Ms)
    (number : Option Nat) : RouterState Ms × List RouterEvent :=
  if packet.ttl ≤ 1 then
    routerSendIcmpError r packet icmpTimeExceeded 0 nowMs
  else
    let forwarded := { packet with ttl := packet.ttl - 1 }
    match routerLookupRoute r forwarded.dstIp with
    | none => routerSendIcmpError r forwarded icmpDestUnreachable 0 nowMs
    | some route =>
        routerSendPacketToNextHop r forwarded (routeNextHop route forwarded) route.outInterface nowMs
          (some { incoming := packet, number := number })

/-- `router_handle_local_ipv4`. -/
def routerHandleLocalIpv4 (r : RouterState Ms) (packet : Ipv4Packet) (nowMs : Ms) :
    RouterState Ms × List RouterEvent :=
  if packet.protocol ≠ ipv4ProtocolIcmp then
    (r, [])
  else
    match icmpFromBytes packet.payload with
    | none => (r, [])
    | some request =>
        if icmpValidateChecksum request = false then
          (r, [])
        else if request.type = icmpEchoRequest then
          match icmpCreate icmpEchoReply 0 request.identifier request.sequence request.payload with
          | none => (r, [])
          | some reply =>
              match icmpToBytes reply (icmpHeaderSize + icmpMaxPayload) with
              | none => (r, [])
              | some icmpRaw =>
                  match ipv4Create packet.dstIp packet.srcIp ipv4DefaultTtl ipv4ProtocolIcmp icmpRaw with
                  | none => (r, [])
                  | some response => routerSendIpv4Packet r response nowMs
        else
          (r, [])

/-- `router_send_icmp_echo_request`. -/
def routerSendIcmpEchoRequest (r : RouterState Ms) (targetIp : IpAddress) (ttl : UInt8)
    (sequence : UInt16) (nowMs : Ms) : RouterState Ms × List RouterEvent :=
  match routerLookupRoute r targetIp with
  | none => (r, [])
  | some route =>
      let srcIp := routerInterfaceIpOrZero r route.outInterface
      if ipIsZero srcIp then
        (r, [])
      else
        let payload := (List.range 32).map UInt8.ofNat
        match icmpCreate icmpEchoRequest 0 0xBEEF sequence payload with
        | none => (r, [])
        | some icmp =>
            match icmpToBytes icmp (icmpHeaderSize + icmpMaxPayload) with
            | none => (r, [])
            | some icmpRaw =>
                match ipv4Create srcIp targetIp ttl ipv4ProtocolIcmp icmpRaw with
                | none => (r, [])
                | some packet => routerSendIpv4Packet r packet nowMs

/-! ## Receiving -/

/-- `router_receive` after the ports' VLAN has been noted and the address of the frame has been checked:
the ARP branch. -/
def routerReceiveArp (r : RouterState Ms) (port : Fin maxPort) (vlanId : Int) (arp : ArpMessage) :
    RouterState Ms × List RouterEvent :=
  let r := routerLearnArp r arp vlanId
  if arp.opcode = .request ∧ routerHasInterfaceIp r arp.targetIp = true then
    (r, (routerSendArpReply r arp (interfacePortNumber port) vlanId).toList)
  else if arp.opcode = .reply then
    (r.pushTask (.flush arp.senderIp), [])
  else
    (r, [])

/-- The packet with which `router_receive` comes to the end of its IPv4 branch. -/
def routerIpv4Packet (frame : EthernetFrame) : Option Ipv4Packet :=
  if frame.ethertype = ethernetTypeIpv4 then
    (ipv4FromBytes frame.payload).filter ipv4ValidateChecksum
  else
    none

/-- The packet `router_receive` finds in a frame. -/
def routerReceivedPacket (r : RouterState Ms) (port : Fin maxPort) (raw : List UInt8) :
    Option Ipv4Packet :=
  (ethernetFromBytes raw).bind fun frame =>
    if !ethernetIsBroadcast frame.dstMac && !macEqual frame.dstMac (r.macs port) then
      none
    else
      routerIpv4Packet frame

/-- `router_receive` takes the VLAN of a frame for the one of its interface. -/
def routerNoteVlan (r : RouterState Ms) (port : Fin maxPort) (vlanId : Int) : RouterState Ms :=
  { r with
    config := { r.config with
      interfaceVlans :=
        if 0 < vlanId then Function.update r.config.interfaceVlans port vlanId
        else r.config.interfaceVlans } }

/-- `router_receive`. -/
def routerReceive (r : RouterState Ms) (port : Fin maxPort) (raw : List UInt8) (nowMs : Ms)
    (number : Option Nat) : RouterState Ms × List RouterEvent :=
  match ethernetFromBytes raw with
  | none => (r, [])
  | some frame =>
      let vlanId : Int := if frame.hasVlan then frame.vlanId.toNat else 0
      let r := routerNoteVlan r port vlanId
      if !ethernetIsBroadcast frame.dstMac && !macEqual frame.dstMac (r.macs port) then
        (r, [])
      else if frame.ethertype = ethernetTypeArp then
        match arpMessageFromBytes frame.payload with
        | none => (r, [])
        | some arp => routerReceiveArp r port vlanId arp
      else
        match routerIpv4Packet frame with
        | none => (r, [])
        | some packet =>
            if routerHasInterfaceIp r packet.dstIp then
              routerHandleLocalIpv4 r packet nowMs
            else
              routerForwardIpv4Packet r packet nowMs number

/-! ## The calls under way go on -/

/-- The retry of a packet is due. -/
def RouterPendingPacket.isDue (nowMs : Ms) (candidate : RouterPendingPacket Ms) : Bool :=
  SimTime.leMs (SimTime.addMs candidate.arpLastAttemptMs routerArpRetryIntervalMs) nowMs

/-- A round of the loop of `router_flush_pending_packets`. -/
def routerFlushRound (r : RouterState Ms) (resolvedIp : IpAddress) (nowMs : Ms) :
    RouterState Ms × List RouterEvent :=
  match routerDequeuePendingForIp r resolvedIp with
  | (none, r) => (r, [])
  | (some pending, r) =>
      routerSendPacketToNextHop (r.pushTask (.flush resolvedIp)) pending.packet pending.nextHopIp
        pending.outInterface nowMs pending.cargo

/-- A round of the loop of `router_poll_arp` over the packets of a next hop that is given up. -/
def routerDropRound (r : RouterState Ms) (nextHopIp : IpAddress) (nowMs : Ms) :
    RouterState Ms × List RouterEvent :=
  match routerDequeuePendingForIp r nextHopIp with
  | (none, r) => (r, [])
  | (some failed, r) =>
      let r := r.pushTask (.drop nextHopIp)
      if routerCanSendErrorForPacket failed.packet then
        routerSendIcmpError r failed.packet icmpDestUnreachable 1 nowMs
      else
        (r, [])

/-- A round of the loop of `router_poll_arp`. -/
def routerPollRound (r : RouterState Ms) (pollMs : Ms) : RouterState Ms × List RouterEvent :=
  match r.pending.find? (RouterPendingPacket.isDue pollMs) with
  | none => (r, [])
  | some pending =>
      let r := r.pushTask (.poll pollMs)
      if routerArpMaxAttempts ≤ pending.arpAttempts then
        (r.pushTask (.drop pending.nextHopIp), [])
      else
        let r := routerSetArpAttemptForIp r pending.nextHopIp (pending.arpAttempts + 1)
          (SimTime.addMs pending.arpLastAttemptMs routerArpRetryIntervalMs)
        (r, (routerSendArpRequest r pending.outInterface pending.nextHopIp pending.vlanId).toList)

/-- The task on top of the stack goes on; `nowMs` is what `sim_clock_now_ms` gives. -/
def routerResume (r : RouterState Ms) (realtime : Bool) (nowMs : Ms) :
    RouterState Ms × List RouterEvent :=
  match r.tasks with
  | [] => (r, [])
  | task :: tasks =>
      let r := { r with tasks := tasks }
      match task with
      | .recheck nextHopIp pollMs =>
          if !realtime && (arpTableGetConst r.arpTable nextHopIp).isNone then
            (r.pushTask (.poll pollMs), [])
          else
            (r, [])
      | .flush resolvedIp => routerFlushRound r resolvedIp nowMs
      | .drop nextHopIp => routerDropRound r nextHopIp nowMs
      | .poll pollMs => routerPollRound r pollMs

/-! ## Steps -/

/-- A call, or the next piece of the one on top of the stack. -/
inductive RouterAction (Ms : Type)
  | receive (port : Fin maxPort) (raw : List UInt8) (nowMs : Ms) (number : Option Nat)
  | poll (nowMs : Ms)
  | echo (targetIp : IpAddress) (ttl : UInt8) (sequence : UInt16) (nowMs : Ms)
  | resume (realtime : Bool) (nowMs : Ms)
  | configure (config : Router)

def routerAct (r : RouterState Ms) : RouterAction Ms → RouterState Ms × List RouterEvent
  | .receive port raw nowMs number => routerReceive r port raw nowMs number
  | .poll nowMs => (r.pushTask (.poll nowMs), [])
  | .echo targetIp ttl sequence nowMs => routerSendIcmpEchoRequest r targetIp ttl sequence nowMs
  | .resume realtime nowMs => routerResume r realtime nowMs
  | .configure config => ({ r with config := config }, [])

end Times

/-! ## What sending does -/

/-- A frame that `router_send_ethernet_frame` hands on carries its payload and parses back. -/
theorem routerSendEthernetFrame_eq_some {r : RouterState Ms} {outInterface vlanId : Int}
    {dstMac : MacAddress} {ethertype : UInt16} {payload : List UInt8} {cargo : Option RouterCargo}
    {event : RouterEvent} (htype : ethertype ≠ ethernetTypeVlan)
    (h : routerSendEthernetFrame r outInterface vlanId dstMac ethertype payload cargo = some event) :
    ∃ port frame, event = .frame port (ethernetBytes frame) cargo ∧
      frame.Serializable ∧ frame.ethertype = ethertype ∧ frame.payload = payload := by
  rw [routerSendEthernetFrame] at h
  split at h
  · cases h
  rename_i port hport
  rw [ethernetCreate] at h
  split at h
  · cases h
  rename_i frame hframe
  split at hframe
  · cases hframe
  rename_i hpayload
  have hpayload' := Nat.le_of_not_lt hpayload
  have hplain : frame.Serializable ∧ frame.ethertype = ethertype ∧ frame.payload = payload := by
    cases hframe
    exact ⟨⟨hpayload', fun hno => (nomatch hno), fun _ => rfl, fun _ => htype⟩, rfl, rfl⟩
  -- A tag is put on for a network; the payload stays as it is.
  have hout : (if 0 < vlanId then (ethernetSetVlan frame (UInt16.ofNat vlanId.toNat)).getD frame
      else frame).Serializable ∧
      (if 0 < vlanId then (ethernetSetVlan frame (UInt16.ofNat vlanId.toNat)).getD frame
        else frame).ethertype = ethertype ∧
      (if 0 < vlanId then (ethernetSetVlan frame (UInt16.ofNat vlanId.toNat)).getD frame
        else frame).payload = payload := by
    split
    · cases htag : ethernetSetVlan frame (UInt16.ofNat vlanId.toNat) with
      | none => exact hplain
      | some tagged =>
          rcases ethernetSetVlan_serializable hplain.1 htag with ⟨hserial, hethertype, hpay⟩
          exact ⟨hserial, hethertype.trans hplain.2.1, hpay.trans hplain.2.2⟩
    · exact hplain
  dsimp only at h
  generalize (if 0 < vlanId then (ethernetSetVlan frame (UInt16.ofNat vlanId.toNat)).getD frame
    else frame) = out at h hout
  split at h
  · cases h
  rename_i raw hraw
  rw [ethernetToBytes_eq (hout.1.payload_le)] at hraw
  cases hraw
  cases h
  exact ⟨port, out, rfl, hout⟩

/-- What the router hands on for a packet: nothing, a frame with the packet, or, for a packet that has to
wait, at most a frame without one. -/
inductive RouterSends (r : RouterState Ms) (packet : Ipv4Packet) (cargo : Option RouterCargo) :
    RouterState Ms × List RouterEvent → Prop
  | nothing : RouterSends r packet cargo (r, [])
  | sent (port : Fin maxPort) (frame : EthernetFrame) (hframe : frame.Serializable)
      (htype : frame.ethertype = ethernetTypeIpv4) (hpayload : frame.payload = ipv4Bytes packet)
      (hlength : packet.payload.length ≤ ipv4MaxPayload) :
      RouterSends r packet cargo (r, [.frame port (ethernetBytes frame) cargo])
  | waits (r' : RouterState Ms) (item : RouterPendingPacket Ms) (events : List RouterEvent)
      (hpacket : item.packet = packet) (hcargo : item.cargo = cargo)
      (hpending : r'.pending = r.pending ++ [item])
      (hevents : ∀ event ∈ events, ∃ port raw, event = .frame port raw none) :
      RouterSends r packet cargo (r', events)

theorem routerSendArpRequest_eq_some {r : RouterState Ms} {outInterface : Int} {targetIp : IpAddress}
    {vlanId : Int} {event : RouterEvent}
    (h : routerSendArpRequest r outInterface targetIp vlanId = some event) :
    ∃ port raw, event = .frame port raw none := by
  rw [routerSendArpRequest] at h
  split at h
  · cases h
  dsimp only at h
  split at h
  · cases h
  split at h
  · cases h
  rcases routerSendEthernetFrame_eq_some (by decide) h with ⟨port, frame, rfl, -⟩
  exact ⟨port, _, rfl⟩

theorem routerSendArpReply_eq_some {r : RouterState Ms} {request : ArpMessage} {outInterface : Int}
    {vlanId : Int} {event : RouterEvent}
    (h : routerSendArpReply r request outInterface vlanId = some event) :
    ∃ port raw, event = .frame port raw none := by
  rw [routerSendArpReply] at h
  split at h
  · cases h
  split at h
  · cases h
  rcases routerSendEthernetFrame_eq_some (by decide) h with ⟨port, frame, rfl, -⟩
  exact ⟨port, _, rfl⟩

theorem routerQueuePendingPacket_eq_some {r r' : RouterState Ms} {item : RouterPendingPacket Ms}
    (h : routerQueuePendingPacket r item = some r') : r'.pending = r.pending ++ [item] := by
  rw [routerQueuePendingPacket] at h
  split at h
  · rename_i hroom
    cases h
    exact RingQueue.toList_push r.pendingQueue hroom item
  · cases h

theorem ipv4ToBytes_eq_some {packet : Ipv4Packet} {raw : List UInt8}
    (h : ipv4ToBytes packet (ipv4HeaderSize + ipv4MaxPayload) = some raw) :
    raw = ipv4Bytes packet ∧ packet.payload.length ≤ ipv4MaxPayload := by
  by_cases hlength : packet.payload.length ≤ ipv4MaxPayload
  · rw [ipv4ToBytes_eq hlength] at h
    exact ⟨(Option.some.inj h).symm, hlength⟩
  · rw [ipv4ToBytes, if_pos (Nat.lt_of_not_le hlength)] at h
    cases h

theorem routerSendPacketToNextHop_sends [SimTime Ms] (r : RouterState Ms) (packet : Ipv4Packet)
    (nextHopIp : IpAddress) (outInterface : Int) (nowMs : Ms) (cargo : Option RouterCargo) :
    RouterSends r packet cargo
      (routerSendPacketToNextHop r packet nextHopIp outInterface nowMs cargo) := by
  rw [routerSendPacketToNextHop]
  split
  · exact .nothing
  dsimp only
  split
  · split
    · exact .nothing
    rename_i rawIp hraw
    rcases ipv4ToBytes_eq_some hraw with ⟨rfl, hlength⟩
    cases hframe : routerSendEthernetFrame r outInterface _ _ ethernetTypeIpv4 (ipv4Bytes packet)
        cargo with
    | none => exact .nothing
    | some event =>
        rcases routerSendEthernetFrame_eq_some (by decide) hframe with
          ⟨port, frame, rfl, hserial, htype, hpayload⟩
        exact .sent port frame hserial htype hpayload hlength
  split
  · exact .nothing
  -- The next hop is not known: the packet waits, and a request goes out if none waited before.
  rename_i queued hqueued
  have hpending := routerQueuePendingPacket_eq_some hqueued
  split
  · exact .waits queued _ [] rfl rfl hpending fun event hevent => (nomatch hevent)
  split
  · exact .waits queued _ [] rfl rfl hpending fun event hevent => (nomatch hevent)
  · rename_i event hrequest
    refine .waits _ _ [event] rfl rfl hpending fun other hother => ?_
    rw [List.mem_singleton.mp hother]
    exact routerSendArpRequest_eq_some hrequest

theorem routerSendIpv4Packet_sends [SimTime Ms] (r : RouterState Ms) (packet : Ipv4Packet)
    (nowMs : Ms) : RouterSends r packet none (routerSendIpv4Packet r packet nowMs) := by
  rw [routerSendIpv4Packet]
  split
  · exact .nothing
  · exact routerSendPacketToNextHop_sends r packet _ _ nowMs none

end Functions

end MagiStack
