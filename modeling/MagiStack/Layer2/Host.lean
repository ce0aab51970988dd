import MagiStack.Core.CFloat
import MagiStack.Layer2.Arp
import MagiStack.Layer3.Router
import MagiStack.Library.RingBuffer

/-!
# Host — address resolution of a host

Embedding of the part of `layer2/host.c` that sends packets: `host_send_l3_packet`, the queue of packets
that wait for an address, `host_poll_arp`, and the ARP branch of `host_receive`.  The mode is realtime, so
`interface_send` only puts a frame into flight and nothing comes back before a call has returned.

The log is not kept by the code: it lists the frames handed to `interface_send` and what becomes of queued
packets, the newest last.
-/

namespace MagiStack

def hostPendingQueueMaxEntries : Nat := 64
def hostArpMaxAttempts : Nat := 3
def hostArpRetryIntervalMs : Nat := 1000

/-- `HostPendingPacket`; `number` is the call of `host_send_l3_packet` it comes from, which the code does
not keep. -/
structure HostPendingPacket (Ms : Type) where
  targetIp : IpAddress
  ethertype : UInt16
  payload : List UInt8
  payload_le : payload.length ≤ ethernetMaxPayload
  arpAttempts : Nat
  arpLastAttemptMs : Ms
  number : Nat

/-- What a host does that can be seen from outside, and the ends of its resolutions. -/
inductive HostEvent
  | arpRequest (target : IpAddress) (frame : List UInt8)
  | arpReply (frame : List UInt8)
  | packet (number : Nat) (nextHop : Option IpAddress) (frame : List UInt8)
  | flushed (resolved : IpAddress)
  | dropped (number : Nat) (nextHop : IpAddress)
  | failed (target : IpAddress)
  deriving DecidableEq

/-- The part of `Host` that resolves addresses, with its first interface. -/
structure ArpHost (Ms : Type) where
  hasIp : Bool
  ipAddress : IpAddress
  defaultGateway : IpAddress
  macAddress : MacAddress
  arpTable : ArpTable
  pendingQueue : RingBuffer (HostPendingPacket Ms) hostPendingQueueMaxEntries
  log : List HostEvent

/-- The address configuration of a host. -/
structure ArpHostConfig where
  hasIp : Bool
  ipAddress : IpAddress
  defaultGateway : IpAddress
  macAddress : MacAddress

section Functions

variable {Ms : Type}

/-- `host_init_with_macs`, and the address the host is given; the slots of the queue hold anything. -/
def hostInit (config : ArpHostConfig) (items : Nat → HostPendingPacket Ms) : ArpHost Ms :=
  { hasIp := config.hasIp
    ipAddress := config.ipAddress
    defaultGateway := config.defaultGateway
    macAddress := config.macAddress
    arpTable := arpTableInit
    pendingQueue := .empty items
    log := [] }

/-- The log with one more event. -/
def ArpHost.record (host : ArpHost Ms) (event : HostEvent) : ArpHost Ms :=
  { host with log := host.log ++ [event] }

/-- The packets that wait, in the order of the queue. -/
def ArpHost.pending (host : ArpHost Ms) : List (HostPendingPacket Ms) :=
  host.pendingQueue.toList

/-! ## Frames -/

/-- `host_is_same_subnet`. -/
def hostIsSameSubnet (host : ArpHost Ms) (targetIp : IpAddress) : Bool :=
  host.hasIp &&
    ipToU32Public host.ipAddress &&& ipPrefixToMask host.ipAddress.prefixLen ==
      ipToU32Public targetIp &&& ipPrefixToMask host.ipAddress.prefixLen

/-- `host_send_ethernet_frame`; the frame is logged as an event. -/
def hostSendEthernetFrame (host : ArpHost Ms) (dstMac : MacAddress) (ethertype : UInt16)
    (payload : List UInt8) (event : List UInt8 → HostEvent) : Option (ArpHost Ms) :=
  match ethernetCreate dstMac host.macAddress ethertype payload with
  | none => none
  | some frame =>
      match ethernetToBytes frame (ethernetVlanHeaderSize + ethernetMaxPayload) with
      | none => none
      | some raw => some (host.record (event raw))

/-- `host_send_arp_request`. -/
def hostSendArpRequest (host : ArpHost Ms) (targetIp : IpAddress) : Option (ArpHost Ms) :=
  if host.hasIp then
    match arpMessageToBytes (arpMessageInitRequest host.macAddress host.ipAddress targetIp)
        arpSerializedSize with
    | none => none
    | some raw =>
        hostSendEthernetFrame host MacAddress.broadcast ethernetTypeArp raw (.arpRequest targetIp)
  else
    none

/-- `host_send_arp_reply`. -/
def hostSendArpReply (host : ArpHost Ms) (request : ArpMessage) : Option (ArpHost Ms) :=
  if host.hasIp then
    match arpMessageToBytes
        (arpMessageInitReply host.macAddress host.ipAddress request.senderMac request.senderIp)
        arpSerializedSize with
    | none => none
    | some raw => hostSendEthernetFrame host request.senderMac ethernetTypeArp raw .arpReply
  else
    none

/-! ## The queue -/

/-- `host_queue_pending_packet_with_arp_state`. -/
def hostQueuePendingPacketWithArpState (host : ArpHost Ms) (targetIp : IpAddress) (ethertype : UInt16)
    (payload : List UInt8) (arpAttempts : Nat) (arpLastAttemptMs : Ms) (number : Nat) :
    Option (ArpHost Ms) :=
  if h : payload.length ≤ ethernetMaxPayload then
    if hostPendingQueueMaxEntries ≤ host.pendingQueue.size then
      none
    else
      some
        { host with
          pendingQueue := host.pendingQueue.push
            { targetIp := targetIp
              ethertype := ethertype
              payload := payload
              payload_le := h
              arpAttempts := arpAttempts
              arpLastAttemptMs := arpLastAttemptMs
              number := number } }
  else
    none

/-- A packet waits for an address. -/
def HostPendingPacket.waitsFor (targetIp : IpAddress) (packet : HostPendingPacket Ms) : Bool :=
  ipOctetsEqualPublic packet.targetIp targetIp

/-- `host_dequeue_pending_packet_for_ip`. -/
def hostDequeuePendingPacketForIp (host : ArpHost Ms) (targetIp : IpAddress) :
    Option (HostPendingPacket Ms) × ArpHost Ms :=
  let (found, queue) := host.pendingQueue.takeFirst (HostPendingPacket.waitsFor targetIp)
  (found, { host with pendingQueue := queue })

/-- `host_find_pending_for_ip`. -/
def hostFindPendingForIp (host : ArpHost Ms) (targetIp : IpAddress) : Option (HostPendingPacket Ms) :=
  host.pending.find? (HostPendingPacket.waitsFor targetIp)

/-- `host_set_arp_attempt_for_ip`. -/
def hostSetArpAttemptForIp (host : ArpHost Ms) (targetIp : IpAddress) (arpAttempts : Nat)
    (attemptMs : Ms) : ArpHost Ms :=
  { host with
    pendingQueue := host.pendingQueue.modifyAll fun packet =>
      if packet.waitsFor targetIp then
        { packet with arpAttempts := arpAttempts, arpLastAttemptMs := attemptMs }
      else
        packet }

/-- `host_learn_arp`; `none` when it returns `0`. -/
def hostLearnArp (host : ArpHost Ms) (message : ArpMessage) : Option (ArpHost Ms) :=
  (arpTableSet host.arpTable message.senderIp message.senderMac).map fun arpTable =>
    { host with arpTable := arpTable }

/-! ## Sending -/

/-- The limited broadcast address. -/
def ipIsBroadcast (ip : IpAddress) : Bool :=
  ip.octet0 == 255 && ip.octet1 == 255 && ip.octet2 == 255 && ip.octet3 == 255

/-- `next_hop_ip` of `host_send_l3_packet`. -/
def hostNextHop (host : ArpHost Ms) (targetIp : IpAddress) : IpAddress :=
  if hostIsSameSubnet host targetIp then targetIp else host.defaultGateway

/-- `host_send_l3_packet`: what it returns, and the host after it. -/
def hostSendL3Packet (host : ArpHost Ms) (targetIp : IpAddress) (ethertype : UInt16)
    (payload : List UInt8) (nowMs : Ms) (number : Nat) : Bool × ArpHost Ms :=
  if ethernetMaxPayload < payload.length then
    (false, host)
  else if ipIsBroadcast targetIp then
    match hostSendEthernetFrame host MacAddress.broadcast ethertype payload (.packet number none) with
    | none => (false, host)
    | some host => (true, host)
  else if !host.hasIp then
    (false, host)
  else
    let nextHopIp := hostNextHop host targetIp
    match arpTableGetConst host.arpTable nextHopIp with
    | some nextHopMac =>
        match hostSendEthernetFrame host nextHopMac ethertype payload
            (.packet number (some nextHopIp)) with
        | none => (false, host)
        | some host => (true, host)
    | none =>
        let existingPending := hostFindPendingForIp host nextHopIp
        match hostQueuePendingPacketWithArpState host nextHopIp ethertype payload
            (existingPending.elim 1 HostPendingPacket.arpAttempts)
            (existingPending.elim nowMs HostPendingPacket.arpLastAttemptMs) number with
        | none => (false, host)
        | some host =>
            if existingPending.isSome then
              (true, host)
            else
              match hostSendArpRequest host nextHopIp with
              | none => (false, host)
              | some host => (true, host)

/-- The loop of `host_flush_pending_packets`.  A queue of `fuel` packets is empty after `fuel` rounds. -/
def hostFlushLoop (resolvedIp : IpAddress) (mac : MacAddress) : Nat → Nat → ArpHost Ms → Nat × ArpHost Ms
  | 0, sent, host => (sent, host)
  | fuel + 1, sent, host =>
      match hostDequeuePendingPacketForIp host resolvedIp with
      | (none, host) => (sent, host)
      | (some packet, host) =>
          match hostSendEthernetFrame host mac packet.ethertype packet.payload
              (.packet packet.number (some packet.targetIp)) with
          | none => hostFlushLoop resolvedIp mac fuel sent host
          | some host => hostFlushLoop resolvedIp mac fuel (sent + 1) host

/-- `host_flush_pending_packets`: what it returns, and the host after it. -/
def hostFlushPendingPackets (host : ArpHost Ms) (resolvedIp : IpAddress) : Nat × ArpHost Ms :=
  match arpTableGetConst host.arpTable resolvedIp with
  | none => (0, host)
  | some mac =>
      hostFlushLoop resolvedIp mac host.pendingQueue.size 0 (host.record (.flushed resolvedIp))

/-! ## Retries -/

/-- The loop that drops the packets for an address. -/
def hostDropLoop (targetIp : IpAddress) : Nat → ArpHost Ms → ArpHost Ms
  | 0, host => host
  | fuel + 1, host =>
      match hostDequeuePendingPacketForIp host targetIp with
      | (none, host) => host
      | (some failed, host) =>
          hostDropLoop targetIp fuel (host.record (.dropped failed.number failed.targetIp))

section Times

variable [SimTime Ms]

/-- The retry of a packet is due. -/
def HostPendingPacket.isDue (nowMs : Ms) (candidate : HostPendingPacket Ms) : Bool :=
  decide (0 < candidate.arpAttempts) &&
    SimTime.leMs (SimTime.addMs candidate.arpLastAttemptMs hostArpRetryIntervalMs) nowMs

/-- The loop of `host_poll_arp`. -/
def hostPollArpLoop (nowMs : Ms) : Nat → ArpHost Ms → ArpHost Ms
  | 0, host => host
  | fuel + 1, host =>
      match host.pending.find? (HostPendingPacket.isDue nowMs) with
      | none => host
      | some pending =>
          let targetIp := pending.targetIp
          if hostArpMaxAttempts ≤ pending.arpAttempts then
            hostPollArpLoop nowMs fuel
              ((hostDropLoop targetIp host.pendingQueue.size host).record (.failed targetIp))
          else
            let host := hostSetArpAttemptForIp host targetIp (pending.arpAttempts + 1)
              (SimTime.addMs pending.arpLastAttemptMs hostArpRetryIntervalMs)
            hostPollArpLoop nowMs fuel ((hostSendArpRequest host targetIp).getD host)

/-- `host_poll_arp`; `hostPollArp_settled` says that its loop has come to an end. -/
def hostPollArp (host : ArpHost Ms) (nowMs : Ms) : ArpHost Ms :=
  hostPollArpLoop nowMs (4 * host.pendingQueue.size) host

end Times

/-! ## Receiving -/

/-- The message with which `host_receive` comes to its ARP branch. -/
def hostArpMessage (host : ArpHost Ms) (raw : List UInt8) : Option ArpMessage :=
  match ethernetFromBytes raw with
  | none => none
  | some frame =>
      if !ethernetIsBroadcast frame.dstMac && !macEqual frame.dstMac host.macAddress then
        none
      else if frame.hasVlan then
        none
      else if frame.ethertype = ethernetTypeArp then
        arpMessageFromBytes frame.payload
      else
        none

/-- The ARP branch of `host_receive`. -/
def hostReceiveArp (host : ArpHost Ms) (arp : ArpMessage) : ArpHost Ms :=
  let host := (hostLearnArp host arp).getD host
  if arp.opcode = .request ∧ host.hasIp = true ∧ ipOctetsEqualPublic arp.targetIp host.ipAddress = true then
    (hostSendArpReply host arp).getD host
  else if arp.opcode = .reply then
    (hostFlushPendingPackets host arp.senderIp).2
  else
    host

/-- `host_receive`, as far as ARP is concerned.  What it sends in answer to other frames it sends through
`host_send_l3_packet`. -/
def hostReceive (host : ArpHost Ms) (raw : List UInt8) : ArpHost Ms :=
  match hostArpMessage host raw with
  | none => host
  | some arp => hostReceiveArp host arp

end Functions

end MagiStack
