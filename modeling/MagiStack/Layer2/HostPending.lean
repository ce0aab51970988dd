import MagiStack.Layer2.Host
import Mathlib.Logic.Relation

/-!
# HostPending — packets that wait for an address

A run of a host in the terms of what waits: the list of waiting packets, the log and the list of accepted
packets.  `HostMove` says what a call can do to the three; `hostStep_moves` connects it to the code, and
every property of runs is proved move by move.
-/

namespace MagiStack

/-! ## Addresses -/

/-- Addresses with the same octets are told apart from the same addresses. -/
theorem ipOctetsEqualPublic_congr {a b : IpAddress} (h : ipOctetsEqualPublic a b = true)
    (c : IpAddress) : ipOctetsEqualPublic c a = ipOctetsEqualPublic c b := by
  rw [ipOctetsEqualPublic, ipOctetsEqualPublic, ipOctetsEqualPublic_iff.mp h]

section Runs

variable {Ms : Type}

/-! ## Runs -/

/-- A packet for which `host_send_l3_packet` has returned `1`, with the next hop if it has one. -/
structure AcceptedPacket where
  nextHop : Option IpAddress
  ethertype : UInt16
  payload : List UInt8
  deriving DecidableEq

/-- A host and the packets it has accepted, the newest last. -/
structure HostRun (Ms : Type) where
  host : ArpHost Ms
  accepted : List AcceptedPacket

/-- A call of one of the functions, with the time it reads or is given. -/
inductive HostAction (Ms : Type)
  | send (targetIp : IpAddress) (ethertype : UInt16) (payload : List UInt8) (nowMs : Ms)
  | receive (raw : List UInt8)
  | poll (nowMs : Ms)

/-- The packet of a call that was accepted. -/
def acceptedPacket (host : ArpHost Ms) (targetIp : IpAddress) (ethertype : UInt16)
    (payload : List UInt8) : AcceptedPacket :=
  { nextHop := if ipIsBroadcast targetIp then none else some (hostNextHop host targetIp)
    ethertype := ethertype
    payload := payload }

def hostRunInit (config : ArpHostConfig) (items : Nat → HostPendingPacket Ms) : HostRun Ms :=
  { host := hostInit config items, accepted := [] }

variable [SimTime Ms]

def hostStep (s : HostRun Ms) : HostAction Ms → HostRun Ms
  | .send targetIp ethertype payload nowMs =>
      match hostSendL3Packet s.host targetIp ethertype payload nowMs s.accepted.length with
      | (true, host) =>
          { host := host
            accepted := s.accepted ++ [acceptedPacket s.host targetIp ethertype payload] }
      | (false, host) => { s with host := host }
  | .receive raw => { s with host := hostReceive s.host raw }
  | .poll nowMs => { s with host := hostPollArp s.host nowMs }

def hostRun (s : HostRun Ms) (actions : List (HostAction Ms)) : HostRun Ms :=
  actions.foldl hostStep s

end Runs

section Calls

variable {Ms : Type}

/-! ## What the calls do -/

/-- The bytes of an untagged frame of a host. -/
def hostFrameBytes (srcMac dstMac : MacAddress) (ethertype : UInt16) (payload : List UInt8) :
    List UInt8 :=
  ethernetBytes
    { dstMac := dstMac
      srcMac := srcMac
      hasVlan := false
      vlanId := 0
      ethertype := ethertype
      payload := payload }

theorem hostSendEthernetFrame_eq (host : ArpHost Ms) (dstMac : MacAddress) (ethertype : UInt16)
    {payload : List UInt8} (event : List UInt8 → HostEvent)
    (h : payload.length ≤ ethernetMaxPayload) :
    hostSendEthernetFrame host dstMac ethertype payload event =
      some (host.record (event (hostFrameBytes host.macAddress dstMac ethertype payload))) := by
  rw [hostSendEthernetFrame, ethernetCreate, if_neg (Nat.not_lt.mpr h)]
  dsimp only
  rw [ethernetToBytes_eq h]
  rfl

theorem hostSendArpRequest_eq {host : ArpHost Ms} (h : host.hasIp = true) (targetIp : IpAddress) :
    ∃ frame, hostSendArpRequest host targetIp = some (host.record (.arpRequest targetIp frame)) := by
  have hsize : ¬ arpSerializedSize < arpSerializedSize := lt_irrefl _
  rw [hostSendArpRequest, if_pos h, arpMessageToBytes, if_neg hsize]
  exact ⟨_, hostSendEthernetFrame_eq host _ _ _ (by rw [arpMessageBytes_length]; decide)⟩

theorem hostSendArpReply_eq {host : ArpHost Ms} (h : host.hasIp = true) (request : ArpMessage) :
    ∃ frame, hostSendArpReply host request = some (host.record (.arpReply frame)) := by
  have hsize : ¬ arpSerializedSize < arpSerializedSize := lt_irrefl _
  rw [hostSendArpReply, if_pos h, arpMessageToBytes, if_neg hsize]
  exact ⟨_, hostSendEthernetFrame_eq host _ _ _ (by rw [arpMessageBytes_length]; decide)⟩

/-- The frame of a waiting packet, when it is sent. -/
def HostPendingPacket.sent (srcMac dstMac : MacAddress) (packet : HostPendingPacket Ms) : HostEvent :=
  .packet packet.number (some packet.targetIp)
    (hostFrameBytes srcMac dstMac packet.ethertype packet.payload)

/-- The end of a waiting packet that is given up. -/
def HostPendingPacket.droppedEvent (packet : HostPendingPacket Ms) : HostEvent :=
  .dropped packet.number packet.targetIp

/-- The waiting packets for other addresses. -/
def othersThan (targetIp : IpAddress) (pending : List (HostPendingPacket Ms)) :
    List (HostPendingPacket Ms) :=
  pending.filter fun packet => !packet.waitsFor targetIp

/-- The waiting packets for an address. -/
def waitingFor (targetIp : IpAddress) (pending : List (HostPendingPacket Ms)) :
    List (HostPendingPacket Ms) :=
  pending.filter (HostPendingPacket.waitsFor targetIp)

/-- A host after a loop over its queue. -/
def ArpHost.after (host : ArpHost Ms)
    (queue : RingBuffer (HostPendingPacket Ms) hostPendingQueueMaxEntries) (events : List HostEvent) :
    ArpHost Ms :=
  { host with pendingQueue := queue, log := host.log ++ events }

theorem othersThan_of_waitingFor_nil {resolvedIp : IpAddress} {pending : List (HostPendingPacket Ms)}
    (h : waitingFor resolvedIp pending = []) : othersThan resolvedIp pending = pending := by
  refine List.filter_eq_self.mpr fun packet hpacket => ?_
  have hnot := List.filter_eq_nil_iff.mp h packet hpacket
  simpa using hnot

/-- A loop that takes the packets for an address out of the queue and records something for each of them. -/
structure DequeuesAll (targetIp : IpAddress) (event : MacAddress → HostPendingPacket Ms → HostEvent)
    (loop : Nat → Nat → ArpHost Ms → ArpHost Ms) : Prop where
  stop : ∀ done host, loop 0 done host = host
  last : ∀ fuel done host rest,
    host.pendingQueue.takeFirst (HostPendingPacket.waitsFor targetIp) = (none, rest) →
      loop (fuel + 1) done host = { host with pendingQueue := rest }
  next : ∀ fuel done host packet rest,
    host.pendingQueue.takeFirst (HostPendingPacket.waitsFor targetIp) = (some packet, rest) →
      loop (fuel + 1) done host = loop fuel (done + 1)
        (ArpHost.record { host with pendingQueue := rest } (event host.macAddress packet))

/-- Such a loop takes all packets for the address and leaves the others, by induction on the size of the queue. -/
theorem DequeuesAll.spec {targetIp : IpAddress} {event : MacAddress → HostPendingPacket Ms → HostEvent}
    {loop : Nat → Nat → ArpHost Ms → ArpHost Ms} (h : DequeuesAll targetIp event loop)
    (fuel done : Nat) (host : ArpHost Ms) (hvalid : host.pendingQueue.Valid)
    (hfuel : host.pendingQueue.size ≤ fuel) :
    ∃ queue : RingBuffer (HostPendingPacket Ms) hostPendingQueueMaxEntries,
      queue.Valid ∧ queue.toList = othersThan targetIp host.pending ∧
      loop fuel done host =
        host.after queue ((waitingFor targetIp host.pending).map (event host.macAddress)) := by
  induction fuel generalizing done host with
  | zero =>
      have hnil : host.pending = [] := by
        rw [← List.length_eq_zero_iff, ArpHost.pending, RingBuffer.length_toList]
        omega
      refine ⟨host.pendingQueue, hvalid, ?_, ?_⟩
      · rw [hnil]
        exact hnil
      · rw [hnil, h.stop]
        simp [waitingFor, ArpHost.after]
  | succ fuel ih =>
      rcases hvalid.takeFirst_cases (HostPendingPacket.waitsFor targetIp) with
        ⟨rest, htake, hrest, hlist, hnone⟩ | ⟨packet, rest, htake, hrest, -, hsize, hfirst, hothers⟩
      · have hnil : waitingFor targetIp host.pending = [] := hnone
        refine ⟨rest, hrest, ?_, ?_⟩
        · rw [hlist, othersThan_of_waitingFor_nil hnil]
          rfl
        · rw [hnil, h.last fuel done host rest htake]
          simp [ArpHost.after]
      · have hwaiting : waitingFor targetIp host.pending =
            packet :: waitingFor targetIp rest.toList := hfirst
        -- The packet is taken out, and the others for the address are taken from what is left.
        rcases ih (done + 1)
            (ArpHost.record { host with pendingQueue := rest } (event host.macAddress packet)) hrest
            (by simp only [ArpHost.record]; omega) with ⟨queue, hqueue, hqueueList, hloop⟩
        refine ⟨queue, hqueue, hqueueList.trans hothers, ?_⟩
        rw [h.next fuel done host packet rest htake, hloop]
        simp only [ArpHost.record, ArpHost.after, hwaiting, List.map_cons, List.append_assoc]
        rfl

theorem hostFlushLoop_dequeuesAll (resolvedIp : IpAddress) (mac : MacAddress) :
    DequeuesAll resolvedIp (fun srcMac => HostPendingPacket.sent srcMac mac)
      fun fuel sent (host : ArpHost Ms) => (hostFlushLoop resolvedIp mac fuel sent host).2 := by
  refine ⟨fun _ _ => rfl, fun fuel sent host rest htake => ?_,
    fun fuel sent host packet rest htake => ?_⟩
  · simp only [hostFlushLoop, hostDequeuePendingPacketForIp, htake]
  · simp only [hostFlushLoop, hostDequeuePendingPacketForIp, htake]
    rw [hostSendEthernetFrame_eq _ _ _ _ packet.payload_le]
    rfl

theorem hostDropLoop_dequeuesAll (targetIp : IpAddress) :
    DequeuesAll targetIp (fun _ => HostPendingPacket.droppedEvent)
      fun fuel _ (host : ArpHost Ms) => hostDropLoop targetIp fuel host := by
  refine ⟨fun _ _ => rfl, fun fuel _ host rest htake => ?_, fun fuel _ host packet rest htake => ?_⟩
  · simp only [hostDropLoop, hostDequeuePendingPacketForIp, htake]
  · simp only [hostDropLoop, hostDequeuePendingPacketForIp, htake]
    rfl

end Calls

/-! ## Moves -/

/-- What a run has waiting, has logged and has accepted. -/
structure HostView (Ms : Type) where
  pending : List (HostPendingPacket Ms)
  log : List HostEvent
  accepted : List AcceptedPacket

section Moves

variable {Ms : Type}

def HostRun.view (s : HostRun Ms) : HostView Ms :=
  { pending := s.host.pending, log := s.host.log, accepted := s.accepted }

/-- What was accepted of a waiting packet. -/
def HostPendingPacket.accepted (packet : HostPendingPacket Ms) : AcceptedPacket :=
  { nextHop := some packet.targetIp, ethertype := packet.ethertype, payload := packet.payload }

/-- A packet may be sent at once: nothing waits for its next hop. -/
def nothingWaits (pending : List (HostPendingPacket Ms)) (nextHop : Option IpAddress) : Prop :=
  ∀ ip, nextHop = some ip → waitingFor ip pending = []

/-- A waiting packet after a retry for an address. -/
def HostPendingPacket.retried (targetIp : IpAddress) (arpAttempts : Nat) (attemptMs : Ms)
    (packet : HostPendingPacket Ms) : HostPendingPacket Ms :=
  if packet.waitsFor targetIp then
    { packet with arpAttempts := arpAttempts, arpLastAttemptMs := attemptMs }
  else
    packet

/-- What a call does to the packets that wait, step by step.  With `ordered`, no packet is sent at once
while another one waits for the same next hop. -/
inductive HostMove (mac : MacAddress) (ordered : Prop) : HostView Ms → HostView Ms → Prop
  | direct (pending : List (HostPendingPacket Ms)) (log : List HostEvent)
      (accepted : List AcceptedPacket) (packet : AcceptedPacket) (dst : MacAddress)
      (hordered : ordered → nothingWaits pending packet.nextHop) :
      HostMove mac ordered ⟨pending, log, accepted⟩
        ⟨pending,
          log ++ [.packet accepted.length packet.nextHop
            (hostFrameBytes mac dst packet.ethertype packet.payload)],
          accepted ++ [packet]⟩
  | first (pending : List (HostPendingPacket Ms)) (log : List HostEvent)
      (accepted : List AcceptedPacket) (packet : HostPendingPacket Ms) (frame : List UInt8)
      (hnone : waitingFor packet.targetIp pending = []) (hattempts : packet.arpAttempts = 1)
      (hnumber : packet.number = accepted.length) :
      HostMove mac ordered ⟨pending, log, accepted⟩
        ⟨pending ++ [packet], log ++ [.arpRequest packet.targetIp frame],
          accepted ++ [packet.accepted]⟩
  | join (pending : List (HostPendingPacket Ms)) (log : List HostEvent)
      (accepted : List AcceptedPacket) (packet existing : HostPendingPacket Ms)
      (hexisting : existing ∈ waitingFor packet.targetIp pending)
      (hattempts : packet.arpAttempts = existing.arpAttempts)
      (hnumber : packet.number = accepted.length) :
      HostMove mac ordered ⟨pending, log, accepted⟩
        ⟨pending ++ [packet], log, accepted ++ [packet.accepted]⟩
  | reply (pending : List (HostPendingPacket Ms)) (log : List HostEvent)
      (accepted : List AcceptedPacket) (frame : List UInt8) :
      HostMove mac ordered ⟨pending, log, accepted⟩ ⟨pending, log ++ [.arpReply frame], accepted⟩
  | flush (pending : List (HostPendingPacket Ms)) (log : List HostEvent)
      (accepted : List AcceptedPacket) (resolvedIp : IpAddress) (dst : MacAddress) :
      HostMove mac ordered ⟨pending, log, accepted⟩
        ⟨othersThan resolvedIp pending,
          log ++ .flushed resolvedIp ::
            (waitingFor resolvedIp pending).map (HostPendingPacket.sent mac dst),
          accepted⟩
  | retry (pending : List (HostPendingPacket Ms)) (log : List HostEvent)
      (accepted : List AcceptedPacket) (packet : HostPendingPacket Ms) (attemptMs : Ms)
      (frame : List UInt8) (hpacket : packet ∈ pending)
      (hattempts : packet.arpAttempts < hostArpMaxAttempts) :
      HostMove mac ordered ⟨pending, log, accepted⟩
        ⟨pending.map (HostPendingPacket.retried packet.targetIp (packet.arpAttempts + 1) attemptMs),
          log ++ [.arpRequest packet.targetIp frame], accepted⟩
  | giveUp (pending : List (HostPendingPacket Ms)) (log : List HostEvent)
      (accepted : List AcceptedPacket) (packet : HostPendingPacket Ms) (hpacket : packet ∈ pending)
      (hattempts : hostArpMaxAttempts ≤ packet.arpAttempts) :
      HostMove mac ordered ⟨pending, log, accepted⟩
        ⟨othersThan packet.targetIp pending,
          log ++ ((waitingFor packet.targetIp pending).map HostPendingPacket.droppedEvent ++
            [.failed packet.targetIp]),
          accepted⟩

/-- The host of a run: its addresses are configured, its queue is one, and only a host with an address
has packets waiting. -/
structure ArpHost.Ok (config : ArpHostConfig) (host : ArpHost Ms) : Prop where
  hasIp : host.hasIp = config.hasIp
  ipAddress : host.ipAddress = config.ipAddress
  defaultGateway : host.defaultGateway = config.defaultGateway
  macAddress : host.macAddress = config.macAddress
  valid : host.pendingQueue.Valid
  resolves : host.pending ≠ [] → host.hasIp = true

theorem ArpHost.Ok.after {config : ArpHostConfig} {host : ArpHost Ms} (h : host.Ok config)
    {queue : RingBuffer (HostPendingPacket Ms) hostPendingQueueMaxEntries} (hqueue : queue.Valid)
    (hresolves : queue.toList ≠ [] → host.hasIp = true) (events : List HostEvent) :
    (host.after queue events).Ok config :=
  ⟨h.hasIp, h.ipAddress, h.defaultGateway, h.macAddress, hqueue, hresolves⟩

theorem ArpHost.Ok.record {config : ArpHostConfig} {host : ArpHost Ms} (h : host.Ok config)
    (event : HostEvent) : (host.record event).Ok config :=
  ⟨h.hasIp, h.ipAddress, h.defaultGateway, h.macAddress, h.valid, h.resolves⟩

/-! ## The calls are moves -/

open Relation (ReflTransGen)

/-- A packet is not sent at once while others wait for its next hop. -/
def HostSendsInOrder (host : ArpHost Ms) (targetIp : IpAddress) : Prop :=
  ipIsBroadcast targetIp = false →
    (arpTableGetConst host.arpTable (hostNextHop host targetIp)).isSome = true →
      waitingFor (hostNextHop host targetIp) host.pending = []

theorem hostFindPendingForIp_none {host : ArpHost Ms} {targetIp : IpAddress}
    (h : hostFindPendingForIp host targetIp = none) : waitingFor targetIp host.pending = [] :=
  List.filter_eq_nil_iff.mpr fun packet hpacket => List.find?_eq_none.mp h packet hpacket

theorem hostFindPendingForIp_some {host : ArpHost Ms} {targetIp : IpAddress}
    {existing : HostPendingPacket Ms} (h : hostFindPendingForIp host targetIp = some existing) :
    existing ∈ waitingFor targetIp host.pending :=
  List.mem_filter.mpr ⟨List.mem_of_find?_eq_some h, List.find?_some h⟩

/-- A packet that has to wait is queued with the attempts of those that wait already, or else asked for. -/
theorem hostQueuePacket_moves {config : ArpHostConfig} {host : ArpHost Ms} (hok : host.Ok config)
    (hip : host.hasIp = true) {ordered : Prop} (packet : HostPendingPacket Ms)
    (accepted : List AcceptedPacket) (hroom : host.pendingQueue.size < hostPendingQueueMaxEntries)
    (hnumber : packet.number = accepted.length)
    (hattempts : packet.arpAttempts =
      (hostFindPendingForIp host packet.targetIp).elim 1 HostPendingPacket.arpAttempts) :
    ∃ host' : ArpHost Ms,
      (if (hostFindPendingForIp host packet.targetIp).isSome then
        (true, { host with pendingQueue := host.pendingQueue.push packet })
      else
        match hostSendArpRequest { host with pendingQueue := host.pendingQueue.push packet }
            packet.targetIp with
        | none => (false, { host with pendingQueue := host.pendingQueue.push packet })
        | some host => (true, host)) = (true, host') ∧
      host'.Ok config ∧
      HostMove config.macAddress ordered ⟨host.pending, host.log, accepted⟩
        ⟨host'.pending, host'.log, accepted ++ [packet.accepted]⟩ := by
  rcases hok.valid.push hroom packet with ⟨hvalid, hlist⟩
  have hqueued : (ArpHost.mk host.hasIp host.ipAddress host.defaultGateway host.macAddress
      host.arpTable (host.pendingQueue.push packet) host.log).Ok config :=
    ⟨hok.hasIp, hok.ipAddress, hok.defaultGateway, hok.macAddress, hvalid, fun _ => hip⟩
  cases hfind : hostFindPendingForIp host packet.targetIp with
  | some existing =>
      -- A request for the address is under way, and the packet waits for its answer.
      rw [hfind] at hattempts
      refine ⟨_, rfl, hqueued, ?_⟩
      have hmove := @HostMove.join Ms config.macAddress ordered host.pending host.log
        accepted packet existing (hostFindPendingForIp_some hfind) hattempts hnumber
      rw [← show _ = host.pending ++ [packet] from hlist] at hmove
      exact hmove
  | none =>
      rw [hfind] at hattempts
      rcases @hostSendArpRequest_eq Ms { host with pendingQueue := host.pendingQueue.push packet }
        hip packet.targetIp with ⟨frame, hframe⟩
      rw [hframe]
      refine ⟨_, rfl, hqueued.record _, ?_⟩
      have hmove := @HostMove.first Ms config.macAddress ordered host.pending host.log
        accepted packet frame (hostFindPendingForIp_none hfind) hattempts hnumber
      rw [← show _ = host.pending ++ [packet] from hlist] at hmove
      exact hmove

/-- `host_send_l3_packet` refuses a packet and does nothing, or accepts it and makes one move. -/
theorem hostSendL3Packet_moves {config : ArpHostConfig} {host : ArpHost Ms} (hok : host.Ok config)
    {ordered : Prop} (targetIp : IpAddress) (ethertype : UInt16) (payload : List UInt8) (nowMs : Ms)
    (accepted : List AcceptedPacket)
    (hordered : ordered → payload.length ≤ ethernetMaxPayload → HostSendsInOrder host targetIp) :
    hostSendL3Packet host targetIp ethertype payload nowMs accepted.length = (false, host) ∨
    ∃ host', hostSendL3Packet host targetIp ethertype payload nowMs accepted.length = (true, host') ∧
      host'.Ok config ∧
      HostMove config.macAddress ordered ⟨host.pending, host.log, accepted⟩
        ⟨host'.pending, host'.log,
          accepted ++ [acceptedPacket host targetIp ethertype payload]⟩ := by
  rw [hostSendL3Packet]
  by_cases hlong : ethernetMaxPayload < payload.length
  · left
    rw [if_pos hlong]
  rw [if_neg hlong]
  have hpayload := Nat.le_of_not_lt hlong
  -- A broadcast needs no address and no resolution.
  cases hbroadcast : ipIsBroadcast targetIp with
  | true =>
      right
      have haccepted : acceptedPacket host targetIp ethertype payload = ⟨none, ethertype, payload⟩ := by
        rw [acceptedPacket, hbroadcast]
        rfl
      rw [if_pos rfl, hostSendEthernetFrame_eq _ _ _ _ hpayload, hok.macAddress, haccepted]
      refine ⟨_, rfl, hok.record _, ?_⟩
      exact HostMove.direct host.pending host.log accepted ⟨none, ethertype, payload⟩
        MacAddress.broadcast fun _ ip hip => by cases hip
  | false =>
      have haccepted : acceptedPacket host targetIp ethertype payload =
          ⟨some (hostNextHop host targetIp), ethertype, payload⟩ := by
        rw [acceptedPacket, hbroadcast]
        rfl
      rw [if_neg Bool.false_ne_true, haccepted]
      cases hip : host.hasIp with
      | false =>
          left
          rfl
      | true =>
          rw [if_neg (by decide)]
          dsimp only
          cases hmac : arpTableGetConst host.arpTable (hostNextHop host targetIp) with
          | some mac =>
              right
              dsimp only
              rw [hostSendEthernetFrame_eq _ _ _ _ hpayload, hok.macAddress]
              refine ⟨_, rfl, hok.record _, ?_⟩
              refine HostMove.direct host.pending host.log accepted
                ⟨some (hostNextHop host targetIp), ethertype, payload⟩ mac fun horder ip hnext => ?_
              cases hnext
              exact hordered horder hpayload hbroadcast (by rw [hmac]; rfl)
          | none =>
              dsimp only
              rw [hostQueuePendingPacketWithArpState, dif_pos hpayload]
              -- A full queue refuses the packet before anything is asked.
              by_cases hfull : hostPendingQueueMaxEntries ≤ host.pendingQueue.size
              · left
                rw [if_pos hfull]
              right
              rw [if_neg hfull]
              dsimp only
              exact hostQueuePacket_moves hok hip
                { targetIp := hostNextHop host targetIp
                  ethertype := ethertype
                  payload := payload
                  payload_le := hpayload
                  arpAttempts :=
                    (hostFindPendingForIp host (hostNextHop host targetIp)).elim 1
                      HostPendingPacket.arpAttempts
                  arpLastAttemptMs :=
                    (hostFindPendingForIp host (hostNextHop host targetIp)).elim nowMs
                      HostPendingPacket.arpLastAttemptMs
                  number := accepted.length }
                accepted (Nat.lt_of_not_le hfull) rfl rfl

/-- What a host that learns an address keeps. -/
theorem ArpHost.Ok.learn {config : ArpHostConfig} {host : ArpHost Ms} (h : host.Ok config)
    (message : ArpMessage) :
    ((hostLearnArp host message).getD host).Ok config ∧
      ((hostLearnArp host message).getD host).pending = host.pending ∧
      ((hostLearnArp host message).getD host).log = host.log := by
  rw [hostLearnArp]
  cases arpTableSet host.arpTable message.senderIp message.senderMac with
  | none => exact ⟨h, rfl, rfl⟩
  | some arpTable =>
      exact ⟨⟨h.hasIp, h.ipAddress, h.defaultGateway, h.macAddress, h.valid, h.resolves⟩, rfl, rfl⟩

/-- `host_flush_pending_packets` does nothing without an address, and is one move with one. -/
theorem hostFlushPendingPackets_moves {config : ArpHostConfig} {host : ArpHost Ms}
    (hok : host.Ok config) {ordered : Prop} (resolvedIp : IpAddress) (accepted : List AcceptedPacket) :
    (hostFlushPendingPackets host resolvedIp).2.Ok config ∧
      ReflTransGen (HostMove config.macAddress ordered) ⟨host.pending, host.log, accepted⟩
        ⟨(hostFlushPendingPackets host resolvedIp).2.pending,
          (hostFlushPendingPackets host resolvedIp).2.log, accepted⟩ := by
  rw [hostFlushPendingPackets]
  cases arpTableGetConst host.arpTable resolvedIp with
  | none => exact ⟨hok, .refl⟩
  | some mac =>
      dsimp only
      rcases (hostFlushLoop_dequeuesAll resolvedIp mac).spec host.pendingQueue.size 0
          (host.record (.flushed resolvedIp)) hok.valid le_rfl with ⟨queue, hvalid, hlist, hloop⟩
      rw [hloop]
      have hothers : queue.toList = othersThan resolvedIp host.pending := hlist
      refine ⟨(hok.record _).after hvalid (fun hne => ?_) _, ?_⟩
      -- Packets that are left were there before, and a host with packets has an address.
      · refine hok.resolves fun hnil => hne ?_
        rw [hothers, hnil]
        rfl
      · have hmove := @HostMove.flush Ms config.macAddress ordered host.pending host.log
          accepted resolvedIp mac
        rw [← hothers, ← hok.macAddress] at hmove
        refine .single ?_
        rw [← hok.macAddress]
        simpa [ArpHost.after, ArpHost.record, ArpHost.pending] using hmove

/-- An ARP message makes a host answer, flush or only learn. -/
theorem hostReceive_moves {config : ArpHostConfig} {host : ArpHost Ms} (hok : host.Ok config)
    {ordered : Prop} (raw : List UInt8) (accepted : List AcceptedPacket) :
    (hostReceive host raw).Ok config ∧
      ReflTransGen (HostMove config.macAddress ordered) ⟨host.pending, host.log, accepted⟩
        ⟨(hostReceive host raw).pending, (hostReceive host raw).log, accepted⟩ := by
  rw [hostReceive]
  cases hostArpMessage host raw with
  | none => exact ⟨hok, .refl⟩
  | some arp =>
      dsimp only
      rw [hostReceiveArp]
      -- The sender is learned first, whatever the message is.
      rcases hok.learn arp with ⟨hlearn, hpending, hlog⟩
      rw [← hpending, ← hlog]
      generalize (hostLearnArp host arp).getD host = learned at hlearn
      by_cases hrequest : arp.opcode = .request ∧ learned.hasIp = true ∧
          ipOctetsEqualPublic arp.targetIp learned.ipAddress = true
      · rw [if_pos hrequest]
        rcases hostSendArpReply_eq hrequest.2.1 arp with ⟨frame, hframe⟩
        rw [hframe]
        exact ⟨hlearn.record _, .single (.reply learned.pending learned.log accepted frame)⟩
      · rw [if_neg hrequest]
        by_cases hreply : arp.opcode = .reply
        · rw [if_pos hreply]
          exact hostFlushPendingPackets_moves hlearn arp.senderIp accepted
        · rw [if_neg hreply]
          exact ⟨hlearn, .refl⟩

section Times

variable [SimTime Ms]

/-- A round of `host_poll_arp` gives up or asks again. -/
theorem hostPollArpLoop_round {config : ArpHostConfig} {host : ArpHost Ms} (hok : host.Ok config)
    (ordered : Prop) {nowMs : Ms} {packet : HostPendingPacket Ms}
    (hfind : host.pending.find? (HostPendingPacket.isDue nowMs) = some packet)
    (accepted : List AcceptedPacket) (fuel : Nat) :
    ∃ host' : ArpHost Ms,
      hostPollArpLoop nowMs (fuel + 1) host = hostPollArpLoop nowMs fuel host' ∧ host'.Ok config ∧
      HostMove config.macAddress ordered ⟨host.pending, host.log, accepted⟩
        ⟨host'.pending, host'.log, accepted⟩ ∧
      (hostArpMaxAttempts ≤ packet.arpAttempts ∧
          host'.pending = othersThan packet.targetIp host.pending ∨
        packet.arpAttempts < hostArpMaxAttempts ∧ ∃ attemptMs,
          host'.pending = host.pending.map
            (HostPendingPacket.retried packet.targetIp (packet.arpAttempts + 1) attemptMs)) := by
  have hpacket := List.mem_of_find?_eq_some hfind
  have hip : host.hasIp = true := hok.resolves (List.ne_nil_of_mem hpacket)
  rw [hostPollArpLoop, hfind]
  dsimp only
  by_cases hattempts : hostArpMaxAttempts ≤ packet.arpAttempts
  -- The third request was not answered in time.
  · rw [if_pos hattempts]
    rcases (hostDropLoop_dequeuesAll packet.targetIp).spec host.pendingQueue.size 0 host hok.valid
      le_rfl with ⟨queue, hvalid, hlist, hloop⟩
    rw [hloop]
    refine ⟨_, rfl, (hok.after hvalid (fun _ => hip) _).record _, ?_, Or.inl ⟨hattempts, hlist⟩⟩
    have hmove := @HostMove.giveUp Ms config.macAddress ordered host.pending
      host.log accepted packet hpacket hattempts
    rw [← hlist] at hmove
    simpa [ArpHost.after, ArpHost.record, ArpHost.pending] using hmove
  · rw [if_neg hattempts]
    rcases hok.valid.modifyAll (HostPendingPacket.retried packet.targetIp (packet.arpAttempts + 1)
      (SimTime.addMs packet.arpLastAttemptMs hostArpRetryIntervalMs)) with ⟨hvalid, hlist⟩
    rcases @hostSendArpRequest_eq Ms
        (hostSetArpAttemptForIp host packet.targetIp (packet.arpAttempts + 1)
          (SimTime.addMs packet.arpLastAttemptMs hostArpRetryIntervalMs)) hip packet.targetIp with
      ⟨frame, hframe⟩
    rw [hframe]
    have hset := hok.after hvalid (fun _ => hip) []
    simp only [ArpHost.after, List.append_nil] at hset
    have hpending : _ = host.pending.map _ := hlist
    refine ⟨_, rfl, hset.record (.arpRequest packet.targetIp frame), ?_,
      Or.inr ⟨Nat.lt_of_not_le hattempts, _, hlist⟩⟩
    -- All packets for the address are counted up, not only the one that is due.
    have hmove := @HostMove.retry Ms config.macAddress ordered host.pending host.log
      accepted packet (SimTime.addMs packet.arpLastAttemptMs hostArpRetryIntervalMs) frame hpacket
      (Nat.lt_of_not_le hattempts)
    rw [← hpending] at hmove
    exact hmove

theorem hostPollArpLoop_moves {config : ArpHostConfig} {host : ArpHost Ms} (hok : host.Ok config)
    {ordered : Prop} (nowMs : Ms) (accepted : List AcceptedPacket) (fuel : Nat) :
    (hostPollArpLoop nowMs fuel host).Ok config ∧
      ReflTransGen (HostMove config.macAddress ordered) ⟨host.pending, host.log, accepted⟩
        ⟨(hostPollArpLoop nowMs fuel host).pending, (hostPollArpLoop nowMs fuel host).log,
          accepted⟩ := by
  induction fuel generalizing host with
  | zero => exact ⟨hok, .refl⟩
  | succ fuel ih =>
      cases hfind : host.pending.find? (HostPendingPacket.isDue nowMs) with
      | none =>
          rw [hostPollArpLoop, hfind]
          exact ⟨hok, .refl⟩
      | some packet =>
          rcases hostPollArpLoop_round hok ordered hfind accepted fuel with
            ⟨host', hround, hok', hmove, -⟩
          rw [hround]
          rcases ih hok' with ⟨hnext, hmoves⟩
          exact ⟨hnext, .head hmove hmoves⟩

/-- The step of a run may come next in a run that keeps the order of packets. -/
def HostSendsNext (s : HostRun Ms) : HostAction Ms → Prop
  | .send targetIp _ payload _ =>
      payload.length ≤ ethernetMaxPayload → HostSendsInOrder s.host targetIp
  | _ => True

/-- A step of a run is moves. -/
theorem hostStep_moves {config : ArpHostConfig} {s : HostRun Ms} (hok : s.host.Ok config)
    {ordered : Prop} (action : HostAction Ms) (hordered : ordered → HostSendsNext s action) :
    (hostStep s action).host.Ok config ∧
      ReflTransGen (HostMove config.macAddress ordered) s.view (hostStep s action).view := by
  cases action with
  | send targetIp ethertype payload nowMs =>
      rcases hostSendL3Packet_moves hok targetIp ethertype payload nowMs s.accepted hordered with
        hrefused | ⟨host', haccepted, hok', hmove⟩
      · rw [hostStep, hrefused]
        exact ⟨hok, .refl⟩
      · rw [hostStep, haccepted]
        exact ⟨hok', .single hmove⟩
  | receive raw => exact hostReceive_moves hok raw s.accepted
  | poll nowMs => exact hostPollArpLoop_moves hok nowMs s.accepted _

end Times

end Moves

end MagiStack
