import MagiStack.Layer3.RouterFlush

/-!
# RouterResidue — what is left of frames for others and of sends that fail

A router takes the VLAN of every frame for that of its port before it looks whether the frame is for it, and
it queues a packet before it asks for the next hop.  So a frame for another station changes the VLAN that
later packets leave with, and a send that fails leaves its packet in the queue.
-/

namespace MagiStack

section Frames

variable {Ms : Type}

/-! ## Frames for others -/

/-- The frame is neither broadcast nor for the port it came to. -/
def ForOthers (r : RouterState Ms) (port : Fin maxPort) (frame : EthernetFrame) : Prop :=
  ethernetIsBroadcast frame.dstMac = false ∧ macEqual frame.dstMac (r.macs port) = false

/-- The VLAN of a frame. -/
def frameVlan (frame : EthernetFrame) : Int :=
  if frame.hasVlan then frame.vlanId.toNat else 0

theorem frameVlan_nonneg (frame : EthernetFrame) : 0 ≤ frameVlan frame := by
  unfold frameVlan
  split
  · exact Int.natCast_nonneg _
  · exact le_rfl

/-- Noting a VLAN changes nothing exactly if the port has it already, or if there is none. -/
theorem routerNoteVlan_eq_self_iff {r : RouterState Ms} {port : Fin maxPort} {vlanId : Int}
    (hnonneg : 0 ≤ vlanId) :
    routerNoteVlan r port vlanId = r ↔ vlanId = 0 ∨ r.config.interfaceVlans port = vlanId := by
  have hvlans : (routerNoteVlan r port vlanId).config.interfaceVlans =
      if 0 < vlanId then Function.update r.config.interfaceVlans port vlanId
      else r.config.interfaceVlans := rfl
  constructor
  · intro hsame
    rw [hsame] at hvlans
    by_cases hpositive : 0 < vlanId
    · rw [if_pos hpositive] at hvlans
      exact Or.inr (by rw [hvlans, Function.update_self])
    · exact Or.inl (by omega)
  · intro hcondition
    have hkeeps : (if 0 < vlanId then Function.update r.config.interfaceVlans port vlanId
        else r.config.interfaceVlans) = r.config.interfaceVlans := by
      obtain rfl | hsame := hcondition
      · rfl
      · rw [← hsame, Function.update_eq_self, ite_self]
    rw [routerNoteVlan, hkeeps]

section Times

variable [SimTime Ms]

/-- All that a frame for others does is to be noted for its VLAN. -/
theorem routerReceive_forOthers {r : RouterState Ms} {port : Fin maxPort} {raw : List UInt8}
    {frame : EthernetFrame} (hframe : ethernetFromBytes raw = some frame) (h : ForOthers r port frame)
    (nowMs : Ms) (number : Option Nat) :
    routerReceive r port raw nowMs number = (routerNoteVlan r port (frameVlan frame), []) := by
  have hpassed : (!ethernetIsBroadcast frame.dstMac && !macEqual frame.dstMac (r.macs port)) = true := by
    rw [h.1, h.2]
    rfl
  rw [routerReceive, hframe]
  exact if_pos hpassed

/-- A frame for others sends nothing; it leaves the router unchanged exactly if it has no VLAN, or the one
of the port it came to. -/
theorem routerReceive_forOthers_iff (r : RouterState Ms) (port : Fin maxPort) (raw : List UInt8)
    (nowMs : Ms) (number : Option Nat)
    (h : ∀ frame, ethernetFromBytes raw = some frame → ForOthers r port frame) :
    (routerReceive r port raw nowMs number).2 = [] ∧
      ((routerReceive r port raw nowMs number).1 = r ↔
        ∀ frame, ethernetFromBytes raw = some frame →
          frameVlan frame = 0 ∨ r.config.interfaceVlans port = frameVlan frame) := by
  cases hframe : ethernetFromBytes raw with
  | none =>
      have hdropped : routerReceive r port raw nowMs number = (r, []) := by
        rw [routerReceive, hframe]
      rw [hdropped]
      exact ⟨rfl, iff_of_true rfl fun frame heq => by cases heq⟩
  | some frame =>
      rw [routerReceive_forOthers hframe (h frame hframe)]
      refine ⟨rfl, (routerNoteVlan_eq_self_iff (frameVlan_nonneg frame)).trans ?_⟩
      simp only [Option.some.injEq, forall_eq']

end Times

end Frames

/-- The router with an address and a VLAN of its first port. -/
def vlanRouter (vlanId : Int) : RouterState ℚ :=
  { idleRouter with config := { errorRouterConfig with interfaceVlans := fun _ => vlanId } }

/-- A frame of VLAN 20 between two other stations. -/
def floodedFrame : EthernetFrame :=
  { dstMac := ⟨2, 0, 0, 0, 0, 7⟩
    srcMac := ⟨2, 0, 0, 0, 0, 8⟩
    hasVlan := true
    vlanId := 20
    ethertype := ethernetTypeIpv4
    payload := [] }

theorem ethernetFromBytes_flooded :
    ethernetFromBytes (ethernetBytes floodedFrame) = some floodedFrame :=
  ethernetFromBytes_bytes ⟨by decide, by decide, by decide, by decide⟩

theorem forOthers_flooded (vlanId : Int) (frame : EthernetFrame)
    (h : ethernetFromBytes (ethernetBytes floodedFrame) = some frame) :
    ForOthers (vlanRouter vlanId) 0 frame := by
  rw [ethernetFromBytes_flooded] at h
  cases h
  exact ⟨by decide, (by decide : macEqual floodedFrame.dstMac ⟨2, 0, 0, 0, 0, 1⟩ = false)⟩

/-- On a port of VLAN 20 the frame changes nothing. -/
theorem routerReceive_forOthers_iff_sameVlan :
    (routerReceive (vlanRouter 20) 0 (ethernetBytes floodedFrame) 0 none).1 = vlanRouter 20 := by
  refine (routerReceive_forOthers_iff (vlanRouter 20) 0 (ethernetBytes floodedFrame) 0 none
    (forOthers_flooded 20)).2.mpr fun frame h => Or.inr ?_
  rw [ethernetFromBytes_flooded] at h
  cases h
  rfl

/-- On a port without a VLAN it does, and the router asks for a neighbour in VLAN 20 from then on. -/
theorem routerReceive_forOthers_iff_flooded :
    (∀ frame, ethernetFromBytes (ethernetBytes floodedFrame) = some frame →
      ForOthers (vlanRouter 0) 0 frame) ∧
    (routerReceive (vlanRouter 0) 0 (ethernetBytes floodedFrame) 0 none).1 ≠ vlanRouter 0 ∧
    (routerSendIpv4Packet (routerReceive (vlanRouter 0) 0 (ethernetBytes floodedFrame) 0 none).1
        { ipv4Init with dstIp := quietNeighbour } 0).2 ≠
      (routerSendIpv4Packet (vlanRouter 0) { ipv4Init with dstIp := quietNeighbour } 0).2 := by
  refine ⟨forOthers_flooded 0, fun h => ?_, by decide +kernel⟩
  have hvlan : (routerReceive (vlanRouter 0) 0 (ethernetBytes floodedFrame) 0 none).1.config.interfaceVlans
      0 = 20 := by
    decide +kernel
  rw [h] at hvlan
  cases hvlan

/-! ## What a send returns -/

section Sends

variable {Ms : Type} [SimTime Ms]

/-- `router_send_packet_to_next_hop` with what it returns, which is settled before its `interface_send`. -/
def routerSendPacketResult (r : RouterState Ms) (packet : Ipv4Packet) (nextHopIp : IpAddress)
    (outInterface : Int) (nowMs : Ms) (cargo : Option RouterCargo) :
    Bool × RouterState Ms × List RouterEvent :=
  match routerInterface r outInterface with
  | none => (false, r, [])
  | some port =>
      let vlanId := routerVlanForIp r nextHopIp (r.config.interfaceVlans port)
      match arpTableGetConst r.arpTable nextHopIp with
      | some nextHopMac =>
          match ipv4ToBytes packet (ipv4HeaderSize + ipv4MaxPayload) with
          | none => (false, r, [])
          | some rawIp =>
              match routerSendEthernetFrame r outInterface vlanId nextHopMac ethernetTypeIpv4 rawIp
                  cargo with
              | none => (false, r, [])
              | some event => (true, r, [event])
      | none =>
          let existingPending := routerFindPendingForIp r nextHopIp
          match routerQueuePendingPacket r
              { nextHopIp := nextHopIp
                outInterface := outInterface
                vlanId := vlanId
                packet := packet
                arpAttempts := existingPending.elim 1 RouterPendingPacket.arpAttempts
                arpLastAttemptMs := existingPending.elim nowMs RouterPendingPacket.arpLastAttemptMs
                cargo := cargo } with
          | none => (false, r, [])
          | some r =>
              if existingPending.isSome then
                (true, r, [])
              else
                match routerSendArpRequest r outInterface nextHopIp vlanId with
                | none => (false, r, [])
                | some event =>
                    (true, r.pushTask (.recheck nextHopIp
                      (SimTime.addMs nowMs (routerArpRetryIntervalMs * (routerArpMaxAttempts + 1)))),
                      [event])

/-- `router_send_ipv4_packet` with what it returns. -/
def routerSendIpv4Result (r : RouterState Ms) (packet : Ipv4Packet) (nowMs : Ms) :
    Bool × RouterState Ms × List RouterEvent :=
  match routerLookupRoute r packet.dstIp with
  | none => (false, r, [])
  | some route =>
      routerSendPacketResult r packet (routeNextHop route packet) route.outInterface nowMs none

/-- The result goes with the call. -/
theorem routerSendPacketResult_snd (r : RouterState Ms) (packet : Ipv4Packet) (nextHopIp : IpAddress)
    (outInterface : Int) (nowMs : Ms) (cargo : Option RouterCargo) :
    (routerSendPacketResult r packet nextHopIp outInterface nowMs cargo).2 =
      routerSendPacketToNextHop r packet nextHopIp outInterface nowMs cargo := by
  rw [routerSendPacketResult, routerSendPacketToNextHop]
  cases routerInterface r outInterface with
  | none => rfl
  | some port =>
      dsimp only
      cases arpTableGetConst r.arpTable nextHopIp with
      | some nextHopMac =>
          cases ipv4ToBytes packet (ipv4HeaderSize + ipv4MaxPayload) with
          | none => rfl
          | some rawIp =>
              dsimp only
              cases routerSendEthernetFrame r outInterface _ nextHopMac ethernetTypeIpv4 rawIp cargo with
              | none => rfl
              | some event => rfl
      | none =>
          dsimp only
          cases routerQueuePendingPacket r _ with
          | none => rfl
          | some queued =>
              dsimp only
              split
              · rfl
              · cases routerSendArpRequest queued outInterface nextHopIp _ with
                | none => rfl
                | some event => rfl

theorem routerSendIpv4Result_snd (r : RouterState Ms) (packet : Ipv4Packet) (nowMs : Ms) :
    (routerSendIpv4Result r packet nowMs).2 = routerSendIpv4Packet r packet nowMs := by
  rw [routerSendIpv4Result, routerSendIpv4Packet]
  cases routerLookupRoute r packet.dstIp with
  | none => rfl
  | some route => exact routerSendPacketResult_snd r packet _ _ nowMs none

/-! ## What a failed send leaves -/

/-- A packet is queued for a next hop that nothing waits for, and the interface has no address to ask with. -/
structure RouterLeavesPacket (r : RouterState Ms) (nextHopIp : IpAddress) (outInterface : Int) : Prop where
  port : (routerInterface r outInterface).isSome = true
  unknown : arpTableGetConst r.arpTable nextHopIp = none
  first : routerFindPendingForIp r nextHopIp = none
  room : r.pendingQueue.size < routerPendingQueueMaxEntries
  silent : ipIsZero (routerInterfaceIpOrZero r outInterface) = true

omit [SimTime Ms] in
/-- A frame with a payload that is not too long leaves by every interface of the router. -/
theorem routerSendEthernetFrame_isSome {r : RouterState Ms} {outInterface vlanId : Int}
    {dstMac : MacAddress} {ethertype : UInt16} {payload : List UInt8} {cargo : Option RouterCargo}
    (hport : (routerInterface r outInterface).isSome = true)
    (hpayload : payload.length ≤ ethernetMaxPayload) :
    (routerSendEthernetFrame r outInterface vlanId dstMac ethertype payload cargo).isSome = true := by
  obtain ⟨port, hport⟩ := Option.isSome_iff_exists.mp hport
  rw [routerSendEthernetFrame, hport]
  dsimp only
  rw [ethernetCreate, if_neg (not_lt.mpr hpayload)]
  dsimp only
  -- A tag does not change the payload.
  generalize hout : (if 0 < vlanId then _ else _ : EthernetFrame) = out
  have hlength : out.payload = payload := by
    rw [← hout]
    split
    · rw [ethernetSetVlan]
      split
      · rfl
      · rfl
    · rfl
  rw [ethernetToBytes_eq (by rwa [hlength])]
  rfl

omit [SimTime Ms] in
/-- An interface asks for an address unless it has none of its own. -/
theorem routerSendArpRequest_eq_none_iff {r : RouterState Ms} {outInterface : Int} {targetIp : IpAddress}
    {vlanId : Int} (hport : (routerInterface r outInterface).isSome = true) :
    routerSendArpRequest r outInterface targetIp vlanId = none ↔
      ipIsZero (routerInterfaceIpOrZero r outInterface) = true := by
  have hsent := @routerSendEthernetFrame_isSome Ms r outInterface vlanId MacAddress.broadcast
    ethernetTypeArp
  obtain ⟨port, hinterface⟩ := Option.isSome_iff_exists.mp hport
  rw [routerSendArpRequest, hinterface]
  dsimp only
  by_cases hzero : ipIsZero (routerInterfaceIpOrZero r outInterface) = true
  · rw [if_pos hzero]
    exact iff_of_true rfl hzero
  · rw [if_neg hzero, arpMessageToBytes, if_neg (lt_irrefl _)]
    refine iff_of_false (fun hnone => ?_) hzero
    have hsome := @hsent (arpMessageBytes (arpMessageInitRequest (r.macs port)
      (routerInterfaceIpOrZero r outInterface) targetIp)) none hport (by
        rw [arpMessageBytes_length]
        decide)
    dsimp only at hnone
    rw [hnone] at hsome
    cases hsome

/-- A send that returns `0` has changed nothing, or it has left its packet. -/
theorem routerSendPacketResult_failure {r : RouterState Ms} {packet : Ipv4Packet} {nextHopIp : IpAddress}
    {outInterface : Int} {nowMs : Ms} {cargo : Option RouterCargo}
    (hfailed : (routerSendPacketResult r packet nextHopIp outInterface nowMs cargo).1 = false) :
    (routerSendPacketResult r packet nextHopIp outInterface nowMs cargo).2.1 = r ∨
      RouterLeavesPacket r nextHopIp outInterface := by
  rw [routerSendPacketResult] at hfailed ⊢
  cases hport : routerInterface r outInterface with
  | none => exact Or.inl rfl
  | some port =>
      rw [hport] at hfailed
      dsimp only at hfailed ⊢
      cases hknown : arpTableGetConst r.arpTable nextHopIp with
      | some nextHopMac =>
          dsimp only
          cases ipv4ToBytes packet (ipv4HeaderSize + ipv4MaxPayload) with
          | none => exact Or.inl rfl
          | some rawIp =>
              dsimp only
              cases routerSendEthernetFrame r outInterface _ nextHopMac ethernetTypeIpv4 rawIp cargo with
              | none => exact Or.inl rfl
              | some event => exact Or.inl rfl
      | none =>
          rw [hknown] at hfailed
          dsimp only at hfailed ⊢
          by_cases hroom : r.pendingQueue.size < routerPendingQueueMaxEntries
          · rw [routerQueuePendingPacket, dif_pos hroom] at hfailed ⊢
            dsimp only at hfailed ⊢
            cases hfirst : routerFindPendingForIp r nextHopIp with
            | some existing =>
                rw [hfirst] at hfailed
                cases hfailed
            | none =>
                -- the packet stays in the queue, though the request for its next hop was not sent
                rw [hfirst, Option.isSome_none, if_neg Bool.false_ne_true] at hfailed
                have hinterface : (routerInterface r outInterface).isSome = true := by
                  rw [hport]
                  rfl
                split at hfailed
                · rename_i hrequest
                  exact Or.inr ⟨hinterface, hknown, hfirst, hroom,
                    (routerSendArpRequest_eq_none_iff hinterface).mp hrequest⟩
                · cases hfailed
          · rw [routerQueuePendingPacket, dif_neg hroom]
            exact Or.inl rfl

/-- A packet that is left makes the send return `0` with a longer queue. -/
theorem RouterLeavesPacket.result {r : RouterState Ms} {nextHopIp : IpAddress} {outInterface : Int}
    (h : RouterLeavesPacket r nextHopIp outInterface) (packet : Ipv4Packet) (nowMs : Ms)
    (cargo : Option RouterCargo) :
    (routerSendPacketResult r packet nextHopIp outInterface nowMs cargo).1 = false ∧
      (routerSendPacketResult r packet nextHopIp outInterface nowMs cargo).2.1.pendingQueue.size =
        r.pendingQueue.size + 1 := by
  obtain ⟨port, hport⟩ := Option.isSome_iff_exists.mp h.port
  rw [routerSendPacketResult, hport]
  dsimp only
  rw [h.unknown, h.first]
  dsimp only
  rw [routerQueuePendingPacket, dif_pos h.room]
  dsimp only
  rw [Option.isSome_none, if_neg Bool.false_ne_true]
  split
  · exact ⟨rfl, rfl⟩
  · rename_i event hrequest
    -- The queue has no part in the request.
    have hnone : routerSendArpRequest r outInterface nextHopIp
        (routerVlanForIp r nextHopIp (r.config.interfaceVlans port)) = none :=
      (routerSendArpRequest_eq_none_iff h.port).mpr h.silent
    cases hnone.symm.trans hrequest

/-- A send that returns `0` has changed nothing exactly if it has not left its packet. -/
theorem routerSendPacketResult_keeps_iff (r : RouterState Ms) (packet : Ipv4Packet) (nextHopIp : IpAddress)
    (outInterface : Int) (nowMs : Ms) (cargo : Option RouterCargo) :
    ((routerSendPacketResult r packet nextHopIp outInterface nowMs cargo).1 = false →
        (routerSendPacketResult r packet nextHopIp outInterface nowMs cargo).2.1 = r) ↔
      ¬ RouterLeavesPacket r nextHopIp outInterface := by
  constructor
  · intro hkeeps hleaves
    obtain ⟨hfailed, hsize⟩ := hleaves.result packet nowMs cargo
    rw [hkeeps hfailed] at hsize
    omega
  · intro hnot hfailed
    exact (routerSendPacketResult_failure hfailed).resolve_right hnot

/-- The send by the routing table leaves its packet. -/
def RouterLeavesRouted (r : RouterState Ms) (packet : Ipv4Packet) : Prop :=
  ∃ route, routerLookupRoute r packet.dstIp = some route ∧
    RouterLeavesPacket r (routeNextHop route packet) route.outInterface

theorem routerSendIpv4Result_keeps_iff (r : RouterState Ms) (packet : Ipv4Packet) (nowMs : Ms) :
    ((routerSendIpv4Result r packet nowMs).1 = false → (routerSendIpv4Result r packet nowMs).2.1 = r) ↔
      ¬ RouterLeavesRouted r packet := by
  cases hroute : routerLookupRoute r packet.dstIp with
  | none =>
      rw [routerSendIpv4Result, hroute]
      refine iff_of_true (fun _ => rfl) ?_
      rintro ⟨route, hfound, -⟩
      cases hroute.symm.trans hfound
  | some route =>
      rw [routerSendIpv4Result, hroute]
      refine (routerSendPacketResult_keeps_iff r packet _ _ nowMs none).trans (not_congr ?_)
      constructor
      · exact fun hleaves => ⟨route, hroute, hleaves⟩
      · rintro ⟨found, hfound, hleaves⟩
        cases hroute.symm.trans hfound
        exact hleaves

/-- The state after packets were sent one after another. -/
def routerSendsRun (r : RouterState Ms) (sends : List (Ipv4Packet × Ms)) : RouterState Ms :=
  sends.foldl (fun r send => (routerSendIpv4Result r send.1 send.2).2.1) r

/-- Every one of the sends returns `0`, and none leaves its packet. -/
def RouterSendsFail (r : RouterState Ms) : List (Ipv4Packet × Ms) → Prop
  | [] => True
  | send :: rest =>
      (routerSendIpv4Result r send.1 send.2).1 = false ∧ ¬ RouterLeavesRouted r send.1 ∧
        RouterSendsFail (routerSendIpv4Result r send.1 send.2).2.1 rest

/-- However often sends fail without leaving a packet, the queue does not fill up. -/
theorem RouterSendsFail.run_eq {r : RouterState Ms} {sends : List (Ipv4Packet × Ms)}
    (h : RouterSendsFail r sends) : routerSendsRun r sends = r := by
  induction sends with
  | nil => rfl
  | cons send rest ih =>
      obtain ⟨hfailed, hnot, hrest⟩ := h
      have hkeeps := (routerSendIpv4Result_keeps_iff r send.1 send.2).mpr hnot hfailed
      rw [hkeeps] at hrest
      rw [routerSendsRun, List.foldl_cons, hkeeps]
      exact ih hrest

/-- A failed send leaves the router as it was exactly if it does not leave its packet; and sends that fail so
never fill the queue. -/
theorem routerSend_failure_keeps_iff (r : RouterState Ms) (packet : Ipv4Packet) (nextHopIp : IpAddress)
    (outInterface : Int) (nowMs : Ms) (cargo : Option RouterCargo) (sends : List (Ipv4Packet × Ms)) :
    (((routerSendPacketResult r packet nextHopIp outInterface nowMs cargo).1 = false →
        (routerSendPacketResult r packet nextHopIp outInterface nowMs cargo).2.1 = r) ↔
      ¬ RouterLeavesPacket r nextHopIp outInterface) ∧
    (((routerSendIpv4Result r packet nowMs).1 = false →
        (routerSendIpv4Result r packet nowMs).2.1 = r) ↔ ¬ RouterLeavesRouted r packet) ∧
    (RouterSendsFail r sends → routerSendsRun r sends = r) :=
  ⟨routerSendPacketResult_keeps_iff r packet nextHopIp outInterface nowMs cargo,
    routerSendIpv4Result_keeps_iff r packet nowMs, RouterSendsFail.run_eq⟩

end Sends

/-- A router whose only route leads to an interface without an address. -/
def silentRouter : RouterState ℚ :=
  { idleRouter with
    config := { routerInit with
      routingTable := [{ destination := ⟨10, 0, 0, 0, 24⟩, nextHop := ipZero, outInterface := 1 }] } }

/-- Packets without a route fail and leave nothing. -/
theorem routerSend_failure_keeps_iff_unrouted :
    routerSendsRun silentRouter [(ipv4Init, 0), (ipv4Init, 1)] = silentRouter := by
  have hnone : routerLookupRoute silentRouter ipv4Init.dstIp = none := by
    decide +kernel
  have hunrouted : ¬ RouterLeavesRouted silentRouter ipv4Init := by
    rintro ⟨route, hroute, -⟩
    cases hroute.symm.trans hnone
  exact (routerSend_failure_keeps_iff silentRouter ipv4Init ipZero 1 0 none
    [(ipv4Init, 0), (ipv4Init, 1)]).2.2 ⟨rfl, hunrouted, rfl, hunrouted, trivial⟩

/-- The send of a packet for a neighbour returns `0` and leaves the packet in the queue. -/
theorem routerSend_failure_keeps_iff_silent :
    ¬ ((routerSendIpv4Result silentRouter { ipv4Init with dstIp := quietNeighbour } 0).1 = false →
      (routerSendIpv4Result silentRouter { ipv4Init with dstIp := quietNeighbour } 0).2.1 =
        silentRouter) := by
  intro hkeeps
  have hsize : (routerSendIpv4Packet silentRouter { ipv4Init with dstIp := quietNeighbour }
      0).1.pendingQueue.size = 1 := by
    decide +kernel
  rw [← routerSendIpv4Result_snd, hkeeps (by decide +kernel)] at hsize
  cases hsize

end MagiStack
