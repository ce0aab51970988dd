import MagiStack.Layer3.RouterForward
import Mathlib.Data.List.Perm.Subperm

/-!
# RouterCargo — a router neither makes nor copies the packets it forwards

The packets a router forwards wait in its queue or leave in a frame.  `routerAct_keeps` says of every step
that what waits afterwards and what has left was waiting before or has just come in, each packet once, and
that what has left left in a frame with its bytes.
-/

namespace MagiStack

/-! ## Packets on their way -/

/-- A forwarded packet as it goes on: one hop less to live. -/
def RouterCargo.forwarded (cargo : RouterCargo) : Ipv4Packet :=
  { cargo.incoming with ttl := cargo.incoming.ttl - 1 }

/-- A frame carries a packet. -/
def FrameCarries (packet : Ipv4Packet) (raw : List UInt8) : Prop :=
  packet.payload.length ≤ ipv4MaxPayload ∧ ∃ frame : EthernetFrame, frame.Serializable ∧
    frame.ethertype = ethernetTypeIpv4 ∧ frame.payload = ipv4Bytes packet ∧ raw = ethernetBytes frame

/-- The packet an event hands on for another router, with its frame. -/
def RouterEvent.launched : RouterEvent → Option (RouterCargo × List UInt8)
  | .frame _ raw (some cargo) => some (cargo, raw)
  | _ => none

/-- The packets that are handed on. -/
def launched (events : List RouterEvent) : List (RouterCargo × List UInt8) :=
  events.filterMap RouterEvent.launched

theorem launched_of_noCargo {events : List RouterEvent}
    (h : ∀ event ∈ events, ∃ port raw, event = .frame port raw none) : launched events = [] := by
  refine List.filterMap_eq_nil_iff.mpr fun event hevent => ?_
  rcases h event hevent with ⟨port, raw, rfl⟩
  rfl

/-- The packet that is on its way with a cargo. -/
def onTheWay (packet : Ipv4Packet) (cargo : Option RouterCargo) : List (Ipv4Packet × RouterCargo) :=
  (cargo.map fun c => (packet, c)).toList

section Steps

variable {Ms : Type}

/-- The forwarded packets among those that wait. -/
def RouterState.waiting (r : RouterState Ms) : List (Ipv4Packet × RouterCargo) :=
  r.pending.flatMap fun item => onTheWay item.packet item.cargo

/-- A packet that came in and has another hop to live. -/
def arrivingPacket (packet : Ipv4Packet) (number : Option Nat) : List (Ipv4Packet × RouterCargo) :=
  if packet.ttl ≤ 1 then
    []
  else
    let cargo : RouterCargo := { incoming := packet, number := number }
    [(cargo.forwarded, cargo)]

/-- The packet that comes in with a frame. -/
def arriving (raw : List UInt8) (number : Option Nat) : List (Ipv4Packet × RouterCargo) :=
  ((ethernetFromBytes raw).bind routerIpv4Packet).elim [] fun packet => arrivingPacket packet number

/-- What comes in with a step. -/
def RouterAction.arriving : RouterAction Ms → List (Ipv4Packet × RouterCargo)
  | .receive _ raw _ number => MagiStack.arriving raw number
  | _ => []

/-- A step leaves waiting or hands on only packets that waited before or came in, each once, and hands
them on in frames that carry them. -/
def RouterKeeps (before : List (Ipv4Packet × RouterCargo)) (result : RouterState Ms × List RouterEvent) :
    Prop :=
  ∃ sent : List (Ipv4Packet × RouterCargo), (result.1.waiting ++ sent).Subperm before ∧
    List.Forall₂ (fun packet out => out.1 = packet.2 ∧ FrameCarries packet.1 out.2) sent
      (launched result.2)

theorem RouterKeeps.nothing {r : RouterState Ms} {before : List (Ipv4Packet × RouterCargo)}
    (h : r.waiting.Subperm before) {events : List RouterEvent} (hevents : launched events = []) :
    RouterKeeps before (r, events) := by
  refine ⟨[], ?_, ?_⟩
  · rwa [List.append_nil]
  · rw [hevents]
    exact .nil

theorem RouterKeeps.mono {before before' : List (Ipv4Packet × RouterCargo)}
    {result : RouterState Ms × List RouterEvent} (h : RouterKeeps before result)
    (hbefore : before.Subperm before') : RouterKeeps before' result := by
  rcases h with ⟨sent, hsub, hsent⟩
  exact ⟨sent, hsub.trans hbefore, hsent⟩

/-- Sending a packet keeps it and those that wait. -/
theorem RouterSends.keeps {r : RouterState Ms} {packet : Ipv4Packet} {cargo : Option RouterCargo}
    {result : RouterState Ms × List RouterEvent} (h : RouterSends r packet cargo result) :
    RouterKeeps (r.waiting ++ onTheWay packet cargo) result := by
  cases h with
  | nothing => exact .nothing (List.sublist_append_left _ _).subperm rfl
  | sent port frame hframe htype hpayload hlength =>
      cases cargo with
      | none => exact .nothing (List.sublist_append_left _ _).subperm rfl
      | some cargo =>
          refine ⟨[(packet, cargo)], List.Subperm.refl _, ?_⟩
          exact .cons ⟨rfl, hlength, frame, hframe, htype, hpayload, rfl⟩ .nil
  | waits r' item events hpacket hcargo hpending hevents =>
      have hwaiting : r'.waiting = r.waiting ++ onTheWay packet cargo := by
        rw [RouterState.waiting, hpending, List.flatMap_append, List.flatMap_singleton, hpacket, hcargo]
        rfl
      refine .nothing ?_ (launched_of_noCargo hevents)
      rw [hwaiting]

/-- Sending a packet of the router's own keeps those that wait. -/
theorem RouterSends.keeps_own {r : RouterState Ms} {packet : Ipv4Packet}
    {result : RouterState Ms × List RouterEvent} (h : RouterSends r packet none result) :
    RouterKeeps r.waiting result := by
  have hkeeps := h.keeps
  rwa [onTheWay, Option.map_none, Option.toList_none, List.append_nil] at hkeeps

theorem waiting_retried (r : RouterState Ms) (nextHopIp : IpAddress) (arpAttempts : Nat)
    (attemptMs : Ms) :
    (routerSetArpAttemptForIp r nextHopIp arpAttempts attemptMs).waiting = r.waiting := by
  rw [RouterState.waiting, RouterState.waiting, RouterState.pending, routerSetArpAttemptForIp,
    RingQueue.toList_modifyAll, List.flatMap_map]
  refine List.flatMap_congr fun item _ => ?_
  unfold RouterPendingPacket.retried
  split
  all_goals rfl

/-- A packet that is taken out of the queue was waiting with the rest. -/
theorem routerDequeuePendingForIp_waiting {r r' : RouterState Ms} {nextHopIp : IpAddress}
    {item : RouterPendingPacket Ms} (h : routerDequeuePendingForIp r nextHopIp = (some item, r')) :
    (r'.waiting ++ onTheWay item.packet item.cargo).Perm r.waiting := by
  rw [routerDequeuePendingForIp, Prod.mk.injEq, RingQueue.takeFirst_fst] at h
  rcases h with ⟨hfound, rfl⟩
  rcases List.find?_eq_some_iff_append.mp hfound with ⟨hitem, before, after, hsplit, hbefore⟩
  have hskip : ∀ other ∈ before, ¬ RouterPendingPacket.waitsFor nextHopIp other = true := by
    intro other hother
    simpa using hbefore other hother
  rw [RouterState.waiting, RouterState.waiting, RouterState.pending, RouterState.pending,
    RingQueue.toList_takeFirst, hsplit, List.eraseP_append_right _ hskip,
    List.eraseP_cons_of_pos hitem, List.flatMap_append, List.flatMap_append, List.flatMap_cons,
    List.append_assoc]
  exact List.perm_append_comm.append_left _

theorem routerDequeuePendingForIp_none {r r' : RouterState Ms} {nextHopIp : IpAddress}
    (h : routerDequeuePendingForIp r nextHopIp = (none, r')) : r'.waiting = r.waiting := by
  rw [routerDequeuePendingForIp, Prod.mk.injEq, RingQueue.takeFirst_fst] at h
  rcases h with ⟨hnone, rfl⟩
  have hskip : ∀ other ∈ r.pendingQueue.toList,
      ¬ RouterPendingPacket.waitsFor nextHopIp other = true := List.find?_eq_none.mp hnone
  rw [RouterState.waiting, RouterState.waiting, RouterState.pending, RouterState.pending,
    RingQueue.toList_takeFirst, List.eraseP_of_forall_not hskip]

section Times

variable [SimTime Ms]

theorem routerSendIcmpError_keeps (r : RouterState Ms) (original : Ipv4Packet) (type code : UInt8)
    (nowMs : Ms) : RouterKeeps r.waiting (routerSendIcmpError r original type code nowMs) := by
  have hnothing : RouterKeeps r.waiting (r, []) := .nothing (List.Subperm.refl _) rfl
  rw [routerSendIcmpError]
  split
  · exact hnothing
  dsimp only
  split
  · exact hnothing
  split
  · exact hnothing
  split
  · exact hnothing
  split
  · exact hnothing
  · rename_i response hresponse
    exact (routerSendIpv4Packet_sends r response nowMs).keeps_own

theorem routerForwardIpv4Packet_keeps (r : RouterState Ms) (packet : Ipv4Packet) (nowMs : Ms)
    (number : Option Nat) :
    RouterKeeps (r.waiting ++ arrivingPacket packet number)
      (routerForwardIpv4Packet r packet nowMs number) := by
  rw [routerForwardIpv4Packet, arrivingPacket]
  by_cases httl : packet.ttl ≤ 1
  · rw [if_pos httl, if_pos httl, List.append_nil]
    exact routerSendIcmpError_keeps r packet _ _ nowMs
  · rw [if_neg httl, if_neg httl]
    dsimp only
    split
    · exact (routerSendIcmpError_keeps r _ _ _ nowMs).mono (List.sublist_append_left _ _).subperm
    · exact (routerSendPacketToNextHop_sends r _ _ _ nowMs _).keeps

theorem routerHandleLocalIpv4_keeps (r : RouterState Ms) (packet : Ipv4Packet) (nowMs : Ms) :
    RouterKeeps r.waiting (routerHandleLocalIpv4 r packet nowMs) := by
  have hnothing : RouterKeeps r.waiting (r, []) := .nothing (List.Subperm.refl _) rfl
  rw [routerHandleLocalIpv4]
  repeat' split
  all_goals first
    | exact hnothing
    | exact (routerSendIpv4Packet_sends r _ nowMs).keeps_own

theorem routerSendIcmpEchoRequest_keeps (r : RouterState Ms) (targetIp : IpAddress) (ttl : UInt8)
    (sequence : UInt16) (nowMs : Ms) :
    RouterKeeps r.waiting (routerSendIcmpEchoRequest r targetIp ttl sequence nowMs) := by
  have hnothing : RouterKeeps r.waiting (r, []) := .nothing (List.Subperm.refl _) rfl
  rw [routerSendIcmpEchoRequest]
  dsimp only
  repeat' split
  all_goals first
    | exact hnothing
    | exact (routerSendIpv4Packet_sends r _ nowMs).keeps_own

omit [SimTime Ms] in
theorem routerLearnArp_waiting (r : RouterState Ms) (message : ArpMessage) (vlanId : Int) :
    (routerLearnArp r message vlanId).waiting = r.waiting := by
  rw [routerLearnArp]
  split
  · rfl
  dsimp only
  split
  · rfl
  · rfl

omit [SimTime Ms] in
theorem routerReceiveArp_keeps (r : RouterState Ms) (port : Fin maxPort) (vlanId : Int)
    (arp : ArpMessage) : RouterKeeps r.waiting (routerReceiveArp r port vlanId arp) := by
  unfold routerReceiveArp
  rw [← routerLearnArp_waiting r arp vlanId]
  dsimp only
  split
  · refine .nothing (List.Subperm.refl _) (launched_of_noCargo fun event hevent => ?_)
    exact routerSendArpReply_eq_some (Option.mem_toList.mp hevent)
  · split
    · exact .nothing (List.Subperm.refl _) rfl
    · exact .nothing (List.Subperm.refl _) rfl

theorem routerReceive_keeps (r : RouterState Ms) (port : Fin maxPort) (raw : List UInt8) (nowMs : Ms)
    (number : Option Nat) :
    RouterKeeps (r.waiting ++ arriving raw number) (routerReceive r port raw nowMs number) := by
  rw [routerReceive, arriving]
  cases ethernetFromBytes raw with
  | none => exact .nothing (List.sublist_append_left _ _).subperm rfl
  | some frame =>
      simp only [Option.bind_some]
      have hnoted : (routerNoteVlan r port
          (if frame.hasVlan then (frame.vlanId.toNat : Int) else 0)).waiting = r.waiting := rfl
      generalize routerNoteVlan r port
        (if frame.hasVlan then (frame.vlanId.toNat : Int) else 0) = noted at hnoted
      rw [← hnoted]
      -- Whatever arrived may be dropped.
      have hnothing : ∀ more, RouterKeeps (noted.waiting ++ more) (noted, []) :=
        fun more => .nothing (List.sublist_append_left _ _).subperm rfl
      cases !ethernetIsBroadcast frame.dstMac && !macEqual frame.dstMac (noted.macs port) with
      | true => exact hnothing _
      | false =>
          simp only [Bool.false_eq_true, if_false]
          by_cases harp : frame.ethertype = ethernetTypeArp
          · rw [if_pos harp]
            cases arpMessageFromBytes frame.payload with
            | none => exact hnothing _
            | some arp =>
                exact (routerReceiveArp_keeps noted port _ arp).mono
                  (List.sublist_append_left _ _).subperm
          · rw [if_neg harp]
            cases routerIpv4Packet frame with
            | none => exact hnothing _
            | some packet =>
                simp only [Option.elim_some]
                cases routerHasInterfaceIp noted packet.dstIp with
                | true =>
                    exact (routerHandleLocalIpv4_keeps noted packet nowMs).mono
                      (List.sublist_append_left _ _).subperm
                | false => exact routerForwardIpv4Packet_keeps noted packet nowMs number

theorem routerResume_keeps (r : RouterState Ms) (realtime : Bool) (nowMs : Ms) :
    RouterKeeps r.waiting (routerResume r realtime nowMs) := by
  rw [routerResume]
  split
  · exact .nothing (List.Subperm.refl _) rfl
  rename_i task tasks htasks
  have hwaiting : (RouterState.mk r.numInterfaces r.numInterfaces_le r.macs r.config r.arpTable
      r.arpEntryVlans r.pendingQueue tasks).waiting = r.waiting := rfl
  rw [← hwaiting]
  -- Only the rounds that take a packet off the queue can send what waited.
  cases task with
  | recheck nextHopIp pollMs =>
      dsimp only
      split
      · exact .nothing (List.Subperm.refl _) rfl
      · exact .nothing (List.Subperm.refl _) rfl
  | flush resolvedIp =>
      dsimp only
      rw [routerFlushRound]
      split
      · rename_i rest hnone
        rw [← routerDequeuePendingForIp_none hnone]
        exact .nothing (List.Subperm.refl _) rfl
      · rename_i item rest hsome
        have hperm := routerDequeuePendingForIp_waiting hsome
        refine RouterKeeps.mono ?_ hperm.subperm
        exact (routerSendPacketToNextHop_sends (rest.pushTask (.flush resolvedIp)) _ _ _ _ _).keeps
  | drop nextHopIp =>
      dsimp only
      rw [routerDropRound]
      split
      · rename_i rest hnone
        rw [← routerDequeuePendingForIp_none hnone]
        exact .nothing (List.Subperm.refl _) rfl
      · rename_i item rest hsome
        have hperm := routerDequeuePendingForIp_waiting hsome
        refine @RouterKeeps.mono Ms rest.waiting _ _ ?_
          ((List.sublist_append_left _ _).subperm.trans hperm.subperm)
        dsimp only
        split
        · exact routerSendIcmpError_keeps (rest.pushTask (.drop nextHopIp)) _ _ _ _
        · exact .nothing (List.Subperm.refl _) rfl
  | poll pollMs =>
      dsimp only
      rw [routerPollRound]
      split
      · exact .nothing (List.Subperm.refl _) rfl
      · dsimp only
        split
        · exact .nothing (List.Subperm.refl _) rfl
        · refine .nothing ?_ (launched_of_noCargo fun event hevent => ?_)
          · rw [waiting_retried]
            exact List.Subperm.refl _
          · exact routerSendArpRequest_eq_some (Option.mem_toList.mp hevent)

/-- Every step keeps what waits and what comes in, or loses some of it. -/
theorem routerAct_keeps (r : RouterState Ms) (action : RouterAction Ms) :
    RouterKeeps (r.waiting ++ action.arriving) (routerAct r action) := by
  cases action with
  | receive port raw nowMs number => exact routerReceive_keeps r port raw nowMs number
  | poll nowMs => exact .nothing (List.sublist_append_left _ _).subperm rfl
  | echo targetIp ttl sequence nowMs =>
      exact (routerSendIcmpEchoRequest_keeps r targetIp ttl sequence nowMs).mono
        (List.sublist_append_left _ _).subperm
  | resume realtime nowMs =>
      exact (routerResume_keeps r realtime nowMs).mono (List.sublist_append_left _ _).subperm
  | configure config => exact .nothing (List.sublist_append_left _ _).subperm rfl

end Times

end Steps

end MagiStack
