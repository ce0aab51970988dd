import MagiStack.Layer3.RouterForward

/-!
# RouterErrors — ICMP errors about ICMP errors

A router makes ICMP errors in three places, and asks `router_can_send_error_for_packet` in one of them
only.  A run makes no error about an ICMP error exactly when every ICMP error it receives for another
address is forwarded, or comes from a source the router cannot report to.
-/

namespace MagiStack

/-- An ICMP Destination Unreachable or Time Exceeded message. -/
def Ipv4Packet.IsIcmpError (packet : Ipv4Packet) : Prop :=
  packet.protocol = ipv4ProtocolIcmp ∧ ∃ icmp, icmpFromBytes packet.payload = some icmp ∧
    (icmp.type = icmpDestUnreachable ∨ icmp.type = icmpTimeExceeded)

/-- An event is an ICMP error about a packet. -/
def RouterEvent.IsErrorAbout (event : RouterEvent) (about : Ipv4Packet) : Prop :=
  ∃ type code, event = .icmpError type code about

/-- No event is an ICMP error about an ICMP error. -/
def NoErrorAboutError (events : List RouterEvent) : Prop :=
  ∀ event ∈ events, ∀ about, event.IsErrorAbout about → ¬ about.IsIcmpError

theorem noErrorAboutError_append {events more : List RouterEvent} :
    NoErrorAboutError (events ++ more) ↔ NoErrorAboutError events ∧ NoErrorAboutError more := by
  constructor
  · intro h
    exact ⟨fun event hevent => h event (List.mem_append_left _ hevent),
      fun event hevent => h event (List.mem_append_right _ hevent)⟩
  · rintro ⟨hevents, hmore⟩ event hevent
    rcases List.mem_append.mp hevent with hleft | hright
    · exact hevents event hleft
    · exact hmore event hright

/-- `router_can_send_error_for_packet` is the test for ICMP errors. -/
theorem routerCanSendErrorForPacket_iff (packet : Ipv4Packet) :
    routerCanSendErrorForPacket packet = true ↔ ¬ packet.IsIcmpError := by
  rw [routerCanSendErrorForPacket, Ipv4Packet.IsIcmpError]
  by_cases hprotocol : packet.protocol = ipv4ProtocolIcmp
  · rw [if_neg (not_not_intro hprotocol)]
    cases icmpFromBytes packet.payload with
    | none => simp
    | some icmp => simp [hprotocol]
  · simp [hprotocol]

section Runs

variable {Ms : Type}

/-- An ICMP error can be sent back to the source of a packet. -/
def RouterCanReport (r : RouterState Ms) (packet : Ipv4Packet) : Prop :=
  ∃ route, routerLookupRoute r packet.srcIp = some route ∧
    ipIsZero (routerInterfaceIpOrZero r route.outInterface) = false

/-- A packet that is not for the router itself is forwarded. -/
def RouterForwards (r : RouterState Ms) (packet : Ipv4Packet) : Prop :=
  1 < packet.ttl ∧ (routerLookupRoute r packet.dstIp).isSome = true

/-- A received ICMP error for another address is forwarded, or cannot be reported. -/
def RouterActsWell (r : RouterState Ms) : RouterAction Ms → Prop
  | .receive port raw _ _ =>
      ∀ packet, routerReceivedPacket r port raw = some packet → packet.IsIcmpError →
        routerHasInterfaceIp r packet.dstIp = false →
          RouterForwards r packet ∨ ¬ RouterCanReport r packet
  | _ => True

variable [SimTime Ms]

/-- The events of a run. -/
def routerRunEvents : RouterState Ms → List (RouterAction Ms) → List RouterEvent
  | _, [] => []
  | r, action :: actions => (routerAct r action).2 ++ routerRunEvents (routerAct r action).1 actions

/-- Every step of a run acts well. -/
def RouterRunActsWell : RouterState Ms → List (RouterAction Ms) → Prop
  | _, [] => True
  | r, action :: actions => RouterActsWell r action ∧ RouterRunActsWell (routerAct r action).1 actions

/-! ## Where errors are made -/

/-- The events are frames. -/
def OnlyFrames (events : List RouterEvent) : Prop :=
  ∀ event ∈ events, ∀ about, ¬ event.IsErrorAbout about

theorem onlyFrames_nil : OnlyFrames [] :=
  fun _ hevent => (nomatch hevent)

theorem onlyFrames_of_frame {events : List RouterEvent}
    (h : ∀ event ∈ events, ∃ port raw cargo, event = .frame port raw cargo) : OnlyFrames events := by
  rintro event hevent about ⟨type, code, herror⟩
  rcases h event hevent with ⟨port, raw, cargo, hframe⟩
  rw [hframe] at herror
  cases herror

theorem OnlyFrames.noErrorAboutError {events : List RouterEvent} (h : OnlyFrames events) :
    NoErrorAboutError events :=
  fun event hevent about herror => absurd herror (h event hevent about)

omit [SimTime Ms] in
/-- Sending a packet makes no error. -/
theorem RouterSends.onlyFrames {r : RouterState Ms} {packet : Ipv4Packet} {cargo : Option RouterCargo}
    {result : RouterState Ms × List RouterEvent} (h : RouterSends r packet cargo result) :
    OnlyFrames result.2 := by
  cases h with
  | nothing => exact onlyFrames_nil
  | sent port frame hframe htype hpayload hlength =>
      refine onlyFrames_of_frame fun event hevent => ?_
      exact ⟨port, _, _, List.mem_singleton.mp hevent⟩
  | waits r' item events hpacket hcargo hpending hevents =>
      refine onlyFrames_of_frame fun event hevent => ?_
      rcases hevents event hevent with ⟨port, raw, hframe⟩
      exact ⟨port, raw, none, hframe⟩

/-- `router_send_icmp_error` sends an ICMP message of its type about its packet exactly when it can report
to the source. -/
theorem routerSendIcmpError_reports (r : RouterState Ms) (original : Ipv4Packet) (type code : UInt8)
    (nowMs : Ms) :
    (RouterCanReport r original ∧ ∃ response,
      (response.protocol = ipv4ProtocolIcmp ∧
          ∃ icmp, icmpFromBytes response.payload = some icmp ∧ icmp.type = type) ∧
        (routerSendIcmpError r original type code nowMs).1 =
          (routerSendIpv4Packet r response nowMs).1 ∧
        (routerSendIcmpError r original type code nowMs).2 =
          .icmpError type code original :: (routerSendIpv4Packet r response nowMs).2) ∨
    (¬ RouterCanReport r original ∧ routerSendIcmpError r original type code nowMs = (r, [])) := by
  rw [routerSendIcmpError, RouterCanReport]
  cases hroute : routerLookupRoute r original.srcIp with
  | none =>
      right
      refine ⟨?_, rfl⟩
      rintro ⟨route, hcontra, -⟩
      cases hcontra
  | some route =>
      dsimp only
      cases hzero : ipIsZero (routerInterfaceIpOrZero r route.outInterface) with
      | true =>
          right
          refine ⟨?_, if_pos rfl⟩
          rintro ⟨route', hroute', hzero'⟩
          cases hroute'
          rw [hzero] at hzero'
          cases hzero'
      | false =>
          left
          -- At most 28 bytes are quoted, so that the message and its packet can be made.
          have hquote : ¬ icmpMaxPayload <
              (((ipv4ToBytes original (ipv4HeaderSize + ipv4MaxPayload)).getD []).take 28).length := by
            rw [List.length_take, icmpMaxPayload]
            omega
          rw [if_neg Bool.false_ne_true, icmpCreate, if_neg hquote]
          dsimp only
          obtain ⟨message, hmessage⟩ : ∃ message : IcmpMessage, message =
              { type := type
                code := code
                checksum := 0
                identifier := 0
                sequence := 0
                payload := ((ipv4ToBytes original (ipv4HeaderSize + ipv4MaxPayload)).getD []).take
                  28 } := ⟨_, rfl⟩
          have hpayload : message.payload.length ≤ icmpMaxPayload := by
            rw [hmessage]
            exact Nat.le_of_not_lt hquote
          have htype : message.type = type := by
            rw [hmessage]
          have hfits : ¬ ipv4MaxPayload < (icmpBytes message).length := by
            rw [icmpBytes_eq, icmpBytesWith_length, hmessage, List.length_take, icmpHeaderSize,
              ipv4MaxPayload]
            omega
          have hparsed := icmpFromBytes_bytesWith (icmpComputeChecksum (icmpBytesWith message 0))
            hpayload
          rw [← icmpBytes_eq] at hparsed
          rw [← hmessage, icmpToBytes_eq hpayload]
          dsimp only
          rw [ipv4Create, if_neg hfits]
          refine ⟨⟨route, rfl, hzero⟩, _, ⟨rfl, ?_⟩, rfl, rfl⟩
          exact ⟨_, hparsed, htype⟩

/-- `router_send_icmp_error` makes no error about an ICMP error, unless it is asked for one it can send. -/
theorem routerSendIcmpError_noErrorAboutError (r : RouterState Ms) (original : Ipv4Packet)
    (type code : UInt8) (nowMs : Ms) :
    NoErrorAboutError (routerSendIcmpError r original type code nowMs).2 ↔
      ¬ (original.IsIcmpError ∧ RouterCanReport r original) := by
  rcases routerSendIcmpError_reports r original type code nowMs with
    ⟨hreport, response, -, -, hevents⟩ | ⟨hreport, hnothing⟩
  · rw [hevents]
    constructor
    · rintro h ⟨herror, -⟩
      exact h _ List.mem_cons_self original ⟨type, code, rfl⟩ herror
    · intro h event hevent about habout
      rcases List.mem_cons.mp hevent with hfirst | hrest
      · rcases habout with ⟨type', code', hsame⟩
        rw [hfirst, RouterEvent.icmpError.injEq] at hsame
        rcases hsame with ⟨-, -, rfl⟩
        exact fun herror => h ⟨herror, hreport⟩
      · exact absurd habout
          ((routerSendIpv4Packet_sends r response nowMs).onlyFrames event hrest about)
  · rw [hnothing]
    exact ⟨fun _ h => hreport h.2, fun _ => onlyFrames_nil.noErrorAboutError⟩

theorem routerHandleLocalIpv4_onlyFrames (r : RouterState Ms) (packet : Ipv4Packet) (nowMs : Ms) :
    OnlyFrames (routerHandleLocalIpv4 r packet nowMs).2 := by
  rw [routerHandleLocalIpv4]
  repeat' split
  all_goals first
    | exact onlyFrames_nil
    | exact (routerSendIpv4Packet_sends r _ nowMs).onlyFrames

theorem routerSendIcmpEchoRequest_onlyFrames (r : RouterState Ms) (targetIp : IpAddress)
    (ttl : UInt8) (sequence : UInt16) (nowMs : Ms) :
    OnlyFrames (routerSendIcmpEchoRequest r targetIp ttl sequence nowMs).2 := by
  rw [routerSendIcmpEchoRequest]
  dsimp only
  repeat' split
  all_goals first
    | exact onlyFrames_nil
    | exact (routerSendIpv4Packet_sends r _ nowMs).onlyFrames

/-- A packet that is decremented is an ICMP error when it was one before. -/
theorem isIcmpError_of_payload {packet packet' : Ipv4Packet} (hprotocol : packet'.protocol =
    packet.protocol) (hpayload : packet'.payload = packet.payload) :
    packet'.IsIcmpError ↔ packet.IsIcmpError := by
  rw [Ipv4Packet.IsIcmpError, Ipv4Packet.IsIcmpError, hprotocol, hpayload]

theorem routerForwardIpv4Packet_noErrorAboutError (r : RouterState Ms) (packet : Ipv4Packet)
    (nowMs : Ms) (number : Option Nat) :
    NoErrorAboutError (routerForwardIpv4Packet r packet nowMs number).2 ↔
      (packet.IsIcmpError → RouterForwards r packet ∨ ¬ RouterCanReport r packet) := by
  rw [routerForwardIpv4Packet, RouterForwards]
  by_cases httl : packet.ttl ≤ 1
  · rw [if_pos httl, routerSendIcmpError_noErrorAboutError]
    have hexpired : ¬ (1 < packet.ttl) := UInt8.not_lt.mpr httl
    tauto
  · rw [if_neg httl]
    have halive : 1 < packet.ttl := UInt8.not_le.mp httl
    dsimp only
    cases hroute : routerLookupRoute r packet.dstIp with
    | none =>
        dsimp only
        rw [routerSendIcmpError_noErrorAboutError, @isIcmpError_of_payload packet _ rfl rfl]
        have hreport : RouterCanReport r { packet with ttl := packet.ttl - 1 } ↔
            RouterCanReport r packet := Iff.rfl
        rw [hreport]
        simp only [Option.isSome_none, Bool.false_eq_true, and_false, false_or]
        tauto
    | some route =>
        have hframes := (routerSendPacketToNextHop_sends r { packet with ttl := packet.ttl - 1 }
          (routeNextHop route { packet with ttl := packet.ttl - 1 }) route.outInterface nowMs
          (some { incoming := packet, number := number })).onlyFrames
        exact ⟨fun _ _ => Or.inl ⟨halive, rfl⟩, fun _ => hframes.noErrorAboutError⟩

omit [SimTime Ms] in
theorem routerReceiveArp_onlyFrames (r : RouterState Ms) (port : Fin maxPort) (vlanId : Int)
    (arp : ArpMessage) : OnlyFrames (routerReceiveArp r port vlanId arp).2 := by
  rw [routerReceiveArp]
  split
  · refine onlyFrames_of_frame fun event hevent => ?_
    rcases routerSendArpReply_eq_some (Option.mem_toList.mp hevent) with ⟨portOut, raw, hframe⟩
    exact ⟨portOut, raw, none, hframe⟩
  · split
    · exact onlyFrames_nil
    · exact onlyFrames_nil

theorem routerReceive_noErrorAboutError (r : RouterState Ms) (port : Fin maxPort) (raw : List UInt8)
    (nowMs : Ms) (number : Option Nat) :
    NoErrorAboutError (routerReceive r port raw nowMs number).2 ↔
      RouterActsWell r (.receive port raw nowMs number) := by
  rw [routerReceive, RouterActsWell, routerReceivedPacket]
  cases ethernetFromBytes raw with
  | none =>
      simp only [Option.bind_none]
      exact ⟨fun _ packet hpacket => (nomatch hpacket), fun _ => onlyFrames_nil.noErrorAboutError⟩
  | some frame =>
      simp only [Option.bind_some]
      -- noting the VLAN touches neither the addresses nor the routes
      generalize hnoted : routerNoteVlan r port
        (if frame.hasVlan then (frame.vlanId.toNat : Int) else 0) = noted
      have hmacs : noted.macs = r.macs := by
        rw [← hnoted]
        rfl
      rw [hmacs]
      cases hother : (!ethernetIsBroadcast frame.dstMac && !macEqual frame.dstMac (r.macs port)) with
      | true =>
          exact ⟨fun _ packet hpacket => (nomatch hpacket), fun _ => onlyFrames_nil.noErrorAboutError⟩
      | false =>
          simp only [Bool.false_eq_true, if_false]
          by_cases harp : frame.ethertype = ethernetTypeArp
          · have hnone : routerIpv4Packet frame = none := by
              rw [routerIpv4Packet, harp]
              rfl
            rw [if_pos harp, hnone]
            constructor
            · exact fun _ packet hpacket => (nomatch hpacket)
            · intro _
              split
              · exact onlyFrames_nil.noErrorAboutError
              · exact (routerReceiveArp_onlyFrames _ _ _ _).noErrorAboutError
          · rw [if_neg harp]
            cases hpacket : routerIpv4Packet frame with
            | none =>
                exact ⟨fun _ packet hcontra => (nomatch hcontra),
                  fun _ => onlyFrames_nil.noErrorAboutError⟩
            | some packet =>
                have hlocal : routerHasInterfaceIp noted packet.dstIp =
                    routerHasInterfaceIp r packet.dstIp := by
                  rw [← hnoted]
                  rfl
                have hforwards : RouterForwards noted packet ↔ RouterForwards r packet := by
                  rw [← hnoted]
                  exact Iff.rfl
                have hreport : RouterCanReport noted packet ↔ RouterCanReport r packet := by
                  rw [← hnoted]
                  exact Iff.rfl
                dsimp only
                rw [hlocal]
                cases hours : routerHasInterfaceIp r packet.dstIp with
                | true =>
                    rw [if_pos rfl]
                    constructor
                    · intro _ packet' hsame _ hcontra
                      cases hsame
                      rw [hours] at hcontra
                      cases hcontra
                    · exact fun _ => (routerHandleLocalIpv4_onlyFrames _ _ _).noErrorAboutError
                | false =>
                    rw [if_neg Bool.false_ne_true, routerForwardIpv4Packet_noErrorAboutError, hforwards,
                      hreport]
                    constructor
                    · intro h packet' hsame herror _
                      cases hsame
                      exact h herror
                    · exact fun h herror => h packet rfl herror hours

/-- The pieces of `router_poll_arp` and `router_flush_pending_packets` make no error about an error. -/
theorem routerResume_noErrorAboutError (r : RouterState Ms) (realtime : Bool) (nowMs : Ms) :
    NoErrorAboutError (routerResume r realtime nowMs).2 := by
  rw [routerResume]
  split
  · exact onlyFrames_nil.noErrorAboutError
  rename_i task tasks htasks
  cases task with
  | recheck nextHopIp pollMs =>
      dsimp only
      split
      · exact onlyFrames_nil.noErrorAboutError
      · exact onlyFrames_nil.noErrorAboutError
  | flush resolvedIp =>
      dsimp only
      rw [routerFlushRound]
      split
      · exact onlyFrames_nil.noErrorAboutError
      · exact (routerSendPacketToNextHop_sends _ _ _ _ _ _).onlyFrames.noErrorAboutError
  | drop nextHopIp =>
      dsimp only
      rw [routerDropRound]
      split
      · exact onlyFrames_nil.noErrorAboutError
      · dsimp only
        split
        -- The one round that sends an error asks first whether it may.
        · rename_i hcan
          rw [routerSendIcmpError_noErrorAboutError]
          exact fun h => (routerCanSendErrorForPacket_iff _).mp hcan h.1
        · exact onlyFrames_nil.noErrorAboutError
  | poll pollMs =>
      dsimp only
      rw [routerPollRound]
      split
      · exact onlyFrames_nil.noErrorAboutError
      · dsimp only
        split
        · exact onlyFrames_nil.noErrorAboutError
        · refine OnlyFrames.noErrorAboutError (onlyFrames_of_frame fun event hevent => ?_)
          rcases routerSendArpRequest_eq_some (Option.mem_toList.mp hevent) with ⟨port, raw, hframe⟩
          exact ⟨port, raw, none, hframe⟩

/-- A step makes an error about an ICMP error exactly when it does not act well. -/
theorem routerAct_noErrorAboutError (r : RouterState Ms) (action : RouterAction Ms) :
    NoErrorAboutError (routerAct r action).2 ↔ RouterActsWell r action := by
  cases action with
  | receive port raw nowMs number => exact routerReceive_noErrorAboutError r port raw nowMs number
  | poll nowMs => exact ⟨fun _ => trivial, fun _ => onlyFrames_nil.noErrorAboutError⟩
  | echo targetIp ttl sequence nowMs =>
      exact ⟨fun _ => trivial,
        fun _ => (routerSendIcmpEchoRequest_onlyFrames r targetIp ttl sequence nowMs).noErrorAboutError⟩
  | resume realtime nowMs =>
      exact ⟨fun _ => trivial, fun _ => routerResume_noErrorAboutError r realtime nowMs⟩
  | configure config => exact ⟨fun _ => trivial, fun _ => onlyFrames_nil.noErrorAboutError⟩

/-! ## Main result -/

/-- From any state, a run makes no ICMP error about an ICMP error exactly when each one it receives for
another address is forwarded, or comes from a source the router cannot report to. -/
theorem router_no_error_about_error_iff (r : RouterState Ms) (actions : List (RouterAction Ms)) :
    NoErrorAboutError (routerRunEvents r actions) ↔ RouterRunActsWell r actions := by
  induction actions generalizing r with
  | nil => exact ⟨fun _ => trivial, fun _ => onlyFrames_nil.noErrorAboutError⟩
  | cons action actions ih =>
      rw [routerRunEvents, RouterRunActsWell, noErrorAboutError_append, routerAct_noErrorAboutError, ih]

end Runs

/-! ## An expired ICMP error -/

/-- The addresses and routes of a router that knows `10.0.0.0/24` behind its first interface. -/
def errorRouterConfig : Router :=
  { interfaceIps := fun port =>
      if port = 0 then { hasIp := true, ipAddress := ⟨10, 0, 0, 254, 24⟩ }
      else { hasIp := false, ipAddress := ipZero }
    interfaceVlans := fun _ => 0
    routingTable :=
      [{ destination := ⟨10, 0, 0, 0, 24⟩, nextHop := ipZero, outInterface := 1 }] }

/-- A Time Exceeded message of `10.0.0.5` for `10.9.9.9`, on its last hop. -/
def expiredError : Ipv4Packet :=
  ipv4Reparsed
    { ipv4Init with
      ttl := 1
      protocol := ipv4ProtocolIcmp
      srcIp := ⟨10, 0, 0, 5, 0⟩
      dstIp := ⟨10, 9, 9, 9, 0⟩
      payload := icmpBytesWith
        { type := icmpTimeExceeded, code := 0, checksum := 0, identifier := 0, sequence := 0
          payload := [] } 0 }

/-- The frame it comes in. -/
def expiredErrorFrame : List UInt8 :=
  ethernetBytes
    { dstMac := MacAddress.broadcast
      srcMac := ⟨2, 0, 0, 0, 0, 5⟩
      hasVlan := false
      vlanId := 0
      ethertype := ethernetTypeIpv4
      payload := ipv4Bytes expiredError }

/-- The router answers it with an error of its own. -/
theorem router_no_error_about_error_iff_expired :
    ¬ NoErrorAboutError
      (routerRunEvents
        (routerStateInit 1 one_le_maxPort (fun _ => ⟨2, 0, 0, 0, 0, 1⟩) fun _ =>
          { nextHopIp := ipZero, outInterface := 0, vlanId := 0, packet := ipv4Init
            arpAttempts := 0, arpLastAttemptMs := (0 : ℚ), cargo := none })
        [.configure errorRouterConfig, .receive 0 expiredErrorFrame 0 none]) := by
  intro h
  refine h (.icmpError icmpTimeExceeded 0 expiredError) ?_ expiredError ⟨_, _, rfl⟩ ?_
  · decide +kernel
  · exact ⟨rfl, _, rfl, Or.inr rfl⟩

end MagiStack
