import MagiStack.Layer3.RouterErrors
import MagiStack.Layer3.RouterQueue
import MagiStack.Network.Letters

/-!
# RouterFrames — what a router puts on the wire

A router hands on genuine letters, answers echo requests to its own addresses, complains about genuine letters
only, and binds its own addresses to its own MAC addresses.  It believes what it has been told by others.
-/

namespace MagiStack

/-- An address belongs to a node that has the MAC address. -/
def Binds {N : Type*} (owns : N → List UInt8 → Prop) (hasMac : N → MacAddress → Prop) (ip : List UInt8)
    (mac : MacAddress) : Prop :=
  ∃ node, owns node ip ∧ hasMac node mac

/-- A packet of a network fits into a frame and carries a genuine letter. -/
structure PacketOk {N : Type*} (owns : N → List UInt8 → Prop) (records : List (N × PacketRecord))
    (packet : Ipv4Packet) : Prop where
  length : packet.payload.length ≤ ipv4MaxPayload
  genuine : Genuine owns records packet.letter

theorem PacketOk.mono {N : Type*} {owns : N → List UInt8 → Prop} {records : List (N × PacketRecord)}
    {packet : Ipv4Packet} (h : PacketOk owns records packet) (more : List (N × PacketRecord)) :
    PacketOk owns (records ++ more) packet :=
  ⟨h.length, h.genuine.mono more⟩

section Router

variable {Ms : Type}

/-- The addresses of a router's interfaces. -/
def RouterState.OwnsIp (r : RouterState Ms) (ip : List UInt8) : Prop :=
  ∃ i : Fin maxPort, i.val < r.numInterfaces ∧ (r.config.interfaceIps i).hasIp = true ∧
    (r.config.interfaceIps i).ipAddress.octets = ip

theorem routerHasInterfaceIp_ownsIp {r : RouterState Ms} {ip : IpAddress}
    (h : routerHasInterfaceIp r ip = true) : r.OwnsIp ip.octets := by
  rcases List.any_eq_true.mp h with ⟨i, -, hi⟩
  simp only [Bool.and_eq_true, decide_eq_true_eq] at hi
  exact ⟨i, hi.1.1, hi.1.2, ipOctetsEqualPublic_iff.mp hi.2⟩

theorem routerInterface_lt {r : RouterState Ms} {portNumber : Int} {port : Fin maxPort}
    (h : routerInterface r portNumber = some port) : port.val < r.numInterfaces := by
  rw [routerInterface] at h
  split at h
  · rename_i hport
    cases h
    dsimp only
    omega
  · cases h

/-- An address that is not zero is one of an interface. -/
theorem routerInterfaceIpOrZero_ownsIp {r : RouterState Ms} {portNumber : Int}
    (h : ipIsZero (routerInterfaceIpOrZero r portNumber) = false) :
    r.OwnsIp (routerInterfaceIpOrZero r portNumber).octets := by
  rw [routerInterfaceIpOrZero] at h ⊢
  have hzero : ipIsZero ipZero ≠ false := by decide
  cases hport : routerInterface r portNumber with
  | none =>
      rw [hport] at h
      exact absurd h hzero
  | some i =>
      rw [hport] at h
      dsimp only at h ⊢
      cases hip : (r.config.interfaceIps i).hasIp with
      | false =>
          rw [hip] at h
          exact absurd h hzero
      | true => exact ⟨i, routerInterface_lt hport, hip, rfl⟩

variable {N : Type*} (owns : N → List UInt8 → Prop) (hasMac : N → MacAddress → Prop)
  (records : List (N × PacketRecord))

/-- The router of a node in a network. -/
structure RouterState.Sound (node : N) (r : RouterState Ms) : Prop where
  address : ∀ ip, r.OwnsIp ip → owns node ip
  mac : ∀ port : Fin maxPort, port.val < r.numInterfaces → hasMac node (r.macs port)
  table : ∀ entry ∈ r.arpTable.entries, Binds owns hasMac entry.ip.octets entry.mac
  pending : ∀ item ∈ r.pending, PacketOk owns records item.packet

/-- An event of a router whose frame is in order. -/
def RouterEvent.Sound : RouterEvent → Prop
  | .frame _ raw _ => FrameOk (Binds owns hasMac) (PacketOk owns records) raw
  | .icmpError .. => True

/-- A router after a step. -/
structure RouterGoesOn (node : N) (result : RouterState Ms × List RouterEvent) : Prop where
  router : result.1.Sound owns hasMac records node
  events : ∀ event ∈ result.2, event.Sound owns hasMac records

variable {owns hasMac records} {node : N} {r r' : RouterState Ms}

theorem RouterState.Sound.mono (h : r.Sound owns hasMac records node) (more : List (N × PacketRecord)) :
    r.Sound owns hasMac (records ++ more) node :=
  ⟨h.address, h.mac, h.table, fun item hitem => (h.pending item hitem).mono more⟩

namespace RouterGoesOn

theorem nothing (h : r.Sound owns hasMac records node) :
    RouterGoesOn owns hasMac records node (r, []) :=
  ⟨h, fun _ hevent => (nomatch hevent)⟩

/-- A frame is sent or not. -/
theorem ofOption (h : r.Sound owns hasMac records node) {event : Option RouterEvent}
    (hevent : ∀ e ∈ event, e.Sound owns hasMac records) :
    RouterGoesOn owns hasMac records node (r, event.toList) :=
  ⟨h, fun e he => hevent e (Option.mem_toList.mp he)⟩

end RouterGoesOn

/-! ## Frames -/

/-- The ARP messages of a router bind one of its addresses to one of its MAC addresses. -/
theorem routerSendArp_sound (h : r.Sound owns hasMac records node) {port : Fin maxPort}
    (hport : port.val < r.numInterfaces) {message : ArpMessage}
    (hmac : message.senderMac = r.macs port) (hip : r.OwnsIp message.senderIp.octets)
    {outInterface vlanId : Int} {dstMac : MacAddress} :
    ∀ e ∈ routerSendEthernetFrame r outInterface vlanId dstMac ethernetTypeArp (arpMessageBytes message)
      none, e.Sound owns hasMac records := by
  intro e he
  rcases routerSendEthernetFrame_eq_some (by decide) he with ⟨out, frame, rfl, hserial, htype, hpayload⟩
  refine FrameOk.arp frame message hserial htype hpayload rfl ⟨node, h.address _ hip, ?_⟩
  rw [hmac]
  exact h.mac port hport

theorem routerSendArpRequest_sound (h : r.Sound owns hasMac records node) (outInterface : Int)
    (targetIp : IpAddress) (vlanId : Int) :
    ∀ e ∈ routerSendArpRequest r outInterface targetIp vlanId, e.Sound owns hasMac records := by
  intro e he
  rw [routerSendArpRequest] at he
  split at he
  · cases he
  rename_i port hport
  dsimp only at he
  split at he
  · cases he
  rename_i hzero
  rw [arpMessageToBytes, if_neg (lt_irrefl _)] at he
  exact routerSendArp_sound h (routerInterface_lt hport) rfl
    (routerInterfaceIpOrZero_ownsIp ((Bool.not_eq_true _).mp hzero)) e he

theorem routerSendArpReply_sound (h : r.Sound owns hasMac records node) {request : ArpMessage}
    (hip : r.OwnsIp request.targetIp.octets) (outInterface vlanId : Int) :
    ∀ e ∈ routerSendArpReply r request outInterface vlanId, e.Sound owns hasMac records := by
  intro e he
  rw [routerSendArpReply] at he
  split at he
  · cases he
  · rename_i port hport
    rw [arpMessageToBytes, if_neg (lt_irrefl _)] at he
    exact routerSendArp_sound h (routerInterface_lt hport) rfl hip e he

/-! ## Sending -/

section Times

variable [SimTime Ms]

/-- A genuine packet is sent on, or waits. -/
theorem routerSendPacketToNextHop_goesOn (h : r.Sound owns hasMac records node) {packet : Ipv4Packet}
    (hpacket : PacketOk owns records packet) (nextHopIp : IpAddress) (outInterface : Int) (nowMs : Ms)
    (cargo : Option RouterCargo) :
    RouterGoesOn owns hasMac records node
      (routerSendPacketToNextHop r packet nextHopIp outInterface nowMs cargo) := by
  rw [routerSendPacketToNextHop]
  split
  · exact .nothing h
  dsimp only
  split
  · split
    · exact .nothing h
    rename_i rawIp hraw
    rcases ipv4ToBytes_eq_some hraw with ⟨rfl, hlength⟩
    refine .ofOption h fun e he => ?_
    rcases routerSendEthernetFrame_eq_some (by decide) he with ⟨port, frame, rfl, hserial, htype, hpayload⟩
    exact FrameOk.ipv4 frame packet hserial htype hpayload rfl hlength hpacket
  split
  · exact .nothing h
  -- The packet waits with those that wait already, and the address may have to be asked for.
  rename_i queued hqueued
  have hsound : queued.Sound owns hasMac records node := by
    have hpending := routerQueuePendingPacket_eq_some hqueued
    rw [routerQueuePendingPacket] at hqueued
    split at hqueued
    · cases hqueued
      refine ⟨h.address, h.mac, h.table, fun item hitem => ?_⟩
      rw [hpending] at hitem
      rcases List.mem_append.mp hitem with hold | hnew
      · exact h.pending item hold
      · rw [List.mem_singleton.mp hnew]
        exact hpacket
    · cases hqueued
  split
  · exact .nothing hsound
  split
  · exact .nothing hsound
  · rename_i event hrequest
    refine ⟨⟨hsound.address, hsound.mac, hsound.table, hsound.pending⟩, fun e he => ?_⟩
    rw [List.mem_singleton.mp he]
    exact routerSendArpRequest_sound hsound _ _ _ event hrequest

theorem routerSendIpv4Packet_goesOn (h : r.Sound owns hasMac records node) {packet : Ipv4Packet}
    (hpacket : PacketOk owns records packet) (nowMs : Ms) :
    RouterGoesOn owns hasMac records node (routerSendIpv4Packet r packet nowMs) := by
  rw [routerSendIpv4Packet]
  split
  · exact .nothing h
  · exact routerSendPacketToNextHop_goesOn h hpacket _ _ nowMs none

/-- An ICMP error is about a genuine packet, from an address of the router. -/
theorem routerSendIcmpError_goesOn (h : r.Sound owns hasMac records node) {original : Ipv4Packet}
    (hpacket : PacketOk owns records original) {type : UInt8} (htype : type = icmpTimeExceeded ∨ type = icmpDestUnreachable) (code : UInt8)
    (nowMs : Ms) :
    RouterGoesOn owns hasMac records node (routerSendIcmpError r original type code nowMs) := by
  rw [routerSendIcmpError]
  split
  · exact .nothing h
  rename_i route hroute
  dsimp only
  split
  · exact .nothing h
  rename_i hzero
  -- The interface by which the report leaves has an address, which is the router's own.
  have howns := h.address _ (routerInterfaceIpOrZero_ownsIp ((Bool.not_eq_true _).mp hzero))
  rw [ipv4ToBytes_eq hpacket.length, Option.getD_some]
  split
  · exact .nothing h
  rename_i icmp hicmp
  split
  · exact .nothing h
  rename_i icmpRaw hraw
  split
  · exact .nothing h
  rename_i response hresponse
  have hmessage : icmpRaw = icmpBytes (icmpErrorAbout type code original) := by
    rw [icmpCreate] at hicmp
    split at hicmp
    · cases hicmp
    rw [← Option.some.inj hicmp] at hraw
    rw [icmpToBytes_eq] at hraw
    · exact (Option.some.inj hraw).symm
    · exact (List.length_take_le _ _).trans (by decide)
  have hletter : PacketOk owns records response := by
    rw [ipv4Create] at hresponse
    split at hresponse
    · cases hresponse
    rename_i hfits
    rw [← Option.some.inj hresponse, hmessage]
    exact ⟨hmessage ▸ Nat.le_of_not_lt hfits, Genuine.icmpError hpacket.genuine htype howns⟩
  have hsends := routerSendIpv4Packet_goesOn h hletter nowMs
  refine ⟨hsends.router, fun e he => ?_⟩
  rcases List.mem_cons.mp he with rfl | hrest
  · trivial
  · exact hsends.events e hrest

/-- A genuine packet is forwarded, or complained about. -/
theorem routerForwardIpv4Packet_goesOn (h : r.Sound owns hasMac records node) {packet : Ipv4Packet}
    (hpacket : PacketOk owns records packet) (nowMs : Ms) (number : Option Nat) :
    RouterGoesOn owns hasMac records node (routerForwardIpv4Packet r packet nowMs number) := by
  rw [routerForwardIpv4Packet]
  split
  · exact routerSendIcmpError_goesOn h hpacket (Or.inl rfl) 0 nowMs
  · have hforwarded : PacketOk owns records { packet with ttl := packet.ttl - 1 } :=
      ⟨hpacket.length, hpacket.genuine⟩
    dsimp only
    split
    · exact routerSendIcmpError_goesOn h hforwarded (Or.inr rfl) 0 nowMs
    · exact routerSendPacketToNextHop_goesOn h hforwarded _ _ nowMs _

/-- An echo request to the router is answered from the address it was sent to. -/
theorem routerHandleLocalIpv4_goesOn (h : r.Sound owns hasMac records node) {packet : Ipv4Packet}
    (hpacket : PacketOk owns records packet) (hown : r.OwnsIp packet.dstIp.octets) (nowMs : Ms) :
    RouterGoesOn owns hasMac records node (routerHandleLocalIpv4 r packet nowMs) := by
  rw [routerHandleLocalIpv4]
  split
  · exact .nothing h
  rename_i hprotocol
  split
  · exact .nothing h
  rename_i request hrequest
  split
  · exact .nothing h
  rename_i hchecksum
  split
  · rename_i htype
    split
    · exact .nothing h
    rename_i reply hreply
    split
    · exact .nothing h
    rename_i icmpRaw hraw
    split
    · exact .nothing h
    rename_i response hresponse
    -- The answer comes from the address that was asked.
    refine routerSendIpv4Packet_goesOn h ?_ nowMs
    have hicmp : packet.letter.icmp = some request := by
      rw [← receiveIcmp_eq_icmp (not_not.mp hprotocol), receiveIcmp, hrequest]
      exact if_pos ((Bool.not_eq_false _).mp hchecksum)
    have hmessage : icmpRaw = icmpBytes (echoReplyTo request) :=
      icmpMessage_eq_some (by rw [icmpMessage, hreply]; exact hraw)
    rw [ipv4Create] at hresponse
    split at hresponse
    · cases hresponse
    rename_i hfits
    rw [← Option.some.inj hresponse, hmessage]
    exact ⟨hmessage ▸ Nat.le_of_not_lt hfits,
      Genuine.echoReply hpacket.genuine hicmp htype (h.address _ hown) (Or.inl rfl)⟩
  · exact .nothing h

/-! ## Receiving -/

omit [SimTime Ms] in
/-- A router learns the sender of a message. -/
theorem routerLearnArp_sound (h : r.Sound owns hasMac records node) {message : ArpMessage}
    (hbinds : Binds owns hasMac message.senderIp.octets message.senderMac) (vlanId : Int) :
    (routerLearnArp r message vlanId).Sound owns hasMac records node := by
  rw [routerLearnArp]
  split
  · exact h
  rename_i table htable
  have hentries : ∀ entry ∈ table.entries, Binds owns hasMac entry.ip.octets entry.mac := by
    intro entry hentry
    rcases mem_arpTableSet htable hentry with hold | ⟨hip, hmac⟩
    · exact h.table entry hold
    · rw [hip, hmac]
      exact hbinds
  dsimp only
  split
  · exact ⟨h.address, h.mac, hentries, h.pending⟩
  · exact ⟨h.address, h.mac, hentries, h.pending⟩

omit [SimTime Ms] in
theorem routerReceiveArp_goesOn (h : r.Sound owns hasMac records node) (port : Fin maxPort) (vlanId : Int)
    {arp : ArpMessage} (hbinds : Binds owns hasMac arp.senderIp.octets arp.senderMac) :
    RouterGoesOn owns hasMac records node (routerReceiveArp r port vlanId arp) := by
  have hlearned := routerLearnArp_sound h hbinds vlanId
  rw [routerReceiveArp]
  split
  · rename_i hrequest
    exact .ofOption hlearned
      (routerSendArpReply_sound hlearned (routerHasInterfaceIp_ownsIp hrequest.2) _ _)
  · split
    · exact .nothing ⟨hlearned.address, hlearned.mac, hlearned.table, hlearned.pending⟩
    · exact .nothing hlearned

theorem routerReceive_goesOn (h : r.Sound owns hasMac records node) (port : Fin maxPort) {raw : List UInt8}
    (hraw : FrameOk (Binds owns hasMac) (PacketOk owns records) raw) (nowMs : Ms) (number : Option Nat) :
    RouterGoesOn owns hasMac records node (routerReceive r port raw nowMs number) := by
  rw [routerReceive]
  split
  · exact .nothing h
  rename_i frame hframe
  dsimp only
  have hnoted : (routerNoteVlan r port (if frame.hasVlan then (frame.vlanId.toNat : Int) else 0)).Sound
      owns hasMac records node := ⟨h.address, h.mac, h.table, h.pending⟩
  generalize routerNoteVlan r port (if frame.hasVlan then (frame.vlanId.toNat : Int) else 0) = noted
    at hnoted ⊢
  split
  · exact .nothing hnoted
  split
  · rename_i htype
    split
    · exact .nothing hnoted
    rename_i arp harp
    exact routerReceiveArp_goesOn hnoted port _ (hraw.arpMessage hframe htype harp)
  · split
    · exact .nothing hnoted
    rename_i packet hpacket
    rcases hraw.packet hframe hpacket with ⟨sent, rfl, hlength, hsent⟩
    have hreparsed : PacketOk owns records (ipv4Reparsed sent) := ⟨hlength, hsent.genuine⟩
    split
    · rename_i hlocal
      exact routerHandleLocalIpv4_goesOn hnoted hreparsed (routerHasInterfaceIp_ownsIp hlocal) nowMs
    · exact routerForwardIpv4Packet_goesOn hnoted hreparsed nowMs number

/-! ## The calls under way -/

omit [SimTime Ms] in
theorem RouterState.Sound.pushTask (h : r.Sound owns hasMac records node) (task : RouterTask Ms) :
    (r.pushTask task).Sound owns hasMac records node :=
  ⟨h.address, h.mac, h.table, h.pending⟩

omit [SimTime Ms] in
/-- What is taken out of the queue has been there, and the rest stays. -/
theorem RouterState.Sound.dequeue (h : r.Sound owns hasMac records node) (ip : IpAddress) :
    (routerDequeuePendingForIp r ip).2.Sound owns hasMac records node ∧
      ∀ item ∈ (routerDequeuePendingForIp r ip).1, PacketOk owns records item.packet := by
  rcases routerDequeuePendingForIp_spec r ip with ⟨queue, hdequeue, hpending⟩
  rw [hdequeue]
  refine ⟨⟨h.address, h.mac, h.table, fun item hitem => ?_⟩, fun item hitem => ?_⟩
  · rw [hpending] at hitem
    exact h.pending item (List.mem_of_mem_eraseP hitem)
  · exact h.pending item (List.mem_of_find?_eq_some hitem)

omit [SimTime Ms] in
theorem RouterState.Sound.setArpAttempt (h : r.Sound owns hasMac records node) (ip : IpAddress)
    (arpAttempts : Nat) (attemptMs : Ms) :
    (routerSetArpAttemptForIp r ip arpAttempts attemptMs).Sound owns hasMac records node := by
  refine ⟨h.address, h.mac, h.table, fun item hitem => ?_⟩
  rw [RouterState.pending, routerSetArpAttemptForIp, RingQueue.toList_modifyAll] at hitem
  rcases List.mem_map.mp hitem with ⟨waiting, hwaiting, rfl⟩
  have hpacket : (waiting.retried ip arpAttempts attemptMs).packet = waiting.packet := by
    rw [RouterPendingPacket.retried]
    split
    all_goals rfl
  rw [hpacket]
  exact h.pending waiting hwaiting

theorem routerResume_goesOn (h : r.Sound owns hasMac records node) (realtime : Bool) (nowMs : Ms) :
    RouterGoesOn owns hasMac records node (routerResume r realtime nowMs) := by
  rw [routerResume]
  split
  · exact .nothing h
  rename_i task tasks htasks
  -- The task has left the list before it runs.
  have hrest : (RouterState.mk r.numInterfaces r.numInterfaces_le r.macs r.config r.arpTable
      r.arpEntryVlans r.pendingQueue tasks).Sound owns hasMac records node :=
    ⟨h.address, h.mac, h.table, h.pending⟩
  generalize RouterState.mk r.numInterfaces r.numInterfaces_le r.macs r.config r.arpTable
    r.arpEntryVlans r.pendingQueue tasks = rest at hrest ⊢
  cases task with
  | recheck nextHopIp pollMs =>
      dsimp only
      split
      · exact .nothing (hrest.pushTask _)
      · exact .nothing hrest
  | flush resolvedIp =>
      have hdequeue := hrest.dequeue resolvedIp
      dsimp only
      rw [routerFlushRound]
      split
      · rename_i after hnone
        rw [hnone] at hdequeue
        exact .nothing hdequeue.1
      · rename_i item after hsome
        rw [hsome] at hdequeue
        exact routerSendPacketToNextHop_goesOn (hdequeue.1.pushTask _) (hdequeue.2 item rfl) _ _ nowMs _
  | drop nextHopIp =>
      have hdequeue := hrest.dequeue nextHopIp
      dsimp only
      rw [routerDropRound]
      split
      · rename_i after hnone
        rw [hnone] at hdequeue
        exact .nothing hdequeue.1
      · rename_i item after hsome
        rw [hsome] at hdequeue
        have hafter := hdequeue.1.pushTask (.drop nextHopIp)
        dsimp only
        split
        · exact routerSendIcmpError_goesOn hafter (hdequeue.2 item rfl) (Or.inr rfl) 1 nowMs
        · exact .nothing hafter
  | poll pollMs =>
      dsimp only
      rw [routerPollRound]
      split
      · exact .nothing hrest
      dsimp only
      split
      · exact .nothing ((hrest.pushTask _).pushTask _)
      · have hretried := (hrest.pushTask (.poll pollMs)).setArpAttempt
        refine .ofOption (hretried _ _ _) ?_
        exact routerSendArpRequest_sound (hretried _ _ _) _ _ _

omit [SimTime Ms] in
/-- Routes may come at any time. -/
theorem routerAddRoute_sound (h : r.Sound owns hasMac records node) (destination nextHop : IpAddress)
    (outInterface : Int) :
    ({ r with config :=
      (routerAddRoute r.numInterfaces r.config destination nextHop outInterface).getD r.config } :
        RouterState Ms).Sound owns hasMac records node := by
  have hips : ((routerAddRoute r.numInterfaces r.config destination nextHop outInterface).getD
      r.config).interfaceIps = r.config.interfaceIps := by
    cases hadd : routerAddRoute r.numInterfaces r.config destination nextHop outInterface with
    | none => rfl
    | some router =>
        rcases routerAddRoute_eq_some hadd with rfl | ⟨-, -, -, -, -, rfl⟩
        · rfl
        · rfl
  refine ⟨fun ip hip => h.address ip ?_, h.mac, h.table, h.pending⟩
  rwa [RouterState.OwnsIp, hips] at hip

end Times

end Router

end MagiStack
