import MagiStack.Layer2.HostConservation

/-!
# HostOrder — packets for one next hop leave in order

A host learns an address from a request as well as from a reply, and sends what waits for it on a reply
only.  Between the two a later packet is sent at once while earlier ones still wait, and they leave after
it.  A host that sends no packet in that state keeps the order of the packets for every next hop.
-/

namespace MagiStack

section Order

variable {Ms : Type}

/-! ## The order of packets -/

/-- Of two packets accepted for one next hop, the first is not sent after the second. -/
def HostRun.OrderKept (s : HostRun Ms) : Prop :=
  ∀ i j first second ip ip', s.accepted[i]? = some first → s.accepted[j]? = some second →
    first.nextHop = some ip → second.nextHop = some ip' → ipOctetsEqualPublic ip ip' = true →
    i < j → ∀ before nextHop frame after, s.host.log = before ++ .packet j nextHop frame :: after →
      ∀ nextHop' frame', .packet i nextHop' frame' ∉ after

/-- The numbers of the packets that were sent to a next hop, in the order of the log. -/
def sentTo (ip : IpAddress) (log : List HostEvent) : List Nat :=
  log.filterMap fun
    | .packet number (some nextHop) _ => if ipOctetsEqualPublic nextHop ip then some number else none
    | _ => none

/-- The packets sent to a next hop and then those that wait for it are in the order they were accepted. -/
def HostView.InOrder (v : HostView Ms) : Prop :=
  ∀ ip, (sentTo ip v.log ++ (waitingFor ip v.pending).map HostPendingPacket.number).Pairwise (· < ·)

theorem sentTo_append (ip : IpAddress) (log events : List HostEvent) :
    sentTo ip (log ++ events) = sentTo ip log ++ sentTo ip events :=
  List.filterMap_append

theorem mem_sentTo {ip : IpAddress} {log : List HostEvent} {number : Nat} :
    number ∈ sentTo ip log ↔ ∃ nextHop frame, .packet number (some nextHop) frame ∈ log ∧
      ipOctetsEqualPublic nextHop ip = true := by
  rw [sentTo, List.mem_filterMap]
  constructor
  · rintro ⟨event, hevent, hnumber⟩
    split at hnumber
    · split at hnumber
      · rename_i heq
        cases hnumber
        exact ⟨_, _, hevent, heq⟩
      · cases hnumber
    · cases hnumber
  · rintro ⟨nextHop, frame, hevent, heq⟩
    exact ⟨_, hevent, if_pos heq⟩

theorem mem_sentNumbers {log : List HostEvent} {number : Nat} {nextHop : Option IpAddress}
    {frame : List UInt8} (h : .packet number nextHop frame ∈ log) : number ∈ sentNumbers log :=
  List.mem_filterMap.mpr ⟨_, h, rfl⟩

theorem sentTo_sent_of_eq {ip : IpAddress} (srcMac dstMac : MacAddress)
    {packets : List (HostPendingPacket Ms)}
    (h : ∀ packet ∈ packets, ipOctetsEqualPublic packet.targetIp ip = true) :
    sentTo ip (packets.map (HostPendingPacket.sent srcMac dstMac)) =
      packets.map HostPendingPacket.number := by
  rw [sentTo, List.filterMap_map]
  refine List.filterMap_eq_map_iff_forall_eq_some.mpr fun packet hpacket => ?_
  exact if_pos (h packet hpacket)

theorem sentTo_sent_of_ne {ip : IpAddress} (srcMac dstMac : MacAddress)
    {packets : List (HostPendingPacket Ms)}
    (h : ∀ packet ∈ packets, ipOctetsEqualPublic packet.targetIp ip = false) :
    sentTo ip (packets.map (HostPendingPacket.sent srcMac dstMac)) = [] := by
  rw [sentTo, List.filterMap_map, List.filterMap_eq_nil_iff]
  intro packet hpacket
  exact if_neg (by rw [h packet hpacket]; decide)

theorem sentTo_dropped (ip : IpAddress) (packets : List (HostPendingPacket Ms)) :
    sentTo ip (packets.map HostPendingPacket.droppedEvent) = [] := by
  rw [sentTo, List.filterMap_map, List.filterMap_eq_nil_iff]
  exact fun packet _ => rfl

/-- Everything with a number was accepted. -/
theorem HostView.Conserved.number_lt {v : HostView Ms} (h : v.Conserved) {ip : IpAddress}
    {number : Nat}
    (hmem : number ∈ sentTo ip v.log ++ (waitingFor ip v.pending).map HostPendingPacket.number) :
    number < v.accepted.length := by
  refine List.mem_range.mp (h.mem_iff.mp ?_)
  rcases List.mem_append.mp hmem with hsent | hwaits
  · rcases mem_sentTo.mp hsent with ⟨nextHop, frame, hevent, -⟩
    exact List.mem_append_left _ (List.mem_append_right _ (mem_sentNumbers hevent))
  · rcases List.mem_map.mp hwaits with ⟨packet, hpacket, rfl⟩
    refine List.mem_append_left _ (List.mem_append_left _ ?_)
    exact List.mem_map_of_mem (List.mem_of_mem_filter hpacket)

/-- A new packet goes to the end of its order. -/
theorem pairwise_lt_append_new {numbers : List Nat} {n : Nat} (h : numbers.Pairwise (· < ·))
    (hn : ∀ number ∈ numbers, number < n) : (numbers ++ [n]).Pairwise (· < ·) := by
  refine List.pairwise_append.mpr ⟨h, List.pairwise_singleton _ _, fun number hnumber other hother => ?_⟩
  rw [List.mem_singleton.mp hother]
  exact hn number hnumber

/-- A packet that is queued goes to the end of the order of its next hop. -/
theorem HostView.InOrder.queue {v : HostView Ms} (hv : v.InOrder) (hconserved : v.Conserved)
    {packet : HostPendingPacket Ms} (hnumber : packet.number = v.accepted.length) (ip : IpAddress) :
    (sentTo ip v.log ++ (waitingFor ip (v.pending ++ [packet])).map
      HostPendingPacket.number).Pairwise (· < ·) := by
  rw [waitingFor, List.filter_append, List.map_append, ← List.append_assoc]
  cases heq : packet.waitsFor ip with
  | true =>
      rw [List.filter_singleton, heq]
      change ((_ ++ _) ++ [packet.number]).Pairwise (· < ·)
      rw [hnumber]
      exact pairwise_lt_append_new (hv ip) fun number hmem => hconserved.number_lt hmem
  | false =>
      rw [List.filter_singleton, heq]
      simpa [waitingFor] using hv ip

theorem waitingFor_othersThan_of_eq {resolvedIp ip : IpAddress}
    (h : ipOctetsEqualPublic resolvedIp ip = true) (pending : List (HostPendingPacket Ms)) :
    waitingFor ip (othersThan resolvedIp pending) = [] := by
  rw [waitingFor_eq_nil]
  intro packet hpacket
  rw [← ipOctetsEqualPublic_congr h]
  exact (mem_othersThan.mp hpacket).2

theorem waitingFor_othersThan_of_ne {resolvedIp ip : IpAddress}
    (h : ipOctetsEqualPublic resolvedIp ip = false) (pending : List (HostPendingPacket Ms)) :
    waitingFor ip (othersThan resolvedIp pending) = waitingFor ip pending := by
  rw [waitingFor, othersThan, List.filter_filter]
  refine List.filter_congr fun packet _ => ?_
  cases hwaits : packet.waitsFor ip with
  | false => rfl
  | true =>
      rw [HostPendingPacket.waitsFor, ipOctetsEqualPublic_comm, ipOctetsEqualPublic_congr hwaits, h]
      rfl

theorem waitingFor_retried (ip targetIp : IpAddress) (arpAttempts : Nat) (attemptMs : Ms)
    (pending : List (HostPendingPacket Ms)) :
    (waitingFor ip (pending.map (HostPendingPacket.retried targetIp arpAttempts attemptMs))).map
      HostPendingPacket.number = (waitingFor ip pending).map HostPendingPacket.number := by
  have hwaits : ∀ packet : HostPendingPacket Ms,
      (packet.retried targetIp arpAttempts attemptMs).waitsFor ip = packet.waitsFor ip := by
    intro packet
    unfold HostPendingPacket.retried
    split
    all_goals rfl
  rw [waitingFor, List.filter_map, List.map_map]
  have hfilter : HostPendingPacket.waitsFor ip ∘
      HostPendingPacket.retried targetIp arpAttempts attemptMs = HostPendingPacket.waitsFor ip :=
    funext hwaits
  rw [hfilter]
  exact List.map_congr_left fun packet _ => retried_number _ _ _ packet

theorem HostMove.inOrder {mac : MacAddress} {v v' : HostView Ms} (h : HostMove mac True v v')
    (hconserved : v.Conserved) (hv : v.InOrder) : v'.InOrder := by
  cases h with
  | direct pending log accepted packet dst hordered =>
      intro ip
      have hold := hv ip
      rw [sentTo_append]
      rcases packet with ⟨nextHop, ethertype, payload⟩
      cases nextHop with
      | none => simpa [sentTo] using hold
      | some hop =>
          cases heq : ipOctetsEqualPublic hop ip with
          | false => simpa [sentTo, heq] using hold
          | true =>
              have hnothing : waitingFor ip pending = [] := by
                rw [waitingFor_eq_nil]
                intro other hother
                rw [← ipOctetsEqualPublic_congr heq]
                exact waitingFor_eq_nil.mp (hordered trivial hop rfl) other hother
              have hnew := pairwise_lt_append_new hold fun number hmem => hconserved.number_lt hmem
              simpa [sentTo, heq, hnothing] using hnew
  | first pending log accepted packet frame hnone hattempts hnumber =>
      intro ip
      rw [sentTo_append]
      simpa [sentTo] using hv.queue hconserved hnumber ip
  | join pending log accepted packet existing hexisting hattempts hnumber =>
      exact fun ip => hv.queue hconserved hnumber ip
  | reply pending log accepted frame =>
      intro ip
      rw [sentTo_append]
      simpa [sentTo] using hv ip
  | flush pending log accepted resolvedIp dst =>
      intro ip
      have hold := hv ip
      rw [sentTo_append]
      have hevents : sentTo ip (.flushed resolvedIp ::
          (waitingFor resolvedIp pending).map (HostPendingPacket.sent mac dst)) =
          sentTo ip ((waitingFor resolvedIp pending).map (HostPendingPacket.sent mac dst)) := rfl
      rw [hevents]
      cases heq : ipOctetsEqualPublic resolvedIp ip with
      | true =>
          -- the packets that waited for `ip` are the ones that are sent
          have hsame : waitingFor ip pending = waitingFor resolvedIp pending :=
            List.filter_congr fun packet _ => (ipOctetsEqualPublic_congr heq packet.targetIp).symm
          have hsent : ∀ packet ∈ waitingFor resolvedIp pending,
              ipOctetsEqualPublic packet.targetIp ip = true := by
            intro packet hpacket
            rw [← ipOctetsEqualPublic_congr heq]
            exact (mem_waitingFor.mp hpacket).2
          rw [waitingFor_othersThan_of_eq heq, sentTo_sent_of_eq mac dst hsent, ← hsame]
          simpa using hold
      | false =>
          have hsent : ∀ packet ∈ waitingFor resolvedIp pending,
              ipOctetsEqualPublic packet.targetIp ip = false := by
            intro packet hpacket
            rw [ipOctetsEqualPublic_comm, ipOctetsEqualPublic_congr (mem_waitingFor.mp hpacket).2,
              ipOctetsEqualPublic_comm, heq]
          rw [waitingFor_othersThan_of_ne heq, sentTo_sent_of_ne mac dst hsent, List.append_nil]
          exact hold
  | retry pending log accepted packet attemptMs frame hpacket hattempts =>
      intro ip
      rw [sentTo_append, waitingFor_retried]
      simpa [sentTo] using hv ip
  | giveUp pending log accepted packet hpacket hattempts =>
      intro ip
      rw [sentTo_append, sentTo_append, sentTo_dropped]
      have hsub : (waitingFor ip (othersThan packet.targetIp pending)).Sublist
          (waitingFor ip pending) :=
        List.filter_sublist.filter _
      have hless := (hv ip).sublist ((List.Sublist.refl _).append (hsub.map HostPendingPacket.number))
      simpa [sentTo] using hless

/-! ## Runs -/

open Relation (ReflTransGen)

theorem HostView.Kept.inOrder {mac : MacAddress} {v v' : HostView Ms} (hv : v.Kept mac)
    (h : ReflTransGen (HostMove mac True) v v') (horder : v.InOrder) : v'.InOrder := by
  induction h with
  | refl => exact horder
  | tail hmoves hmove ih => exact hmove.inOrder (hv.moves hmoves).conserved ih

/-- Packets whose numbers are in order were not sent the other way round. -/
theorem HostView.InOrder.kept {s : HostRun Ms} {mac : MacAddress} (h : s.view.InOrder)
    (hfaithful : s.view.Faithful mac) : s.OrderKept := by
  intro i j first second ip ip' hfirst hsecond hip hip' heq hij before nextHop frame after hlog
    nextHop' frame' hafter
  have hj : HostEvent.packet j nextHop frame ∈ s.host.log := by
    rw [hlog]
    exact List.mem_append_right _ List.mem_cons_self
  have hi : HostEvent.packet i nextHop' frame' ∈ s.host.log := by
    rw [hlog]
    exact List.mem_append_right _ (List.mem_cons_of_mem _ hafter)
  rcases hfaithful.sent j nextHop frame hj with ⟨packet, -, hpacket, hhop, -⟩
  rcases hfaithful.sent i nextHop' frame' hi with ⟨packet', -, hpacket', hhop', -⟩
  have hsame : packet = second := Option.some.inj (hpacket.symm.trans hsecond)
  have hsame' : packet' = first := Option.some.inj (hpacket'.symm.trans hfirst)
  rw [hsame, hip'] at hhop
  rw [hsame', hip] at hhop'
  subst hhop hhop'
  have hself : ipOctetsEqualPublic ip' ip' = true := ipOctetsEqualPublic_iff.mpr rfl
  -- The log has `j` before `i`, and the numbers rise along it.
  have hsent : sentTo ip' s.host.log =
      sentTo ip' before ++ j :: sentTo ip' after := by
    rw [hlog, sentTo_append]
    simp [sentTo, hself]
  have hordered := h ip'
  rw [HostRun.view, hsent] at hordered
  have hrest := (List.pairwise_append.mp (List.pairwise_append.mp hordered).1).2.1
  have hlater : i ∈ sentTo ip' after := mem_sentTo.mpr ⟨ip, frame', hafter, heq⟩
  exact absurd ((List.pairwise_cons.mp hrest).1 i hlater) (Nat.lt_asymm hij)

section Times

variable [SimTime Ms]

/-- No call of a run sends a packet at once while others wait for its next hop. -/
def HostSendsAllInOrder : HostRun Ms → List (HostAction Ms) → Prop
  | _, [] => True
  | s, action :: actions => HostSendsNext s action ∧ HostSendsAllInOrder (hostStep s action) actions

theorem HostSendsAllInOrder.append {s : HostRun Ms} {actions more : List (HostAction Ms)}
    (h : HostSendsAllInOrder s actions) (hmore : HostSendsAllInOrder (hostRun s actions) more) :
    HostSendsAllInOrder s (actions ++ more) := by
  induction actions generalizing s with
  | nil => exact hmore
  | cons action actions ih => exact ⟨h.1, ih h.2 hmore⟩

theorem hostRun_moves_ordered {config : ArpHostConfig} {s : HostRun Ms} (hok : s.host.Ok config)
    {actions : List (HostAction Ms)} (h : HostSendsAllInOrder s actions) :
    ReflTransGen (HostMove config.macAddress True) s.view (hostRun s actions).view := by
  induction actions generalizing s with
  | nil => exact .refl
  | cons action actions ih =>
      rcases hostStep_moves hok action (fun _ : True => h.1) with ⟨hstep, hmoves⟩
      exact hmoves.trans (ih hstep h.2)

theorem hostRun_orderKept {config : ArpHostConfig} {s : HostRun Ms} (hok : s.host.Ok config)
    (hkept : s.view.Kept config.macAddress) (horder : s.view.InOrder)
    {actions : List (HostAction Ms)} (h : HostSendsAllInOrder s actions) :
    (hostRun s actions).OrderKept := by
  have hmoves := hostRun_moves_ordered hok h
  exact (hkept.inOrder hmoves horder).kept (hkept.moves hmoves).faithful

/-! ## A reply after a packet that did not wait -/

/-- An ARP reply to everyone. -/
def arpReplyFrame (senderIp : IpAddress) : List UInt8 :=
  ethernetBytes
    { dstMac := MacAddress.broadcast
      srcMac := MacAddress.broadcast
      hasVlan := false
      vlanId := 0
      ethertype := ethernetTypeArp
      payload := arpMessageBytes
        (arpMessageInitReply MacAddress.broadcast senderIp MacAddress.broadcast senderIp) }

omit [SimTime Ms] in
theorem ethernetFromBytes_arpReplyFrame (senderIp : IpAddress) :
    ethernetFromBytes (arpReplyFrame senderIp) =
      some
        { dstMac := MacAddress.broadcast
          srcMac := MacAddress.broadcast
          hasVlan := false
          vlanId := 0
          ethertype := ethernetTypeArp
          payload := arpMessageBytes
            (arpMessageInitReply MacAddress.broadcast senderIp MacAddress.broadcast senderIp) } :=
  ethernetFromBytes_bytes
    { payload_le := by
        rw [arpMessageBytes_length]
        decide
      vlanId_masked := fun hno => (nomatch hno)
      vlanId_zero := fun _ => rfl
      ethertype_ne := fun _ => by
        change ethernetTypeArp ≠ ethernetTypeVlan
        decide }

omit [SimTime Ms] in
theorem hostArpMessage_arpReplyFrame (host : ArpHost Ms) (senderIp : IpAddress) :
    hostArpMessage host (arpReplyFrame senderIp) =
      some (arpMessageInitReply MacAddress.broadcast senderIp.withoutPrefix MacAddress.broadcast
        senderIp.withoutPrefix) := by
  rw [hostArpMessage, ethernetFromBytes_arpReplyFrame]
  exact arpMessageFromBytes_bytes _

/-- An address that is in the table can be set again. -/
theorem arpTableSet_isSome {table : ArpTable} {ip : IpAddress}
    (h : (arpTableGetConst table ip).isSome = true) (mac : MacAddress) :
    ∃ table', arpTableSet table ip mac = some table' := by
  rw [arpTableGetConst] at h
  cases hindex : arpTableFindIndex table ip with
  | none =>
      rw [hindex] at h
      cases h
  | some index =>
      rw [arpTableSet, hindex]
      exact ⟨_, rfl⟩

/-- A packet that was sent while others waited for its next hop leaves before them once a reply comes. -/
theorem hostStep_overtakes {config : ArpHostConfig} {s : HostRun Ms} (hok : s.host.Ok config)
    (hkept : s.view.Kept config.macAddress) {action : HostAction Ms} (h : ¬ HostSendsNext s action) :
    ∃ raw, ¬ (hostStep (hostStep s action) (.receive raw)).OrderKept := by
  cases action with
  | receive raw => exact absurd trivial h
  | poll nowMs => exact absurd trivial h
  | send targetIp ethertype payload nowMs =>
      simp only [HostSendsNext, HostSendsInOrder, Classical.not_imp] at h
      rcases h with ⟨hpayload, hbroadcast, hknown, hwaiting⟩
      rcases List.exists_mem_of_ne_nil _ hwaiting with ⟨packet, hpacket⟩
      rcases mem_waitingFor.mp hpacket with ⟨hpending, hwaits⟩
      rcases Option.isSome_iff_exists.mp hknown with ⟨mac, hmac⟩
      have hip : s.host.hasIp = true := hok.resolves (List.ne_nil_of_mem hpending)
      -- the packet leaves at once
      have hstep : hostStep s (.send targetIp ethertype payload nowMs) =
          { host := s.host.record (.packet s.accepted.length (some (hostNextHop s.host targetIp))
              (hostFrameBytes s.host.macAddress mac ethertype payload))
            accepted := s.accepted ++ [acceptedPacket s.host targetIp ethertype payload] } := by
        rw [hostStep, hostSendL3Packet, if_neg (Nat.not_lt.mpr hpayload), if_neg (by simp [hbroadcast]),
          if_neg (by simp [hip])]
        dsimp only
        rw [hmac]
        dsimp only
        rw [hostSendEthernetFrame_eq _ _ _ _ hpayload]
      rw [hstep]
      -- the reply sends those that waited
      refine ⟨arpReplyFrame (hostNextHop s.host targetIp), fun horder => ?_⟩
      rcases @arpTableSet_isSome s.host.arpTable
        (hostNextHop s.host targetIp).withoutPrefix hknown MacAddress.broadcast with
        ⟨arpTable, htable⟩
      rcases hostFlushesOnReply (hok.record (.packet s.accepted.length
          (some (hostNextHop s.host targetIp))
          (hostFrameBytes s.host.macAddress mac ethertype payload)))
        (arpReplyFrame (hostNextHop s.host targetIp)) _ _
        (hostArpMessage_arpReplyFrame _ (hostNextHop s.host targetIp)) rfl
        (by rw [hostLearnArp]; exact congrArg (Option.map _) htable) with ⟨-, hlog⟩
      have hnumber : packet.number < s.accepted.length := by
        refine List.mem_range.mp (hkept.conserved.mem_iff.mp ?_)
        exact List.mem_append_left _ (List.mem_append_left _ (List.mem_map_of_mem hpending))
      have hfirst := getElem?_append_of_eq_some (hkept.faithful.pending packet hpending)
        [acceptedPacket s.host targetIp ethertype payload]
      have hhop : (acceptedPacket s.host targetIp ethertype payload).nextHop =
          some (hostNextHop s.host targetIp) := by
        rw [acceptedPacket, hbroadcast]
        rfl
      rw [ArpHost.record, List.append_assoc] at hlog
      refine horder _ _ _ _ _ _ hfirst List.getElem?_concat_length rfl hhop hwaits hnumber _ _ _ _ hlog
        _ _ (List.mem_cons_of_mem _ (List.mem_map_of_mem ?_))
      exact mem_waitingFor.mpr ⟨hpending, hwaits⟩

/-- Order is kept in every run in which no packet is sent at once while others wait for its next hop; a
call that does that is one reply away from a packet that leaves before an earlier one. -/
theorem host_keeps_order_iff (config : ArpHostConfig) (items : Nat → HostPendingPacket Ms)
    (actions : List (HostAction Ms)) (h : HostSendsAllInOrder (hostRunInit config items) actions) :
    (hostRun (hostRunInit config items) actions).OrderKept ∧
      ∀ action, HostSendsNext (hostRun (hostRunInit config items) actions) action ↔
        ∀ raw, (hostRun (hostRunInit config items) (actions ++ [action, .receive raw])).OrderKept := by
  have hok := hostRunInit_ok config items
  have hkept := hostRunInit_kept config items
  have horder : (hostRunInit config items).view.InOrder := fun ip => List.Pairwise.nil
  refine ⟨hostRun_orderKept hok hkept horder h, fun action => ?_⟩
  constructor
  · intro hnext raw
    exact hostRun_orderKept hok hkept horder (h.append ⟨hnext, trivial, trivial⟩)
  · intro hall
    by_contra hnext
    rcases hostRun_moves hok actions with ⟨hrunOk, hmoves⟩
    rcases hostStep_overtakes hrunOk (hkept.moves hmoves) hnext with ⟨raw, hraw⟩
    refine hraw ?_
    have hkeeps := hall raw
    rw [hostRun, List.foldl_append] at hkeeps
    exact hkeeps

end Times

end Order

/-! ## A request in between -/

/-- The host `10.0.0.1/24`. -/
def orderHost : ArpHostConfig :=
  { hasIp := true
    ipAddress := ⟨10, 0, 0, 1, 24⟩
    defaultGateway := ⟨10, 0, 0, 254, 24⟩
    macAddress := ⟨2, 0, 0, 0, 0, 1⟩ }

/-- What the slots of its queue hold before they are used. -/
def unusedPacket : HostPendingPacket ℚ :=
  { targetIp := ipZero
    ethertype := 0
    payload := []
    payload_le := Nat.zero_le _
    arpAttempts := 0
    arpLastAttemptMs := 0
    number := 0 }

/-- The request of `10.0.0.2` for the address of the host. -/
def orderRequestFrame : List UInt8 :=
  hostFrameBytes ⟨2, 0, 0, 0, 0, 2⟩ MacAddress.broadcast ethernetTypeArp
    (arpMessageBytes
      (arpMessageInitRequest ⟨2, 0, 0, 0, 0, 2⟩ ⟨10, 0, 0, 2, 24⟩ ⟨10, 0, 0, 1, 24⟩))

/-- Two packets go to `10.0.0.2` in order when its reply comes between them. -/
theorem host_keeps_order_iff_reply :
    (hostRun (hostRunInit orderHost fun _ => unusedPacket)
      [.send ⟨10, 0, 0, 2, 0⟩ ethernetTypeIpv4 [1] 0, .receive (arpReplyFrame ⟨10, 0, 0, 2, 0⟩),
        .send ⟨10, 0, 0, 2, 0⟩ ethernetTypeIpv4 [2] 0]).OrderKept :=
  (host_keeps_order_iff orderHost (fun _ => unusedPacket)
    [.send ⟨10, 0, 0, 2, 0⟩ ethernetTypeIpv4 [1] 0, .receive (arpReplyFrame ⟨10, 0, 0, 2, 0⟩),
      .send ⟨10, 0, 0, 2, 0⟩ ethernetTypeIpv4 [2] 0]
    ⟨fun _ _ _ => rfl, trivial, fun _ _ _ => rfl, trivial⟩).1

/-- Both packets, with the request of `10.0.0.2` between them and its reply at the end. -/
def orderRun : HostRun ℚ :=
  hostRun (hostRunInit orderHost fun _ => unusedPacket)
    [.send ⟨10, 0, 0, 2, 0⟩ ethernetTypeIpv4 [1] 0, .receive orderRequestFrame,
      .send ⟨10, 0, 0, 2, 0⟩ ethernetTypeIpv4 [2] 0, .receive (arpReplyFrame ⟨10, 0, 0, 2, 0⟩)]

/-- The second packet is sent at once, and the first one when the reply comes. -/
theorem host_keeps_order_iff_request : ¬ orderRun.OrderKept := by
  intro h
  have hsecond : orderRun.host.log = orderRun.host.log.take 2 ++
      .packet 1 (some ⟨10, 0, 0, 2, 0⟩)
        (hostFrameBytes ⟨2, 0, 0, 0, 0, 1⟩ ⟨2, 0, 0, 0, 0, 2⟩ ethernetTypeIpv4 [2]) ::
      orderRun.host.log.drop 3 := by
    decide +kernel
  have hfirst : .packet 0 (some ⟨10, 0, 0, 2, 0⟩)
      (hostFrameBytes ⟨2, 0, 0, 0, 0, 1⟩ MacAddress.broadcast ethernetTypeIpv4 [1]) ∈
      orderRun.host.log.drop 3 := by
    decide +kernel
  exact h 0 1 ⟨some ⟨10, 0, 0, 2, 0⟩, ethernetTypeIpv4, [1]⟩
    ⟨some ⟨10, 0, 0, 2, 0⟩, ethernetTypeIpv4, [2]⟩ ⟨10, 0, 0, 2, 0⟩ ⟨10, 0, 0, 2, 0⟩ rfl rfl rfl rfl
    rfl Nat.zero_lt_one _ _ _ _ hsecond _ _ hfirst

end MagiStack
