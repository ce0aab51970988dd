import MagiStack.Layer2.HostConservation

/-!
# HostRetry — ARP retries of a host

`host_poll_arp` comes to an end, the packets for one address stay in step, and at most three requests are
made for an address before its packets are sent or given up.
-/

namespace MagiStack

section Hosts

variable {Ms : Type}

/-! ## Packets in step -/

/-- The packets for one address have the same count and time. -/
def HostInStep (pending : List (HostPendingPacket Ms)) : Prop :=
  ∀ x ∈ pending, ∀ y ∈ pending, ipOctetsEqualPublic x.targetIp y.targetIp = true →
    x.arpAttempts = y.arpAttempts ∧ x.arpLastAttemptMs = y.arpLastAttemptMs

theorem HostInStep.subset {pending pending' : List (HostPendingPacket Ms)} (h : HostInStep pending)
    (hsubset : pending' ⊆ pending) : HostInStep pending' :=
  fun x hx y hy => h x (hsubset hx) y (hsubset hy)

theorem HostInStep.append {pending : List (HostPendingPacket Ms)} {packet : HostPendingPacket Ms}
    (h : HostInStep pending)
    (hsame : ∀ x ∈ pending, ipOctetsEqualPublic x.targetIp packet.targetIp = true →
      x.arpAttempts = packet.arpAttempts ∧ x.arpLastAttemptMs = packet.arpLastAttemptMs) :
    HostInStep (pending ++ [packet]) := by
  intro x hx y hy hequal
  rw [List.mem_append, List.mem_singleton] at hx hy
  obtain hx | rfl := hx
  · obtain hy | rfl := hy
    · exact h x hx y hy hequal
    · exact hsame x hx hequal
  · obtain hy | rfl := hy
    · rw [ipOctetsEqualPublic_comm] at hequal
      obtain ⟨hcount, htime⟩ := hsame y hy hequal
      exact ⟨hcount.symm, htime.symm⟩
    · exact ⟨rfl, rfl⟩

theorem HostInStep.retried {pending : List (HostPendingPacket Ms)} (h : HostInStep pending)
    (targetIp : IpAddress) (arpAttempts : Nat) (attemptMs : Ms) :
    HostInStep (pending.map (.retried targetIp arpAttempts attemptMs)) := by
  intro x' hx' y' hy' hequal
  obtain ⟨x, hx, rfl⟩ := List.mem_map.mp hx'
  obtain ⟨y, hy, rfl⟩ := List.mem_map.mp hy'
  have htarget : ∀ packet : HostPendingPacket Ms,
      (packet.retried targetIp arpAttempts attemptMs).targetIp = packet.targetIp := by
    intro packet
    unfold HostPendingPacket.retried
    split
    all_goals rfl
  rw [htarget, htarget] at hequal
  have hboth : x.waitsFor targetIp = y.waitsFor targetIp := by
    rw [HostPendingPacket.waitsFor, HostPendingPacket.waitsFor, ipOctetsEqualPublic_comm,
      ipOctetsEqualPublic_congr hequal, ipOctetsEqualPublic_comm]
  unfold HostPendingPacket.retried
  rw [hboth]
  split
  · exact ⟨rfl, rfl⟩
  · exact h x hx y hy hequal

/-- A packet that is queued takes the count and the time of those that wait for its address. -/
theorem HostInStep.queued {host : ArpHost Ms} (h : HostInStep host.pending)
    {packet : HostPendingPacket Ms} {nowMs : Ms}
    (hattempts : packet.arpAttempts =
      (hostFindPendingForIp host packet.targetIp).elim 1 HostPendingPacket.arpAttempts)
    (hlast : packet.arpLastAttemptMs =
      (hostFindPendingForIp host packet.targetIp).elim nowMs HostPendingPacket.arpLastAttemptMs) :
    HostInStep (host.pending ++ [packet]) := by
  refine h.append fun x hx hequal => ?_
  cases hfind : hostFindPendingForIp host packet.targetIp with
  | none =>
      have hnone := waitingFor_eq_nil.mp (hostFindPendingForIp_none hfind) x hx
      rw [hequal] at hnone
      cases hnone
  | some existing =>
      obtain ⟨hexisting, hwaits⟩ := mem_waitingFor.mp (hostFindPendingForIp_some hfind)
      rw [hattempts, hlast, hfind]
      refine h x hx existing hexisting ?_
      rw [ipOctetsEqualPublic_iff] at hequal hwaits ⊢
      exact hequal.trans hwaits.symm

theorem hostSendArpRequest_pending {host host' : ArpHost Ms} {targetIp : IpAddress}
    (h : hostSendArpRequest host targetIp = some host') : host'.pending = host.pending := by
  cases hip : host.hasIp with
  | false =>
      rw [hostSendArpRequest, hip] at h
      cases h
  | true =>
      obtain ⟨frame, hframe⟩ := hostSendArpRequest_eq hip targetIp
      rw [hframe] at h
      cases h
      rfl

/-- A packet waits with the count and the time of those that wait for its next hop. -/
theorem hostSendL3Packet_inStep {config : ArpHostConfig} {host : ArpHost Ms} (hok : host.Ok config)
    (h : HostInStep host.pending) (targetIp : IpAddress) (ethertype : UInt16) (payload : List UInt8)
    (nowMs : Ms) (number : Nat) :
    HostInStep (hostSendL3Packet host targetIp ethertype payload nowMs number).2.pending := by
  rw [hostSendL3Packet]
  split
  · exact h
  · rename_i hpayload
    split
    · rw [hostSendEthernetFrame_eq _ _ _ _ (Nat.le_of_not_lt hpayload)]
      exact h
    · split
      · exact h
      · dsimp only
        split
        · rw [hostSendEthernetFrame_eq _ _ _ _ (Nat.le_of_not_lt hpayload)]
          exact h
        · rw [hostQueuePendingPacketWithArpState, dif_pos (Nat.le_of_not_lt hpayload)]
          by_cases hfull : hostPendingQueueMaxEntries ≤ host.pendingQueue.size
          · rw [if_pos hfull]
            exact h
          · rw [if_neg hfull]
            dsimp only
            -- It takes the count and the time of those that wait for its next hop, or starts with one.
            have hqueued : ∀ packet : HostPendingPacket Ms,
                packet.arpAttempts = (hostFindPendingForIp host packet.targetIp).elim 1
                  HostPendingPacket.arpAttempts →
                packet.arpLastAttemptMs = (hostFindPendingForIp host packet.targetIp).elim nowMs
                  HostPendingPacket.arpLastAttemptMs →
                HostInStep (host.pendingQueue.push packet).toList := by
              intro packet hattempts hlast
              have hlist := (hok.valid.push (Nat.lt_of_not_le hfull) packet).2
              rw [hlist]
              exact h.queued hattempts hlast
            split
            · exact hqueued _ rfl rfl
            · split
              · exact hqueued _ rfl rfl
              · rename_i asked hasked
                rw [hostSendArpRequest_pending hasked]
                exact hqueued _ rfl rfl

/-! ## Calls keep the packets in step -/

theorem hostReceive_pending {config : ArpHostConfig} {host : ArpHost Ms} (hok : host.Ok config)
    (raw : List UInt8) : (hostReceive host raw).pending ⊆ host.pending := by
  rw [hostReceive]
  split
  · exact List.Subset.refl _
  · rename_i arp harp
    obtain ⟨hlearn, hpending, -⟩ := hok.learn arp
    rw [hostReceiveArp, ← hpending]
    generalize (hostLearnArp host arp).getD host = learned at hlearn
    split
    · rename_i hrequest
      obtain ⟨frame, hframe⟩ := hostSendArpReply_eq hrequest.2.1 arp
      rw [hframe]
      exact List.Subset.refl _
    · split
      · rw [hostFlushPendingPackets]
        split
        · exact List.Subset.refl _
        · rename_i mac hmac
          -- The flush takes out the packets for the sender of the reply.
          obtain ⟨queue, -, hlist, hloop⟩ := (hostFlushLoop_dequeuesAll arp.senderIp mac).spec
            learned.pendingQueue.size 0 (learned.record (.flushed arp.senderIp)) hlearn.valid le_rfl
          rw [hloop]
          have hothers : queue.toList = othersThan arp.senderIp learned.pending := hlist
          change queue.toList ⊆ learned.pending
          rw [hothers]
          exact List.filter_subset_self _
      · exact List.Subset.refl _

section Times

variable [SimTime Ms]

theorem hostPollArpLoop_inStep {config : ArpHostConfig} {host : ArpHost Ms} (hok : host.Ok config)
    (h : HostInStep host.pending) (nowMs : Ms) (fuel : Nat) :
    HostInStep (hostPollArpLoop nowMs fuel host).pending := by
  induction fuel generalizing host with
  | zero => exact h
  | succ fuel ih =>
      cases hfind : host.pending.find? (HostPendingPacket.isDue nowMs) with
      | none =>
          rw [hostPollArpLoop, hfind]
          exact h
      | some packet =>
          obtain ⟨host', hround, hok', -, hpending⟩ := hostPollArpLoop_round hok False hfind [] fuel
          rw [hround]
          refine ih hok' ?_
          obtain ⟨-, hothers⟩ | ⟨-, attemptMs, hretried⟩ := hpending
          · rw [hothers]
            exact h.subset (List.filter_subset_self _)
          · rw [hretried]
            exact h.retried packet.targetIp _ attemptMs

theorem hostRun_inStep {config : ArpHostConfig} {s : HostRun Ms} (hok : s.host.Ok config)
    (h : HostInStep s.host.pending) (actions : List (HostAction Ms)) :
    HostInStep (hostRun s actions).host.pending := by
  induction actions generalizing s with
  | nil => exact h
  | cons action actions ih =>
      refine ih (hostStep_moves hok action (fun hcontra : False => hcontra.elim)).1 ?_
      cases action with
      | send targetIp ethertype payload nowMs =>
          have hsend := hostSendL3Packet_inStep hok h targetIp ethertype payload nowMs s.accepted.length
          rw [hostStep]
          split
          · rename_i host haccepted
            rwa [haccepted] at hsend
          · rename_i host hrefused
            rwa [hrefused] at hsend
      | receive raw => exact h.subset (hostReceive_pending hok raw)
      | poll nowMs => exact hostPollArpLoop_inStep hok h nowMs _

/-! ## The bound on the rounds of a poll does not matter -/

theorem hostPollArpLoop_add (nowMs : Ms) (fuel more : Nat) (host : ArpHost Ms) :
    hostPollArpLoop nowMs (fuel + more) host =
      hostPollArpLoop nowMs more (hostPollArpLoop nowMs fuel host) := by
  induction fuel generalizing host with
  | zero => rw [Nat.zero_add, hostPollArpLoop]
  | succ fuel ih =>
      rw [Nat.succ_add, hostPollArpLoop, hostPollArpLoop]
      cases hfind : host.pending.find? (HostPendingPacket.isDue nowMs) with
      | none =>
          cases more with
          | zero => rfl
          | succ more => simp only [hostPollArpLoop, hfind]
      | some packet =>
          dsimp only
          split
          · exact ih _
          · exact ih _

/-- A poll that has come to its end does nothing in further rounds. -/
theorem hostPollArpLoop_of_settled {nowMs : Ms} {host : ArpHost Ms}
    (h : host.pending.find? (HostPendingPacket.isDue nowMs) = none) (fuel : Nat) :
    hostPollArpLoop nowMs fuel host = host := by
  cases fuel with
  | zero => rfl
  | succ fuel => rw [hostPollArpLoop, h]

end Times

/-! ## Requests along the log -/

/-- No more than three requests for an address are unanswered at any place of the log. -/
def AsksAtMostThrice (log : List HostEvent) : Prop :=
  ∀ before after, log = before ++ after → ∀ ip, unansweredRequests ip before ≤ hostArpMaxAttempts

/-- Events that are no requests do not raise the count. -/
def NoRequests (events : List HostEvent) : Prop :=
  ∀ ip, ∀ event ∈ events, ∀ n, countRequest ip n event ≤ n

theorem countRequest_foldl_le {events : List HostEvent} (h : NoRequests events) (ip : IpAddress)
    (count : Nat) : events.foldl (countRequest ip) count ≤ count := by
  induction events generalizing count with
  | nil => exact le_rfl
  | cons event events ih =>
      have hrest : NoRequests events :=
        fun ip other hother => h ip other (List.mem_cons_of_mem _ hother)
      rw [List.foldl_cons]
      exact (ih hrest _).trans (h ip event List.mem_cons_self count)

/-- A move adds one event to the log, or events that are no requests. -/
theorem HostMove.events {mac : MacAddress} {ordered : Prop} {v v' : HostView Ms}
    (h : HostMove mac ordered v v') :
    ∃ events, v'.log = v.log ++ events ∧ (events.length = 1 ∨ NoRequests events) := by
  cases h with
  | direct => exact ⟨_, rfl, Or.inl rfl⟩
  | first => exact ⟨_, rfl, Or.inl rfl⟩
  | join => exact ⟨[], (List.append_nil _).symm, Or.inr fun ip event hevent => (nomatch hevent)⟩
  | reply => exact ⟨_, rfl, Or.inl rfl⟩
  | flush pending log accepted resolvedIp dst =>
      refine ⟨_, rfl, Or.inr fun ip event hevent n => ?_⟩
      rw [List.mem_cons, List.mem_map] at hevent
      obtain rfl | ⟨packet, -, rfl⟩ := hevent
      · rw [countRequest]
        split
        · exact Nat.zero_le n
        · exact le_rfl
      · exact le_rfl
  | retry => exact ⟨_, rfl, Or.inl rfl⟩
  | giveUp pending log accepted packet hpacket hattempts =>
      refine ⟨_, rfl, Or.inr fun ip event hevent n => ?_⟩
      rw [List.mem_append, List.mem_map, List.mem_singleton] at hevent
      obtain ⟨dropped, -, rfl⟩ | rfl := hevent
      · exact le_rfl
      · rw [countRequest]
        split
        · exact Nat.zero_le n
        · exact le_rfl

theorem HostView.Counted.unanswered_le {v : HostView Ms} (h : v.Counted) (ip : IpAddress) :
    unansweredRequests ip v.log ≤ hostArpMaxAttempts := by
  cases hwaiting : waitingFor ip v.pending with
  | nil =>
      rw [h.idle ip hwaiting]
      exact Nat.zero_le _
  | cons packet rest =>
      have hpacket : packet ∈ waitingFor ip v.pending := by
        rw [hwaiting]
        exact List.mem_cons_self
      obtain ⟨hmem, hequal⟩ := mem_waitingFor.mp hpacket
      obtain ⟨hcount, hle⟩ := h.attempts packet hmem
      rw [← unansweredRequests_congr hequal, ← hcount]
      exact hle

theorem HostMove.asksAtMostThrice {mac : MacAddress} {ordered : Prop} {v v' : HostView Ms}
    (h : HostMove mac ordered v v') (hcounted : v.Counted) (hasks : AsksAtMostThrice v.log) :
    AsksAtMostThrice v'.log := by
  have hbefore := hcounted.unanswered_le
  have hafter := (h.counted hcounted).unanswered_le
  obtain ⟨events, hlog, hevents⟩ := h.events
  rw [hlog] at hafter ⊢
  intro before after hsplit ip
  obtain ⟨more, hold, -⟩ | ⟨middle, rfl, hmiddle⟩ := List.append_eq_append_iff.mp hsplit.symm
  · exact hasks before more hold ip
  · obtain hone | hquiet := hevents
    · -- One event: the place is before it or after it.
      rw [List.length_eq_one_iff] at hone
      obtain ⟨event, rfl⟩ := hone
      obtain ⟨rfl, -⟩ | ⟨rfl, -⟩ := List.singleton_eq_append_iff.mp hmiddle
      · rw [List.append_nil]
        exact hbefore ip
      · exact hafter ip
    · have hpart : NoRequests middle := by
        intro ip event hevent
        refine hquiet ip event ?_
        rw [hmiddle]
        exact List.mem_append_left _ hevent
      rw [unansweredRequests_append]
      exact (countRequest_foldl_le hpart ip _).trans (hbefore ip)

open Relation (ReflTransGen)

theorem asksAtMostThrice_of_moves {mac : MacAddress} {ordered : Prop} {v v' : HostView Ms}
    (h : ReflTransGen (HostMove mac ordered) v v') (hcounted : v.Counted)
    (hasks : AsksAtMostThrice v.log) : v'.Counted ∧ AsksAtMostThrice v'.log := by
  induction h with
  | refl => exact ⟨hcounted, hasks⟩
  | tail _ hmove ih => exact ⟨hmove.counted ih.1, hmove.asksAtMostThrice ih.1 ih.2⟩

/-! ## Main result -/

section Times

variable [SimTime Ms]

/-- The retries of a host: the packets for one address have the same count and time; a poll comes to its end,
however many rounds it is given beyond its bound, and then no packet is due; and at most three requests are
made for an address before its packets are sent or given up. -/
structure HostRetriesBounded (s : HostRun Ms) : Prop where
  same : HostInStep s.host.pending
  polls : ∀ nowMs, (∀ packet ∈ (hostPollArp s.host nowMs).pending, packet.isDue nowMs = false) ∧
    ∀ fuel, 4 * s.host.pendingQueue.size ≤ fuel →
      hostPollArpLoop nowMs fuel s.host = hostPollArp s.host nowMs
  asks : AsksAtMostThrice s.host.log

theorem hostRun_retriesBounded (config : ArpHostConfig) (items : Nat → HostPendingPacket Ms)
    (actions : List (HostAction Ms)) :
    HostRetriesBounded (hostRun (hostRunInit config items) actions) := by
  have hinit := hostRunInit_ok config items
  have hkept := hostRunInit_kept config items
  obtain ⟨hok, hmoves⟩ := hostRun_moves hinit actions
  have hnothing : AsksAtMostThrice (hostRunInit config items).view.log := by
    intro before after hlog ip
    rw [(List.append_eq_nil_iff.mp hlog.symm).1]
    exact Nat.zero_le _
  refine ⟨hostRun_inStep hinit (fun x hx => (nomatch hx)) actions, fun nowMs => ?_,
    (asksAtMostThrice_of_moves hmoves hkept.counted hnothing).2⟩
  have hsettled := hostPollArp_settled hok (hkept.moves hmoves) nowMs
  constructor
  · intro packet hpacket
    exact Bool.eq_false_of_not_eq_true (List.find?_eq_none.mp hsettled packet hpacket)
  · intro fuel hfuel
    rw [← Nat.add_sub_cancel' hfuel, hostPollArpLoop_add]
    exact hostPollArpLoop_of_settled hsettled _

end Times

end Hosts

end MagiStack
