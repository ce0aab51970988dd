import MagiStack.Layer2.HostConservation
import MagiStack.Layer3.RouterErrors

/-!
# RouterQueue — the packets of a router that wait, and the requests for them

A run of a router in the terms of what waits.  `PendingMove` says what a call can do to the waiting packets
and which addresses it asks for; `routerCall_move` connects it to the code.  Every move keeps the packets
for one next hop in step, and counts the requests for it.
-/

namespace MagiStack

/-! ## Runs -/

/-- A call of one of the router's functions, or a piece of one; `router_send_ipv4_packet` is called by others
with packets of their own. -/
inductive RouterCall (Ms : Type)
  | act (action : RouterAction Ms)
  | send (packet : Ipv4Packet) (nowMs : Ms)

section Runs

variable {Ms : Type} [SimTime Ms]

def routerCall (r : RouterState Ms) : RouterCall Ms → RouterState Ms × List RouterEvent
  | .act action => routerAct r action
  | .send packet nowMs => routerSendIpv4Packet r packet nowMs

/-- The state after a run. -/
def routerCalls (r : RouterState Ms) (calls : List (RouterCall Ms)) : RouterState Ms :=
  calls.foldl (fun r call => (routerCall r call).1) r

/-- The events of a run. -/
def routerCallsEvents : RouterState Ms → List (RouterCall Ms) → List RouterEvent
  | _, [] => []
  | r, call :: calls => (routerCall r call).2 ++ routerCallsEvents (routerCall r call).1 calls

/-- Every call of a run meets a condition on the state before it. -/
def RouterCallsMeet (condition : RouterState Ms → RouterCall Ms → Prop) :
    RouterState Ms → List (RouterCall Ms) → Prop
  | _, [] => True
  | r, call :: calls => condition r call ∧ RouterCallsMeet condition (routerCall r call).1 calls

instance RouterCallsMeet.decidable (condition : RouterState Ms → RouterCall Ms → Prop)
    [h : ∀ r call, Decidable (condition r call)] (r : RouterState Ms) :
    (calls : List (RouterCall Ms)) → Decidable (RouterCallsMeet condition r calls)
  | [] => inferInstanceAs (Decidable True)
  | call :: calls =>
      @instDecidableAnd _ _ (h r call) (RouterCallsMeet.decidable condition (routerCall r call).1 calls)

end Runs

/-! ## ARP requests -/

/-- The event is the ARP request for an address. -/
def RouterEvent.asksFor (ip : IpAddress) : RouterEvent → Bool
  | .frame _ raw _ =>
      match ethernetFromBytes raw with
      | none => false
      | some received =>
          if received.ethertype = ethernetTypeArp then
            match arpMessageFromBytes received.payload with
            | none => false
            | some arp => decide (arp.opcode = .request) && ipOctetsEqualPublic arp.targetIp ip
          else
            false
  | .icmpError .. => false

section Frames

variable {Ms : Type}

theorem RouterEvent.asksFor_frame {frame : EthernetFrame} (h : frame.Serializable)
    (htype : frame.ethertype ≠ ethernetTypeArp) (ip : IpAddress) (port : Fin maxPort)
    (cargo : Option RouterCargo) :
    (RouterEvent.frame port (ethernetBytes frame) cargo).asksFor ip = false := by
  simp only [asksFor, ethernetFromBytes_bytes h, if_neg htype]

theorem RouterEvent.asksFor_arp {frame : EthernetFrame} {arp : ArpMessage} (h : frame.Serializable)
    (htype : frame.ethertype = ethernetTypeArp) (hpayload : frame.payload = arpMessageBytes arp)
    (ip : IpAddress) (port : Fin maxPort) (cargo : Option RouterCargo) :
    (RouterEvent.frame port (ethernetBytes frame) cargo).asksFor ip =
      (decide (arp.opcode = .request) && ipOctetsEqualPublic arp.targetIp ip) := by
  simp only [asksFor, ethernetFromBytes_bytes h, if_pos htype, hpayload, arpMessageFromBytes_bytes]
  rfl

/-- `router_send_arp_request` asks for its target. -/
theorem routerSendArpRequest_asksFor {r : RouterState Ms} {outInterface : Int} {targetIp : IpAddress}
    {vlanId : Int} {event : RouterEvent}
    (h : routerSendArpRequest r outInterface targetIp vlanId = some event) (ip : IpAddress) :
    event.asksFor ip = ipOctetsEqualPublic targetIp ip := by
  rw [routerSendArpRequest] at h
  split at h
  · cases h
  · dsimp only at h
    split at h
    · cases h
    · rw [arpMessageToBytes, if_neg (lt_irrefl _)] at h
      obtain ⟨port, frame, rfl, hserial, htype, hpayload⟩ :=
        routerSendEthernetFrame_eq_some (by decide) h
      rw [RouterEvent.asksFor_arp hserial htype hpayload]
      exact Bool.true_and _

theorem routerSendArpReply_asksFor {r : RouterState Ms} {request : ArpMessage} {outInterface : Int}
    {vlanId : Int} {event : RouterEvent}
    (h : routerSendArpReply r request outInterface vlanId = some event) (ip : IpAddress) :
    event.asksFor ip = false := by
  rw [routerSendArpReply] at h
  split at h
  · cases h
  · rw [arpMessageToBytes, if_neg (lt_irrefl _)] at h
    obtain ⟨port, frame, rfl, hserial, htype, hpayload⟩ :=
      routerSendEthernetFrame_eq_some (by decide) h
    rw [RouterEvent.asksFor_arp hserial htype hpayload]
    exact Bool.false_and _

end Frames

/-- The requests for an address among events. -/
def requestsFor (ip : IpAddress) (events : List RouterEvent) : Nat :=
  events.countP (RouterEvent.asksFor ip)

/-- How often an address is among those that were asked for. -/
def timesAsked (ip : IpAddress) (asked : List IpAddress) : Nat :=
  asked.countP fun target => ipOctetsEqualPublic target ip

/-! ## Moves -/

section Moves

variable {Ms : Type}

/-- One of the interface numbers of a router. -/
def IsPort (numInterfaces : Nat) (portNumber : Int) : Prop :=
  1 ≤ portNumber ∧ portNumber ≤ numInterfaces

/-- What the sending of a packet does to those that wait, with the addresses it asks for: nothing; or it
joins the packets for its next hop with their count and time; or it is the first one for it. -/
inductive PendingQueues (numInterfaces : Nat) (packet : Ipv4Packet) :
    List (RouterPendingPacket Ms) → List IpAddress → List (RouterPendingPacket Ms) → Prop
  | stays (pending : List (RouterPendingPacket Ms)) :
      PendingQueues numInterfaces packet pending [] pending
  | joins (pending : List (RouterPendingPacket Ms)) (item existing : RouterPendingPacket Ms)
      (hpacket : item.packet = packet) (hport : IsPort numInterfaces item.outInterface)
      (hfind : pending.find? (RouterPendingPacket.waitsFor item.nextHopIp) = some existing)
      (hattempts : item.arpAttempts = existing.arpAttempts)
      (hlast : item.arpLastAttemptMs = existing.arpLastAttemptMs) :
      PendingQueues numInterfaces packet pending [] (pending ++ [item])
  | asks (pending : List (RouterPendingPacket Ms)) (item : RouterPendingPacket Ms)
      (hpacket : item.packet = packet) (hport : IsPort numInterfaces item.outInterface)
      (hfind : pending.find? (RouterPendingPacket.waitsFor item.nextHopIp) = none)
      (hattempts : item.arpAttempts = 1) :
      PendingQueues numInterfaces packet pending [item.nextHopIp] (pending ++ [item])

/-- What a call does to the packets that wait, with the addresses it asks for.  `taken` is the address whose
packets the call takes out of the queue. -/
inductive PendingMove (numInterfaces : Nat) (taken : Option IpAddress) :
    List (RouterPendingPacket Ms) → List IpAddress → List (RouterPendingPacket Ms) → Prop
  | queues {pending pending' : List (RouterPendingPacket Ms)} {asked : List IpAddress}
      (packet : Ipv4Packet) (h : PendingQueues numInterfaces packet pending asked pending') :
      PendingMove numInterfaces taken pending asked pending'
  | retries (pending : List (RouterPendingPacket Ms)) (item : RouterPendingPacket Ms) (attemptMs : Ms)
      (hitem : item ∈ pending) (hattempts : item.arpAttempts < routerArpMaxAttempts) :
      PendingMove numInterfaces taken pending [item.nextHopIp]
        (pending.map (.retried item.nextHopIp (item.arpAttempts + 1) attemptMs))
  | takes {pending pending' : List (RouterPendingPacket Ms)} {asked : List IpAddress}
      (ip : IpAddress) (packet : Ipv4Packet) (htaken : taken = some ip)
      (h : PendingQueues numInterfaces packet (pending.eraseP (RouterPendingPacket.waitsFor ip)) asked
        pending') :
      PendingMove numInterfaces taken pending asked pending'

/-- The packets for one next hop have the same count and time; no count is above three; every packet waits
for one of the interfaces. -/
structure PendingInStep (numInterfaces : Nat) (pending : List (RouterPendingPacket Ms)) : Prop where
  same : ∀ x ∈ pending, ∀ y ∈ pending, ipOctetsEqualPublic x.nextHopIp y.nextHopIp = true →
    x.arpAttempts = y.arpAttempts ∧ x.arpLastAttemptMs = y.arpLastAttemptMs
  attempts : ∀ x ∈ pending, x.arpAttempts ≤ routerArpMaxAttempts
  port : ∀ x ∈ pending, IsPort numInterfaces x.outInterface

/-- The requests that the packets for an address count. -/
def attemptsFor (ip : IpAddress) (pending : List (RouterPendingPacket Ms)) : Nat :=
  (pending.find? (RouterPendingPacket.waitsFor ip)).elim 0 RouterPendingPacket.arpAttempts

theorem waitsFor_congr {a b : IpAddress} (h : ipOctetsEqualPublic a b = true) :
    (RouterPendingPacket.waitsFor a : RouterPendingPacket Ms → Bool) = RouterPendingPacket.waitsFor b := by
  funext item
  exact ipOctetsEqualPublic_congr h item.nextHopIp

theorem ipOctetsEqualPublic_self (ip : IpAddress) : ipOctetsEqualPublic ip ip = true :=
  ipOctetsEqualPublic_iff.mpr rfl

theorem RouterPendingPacket.retried_nextHopIp (ip : IpAddress) (arpAttempts : Nat) (attemptMs : Ms)
    (item : RouterPendingPacket Ms) : (item.retried ip arpAttempts attemptMs).nextHopIp =
      item.nextHopIp := by
  unfold retried
  split
  all_goals rfl

theorem RouterPendingPacket.retried_outInterface (ip : IpAddress) (arpAttempts : Nat) (attemptMs : Ms)
    (item : RouterPendingPacket Ms) : (item.retried ip arpAttempts attemptMs).outInterface =
      item.outInterface := by
  unfold retried
  split
  all_goals rfl

/-! ## Packets stay in step -/

theorem PendingInStep.subset {numInterfaces : Nat} {pending pending' : List (RouterPendingPacket Ms)}
    (h : PendingInStep numInterfaces pending) (hsubset : pending' ⊆ pending) :
    PendingInStep numInterfaces pending' :=
  { same := fun x hx y hy => h.same x (hsubset hx) y (hsubset hy)
    attempts := fun x hx => h.attempts x (hsubset hx)
    port := fun x hx => h.port x (hsubset hx) }

/-- A packet that waits is in step with those that its next hop has waiting. -/
theorem PendingInStep.append {numInterfaces : Nat} {pending : List (RouterPendingPacket Ms)}
    {item : RouterPendingPacket Ms} (h : PendingInStep numInterfaces pending)
    (hport : IsPort numInterfaces item.outInterface)
    (hattempts : item.arpAttempts ≤ routerArpMaxAttempts)
    (hsame : ∀ x ∈ pending, ipOctetsEqualPublic x.nextHopIp item.nextHopIp = true →
      x.arpAttempts = item.arpAttempts ∧ x.arpLastAttemptMs = item.arpLastAttemptMs) :
    PendingInStep numInterfaces (pending ++ [item]) := by
  refine ⟨?_, ?_, ?_⟩
  · intro x hx y hy hequal
    rw [List.mem_append, List.mem_singleton] at hx hy
    obtain hx | rfl := hx
    · obtain hy | rfl := hy
      · exact h.same x hx y hy hequal
      · exact hsame x hx hequal
    · obtain hy | rfl := hy
      · rw [ipOctetsEqualPublic_comm] at hequal
        obtain ⟨hcount, htime⟩ := hsame y hy hequal
        exact ⟨hcount.symm, htime.symm⟩
      · exact ⟨rfl, rfl⟩
  · intro x hx
    rw [List.mem_append, List.mem_singleton] at hx
    obtain hx | rfl := hx
    · exact h.attempts x hx
    · exact hattempts
  · intro x hx
    rw [List.mem_append, List.mem_singleton] at hx
    obtain hx | rfl := hx
    · exact h.port x hx
    · exact hport

theorem PendingQueues.inStep {numInterfaces : Nat} {packet : Ipv4Packet}
    {pending pending' : List (RouterPendingPacket Ms)} {asked : List IpAddress}
    (hstep : PendingQueues numInterfaces packet pending asked pending')
    (h : PendingInStep numInterfaces pending) : PendingInStep numInterfaces pending' := by
  cases hstep with
  | stays => exact h
  | joins item existing hpacket hport hfind hattempts hlast =>
      have hexisting := List.mem_of_find?_eq_some hfind
      have hwaits := List.find?_some hfind
      refine h.append hport ?_ ?_
      · rw [hattempts]
        exact h.attempts existing hexisting
      · intro x hx hequal
        rw [hattempts, hlast]
        refine h.same x hx existing hexisting ?_
        -- Both wait for the next hop of the packet.
        rw [ipOctetsEqualPublic_iff] at hequal ⊢
        exact hequal.trans (ipOctetsEqualPublic_iff.mp hwaits).symm
  | asks item hpacket hport hfind hattempts =>
      refine h.append hport ?_ ?_
      · rw [hattempts]
        decide
      · intro x hx hequal
        exact absurd hequal (List.find?_eq_none.mp hfind x hx)

/-- A retry counts up all packets for an address, and those alone. -/
theorem PendingInStep.retried {numInterfaces : Nat} {pending : List (RouterPendingPacket Ms)}
    (h : PendingInStep numInterfaces pending) (ip : IpAddress) {arpAttempts : Nat}
    (hattempts : arpAttempts ≤ routerArpMaxAttempts) (attemptMs : Ms) :
    PendingInStep numInterfaces (pending.map (.retried ip arpAttempts attemptMs)) := by
  refine ⟨?_, ?_, ?_⟩
  · intro x' hx' y' hy' hequal
    obtain ⟨x, hx, rfl⟩ := List.mem_map.mp hx'
    obtain ⟨y, hy, rfl⟩ := List.mem_map.mp hy'
    rw [RouterPendingPacket.retried_nextHopIp, RouterPendingPacket.retried_nextHopIp] at hequal
    -- Packets for one next hop are retried together.
    have hboth : x.waitsFor ip = y.waitsFor ip := by
      rw [RouterPendingPacket.waitsFor, RouterPendingPacket.waitsFor, ipOctetsEqualPublic_comm,
        ipOctetsEqualPublic_congr hequal, ipOctetsEqualPublic_comm]
    unfold RouterPendingPacket.retried
    rw [hboth]
    split
    · exact ⟨rfl, rfl⟩
    · exact h.same x hx y hy hequal
  · intro x' hx'
    obtain ⟨x, hx, rfl⟩ := List.mem_map.mp hx'
    unfold RouterPendingPacket.retried
    split
    · exact hattempts
    · exact h.attempts x hx
  · intro x' hx'
    obtain ⟨x, hx, rfl⟩ := List.mem_map.mp hx'
    rw [RouterPendingPacket.retried_outInterface]
    exact h.port x hx

theorem PendingMove.inStep {numInterfaces : Nat} {taken : Option IpAddress}
    {pending pending' : List (RouterPendingPacket Ms)} {asked : List IpAddress}
    (hmove : PendingMove numInterfaces taken pending asked pending')
    (h : PendingInStep numInterfaces pending) : PendingInStep numInterfaces pending' := by
  cases hmove with
  | queues packet hqueues => exact hqueues.inStep h
  | retries item attemptMs hitem hattempts => exact h.retried item.nextHopIp hattempts attemptMs
  | takes ip packet htaken hqueues => exact hqueues.inStep (h.subset List.eraseP_subset)

/-! ## Requests are counted -/

/-- The count of those that wait for an address is the count of any of them. -/
theorem attemptsFor_eq {numInterfaces : Nat} {pending : List (RouterPendingPacket Ms)}
    (h : PendingInStep numInterfaces pending) {ip : IpAddress} {x : RouterPendingPacket Ms}
    (hx : x ∈ pending) (hwaits : x.waitsFor ip = true) : attemptsFor ip pending = x.arpAttempts := by
  cases hfind : pending.find? (RouterPendingPacket.waitsFor ip) with
  | none => exact absurd hwaits (List.find?_eq_none.mp hfind x hx)
  | some first =>
      have hfirst := List.find?_some hfind
      rw [attemptsFor, hfind, Option.elim_some]
      refine (h.same first (List.mem_of_find?_eq_some hfind) x hx ?_).1
      rw [RouterPendingPacket.waitsFor, ipOctetsEqualPublic_iff] at hfirst hwaits
      exact ipOctetsEqualPublic_iff.mpr (hfirst.trans hwaits.symm)

theorem attemptsFor_of_none {ip : IpAddress} {pending : List (RouterPendingPacket Ms)}
    (h : pending.find? (RouterPendingPacket.waitsFor ip) = none) : attemptsFor ip pending = 0 := by
  rw [attemptsFor, h]
  rfl

theorem attemptsFor_le {numInterfaces : Nat} {pending : List (RouterPendingPacket Ms)}
    (h : PendingInStep numInterfaces pending) (ip : IpAddress) :
    attemptsFor ip pending ≤ routerArpMaxAttempts := by
  rw [attemptsFor]
  cases hfind : pending.find? (RouterPendingPacket.waitsFor ip) with
  | none => exact Nat.zero_le _
  | some first => exact h.attempts first (List.mem_of_find?_eq_some hfind)

/-- Packets that are added leave the count of an address that has packets waiting. -/
theorem attemptsFor_append {ip : IpAddress} {pending : List (RouterPendingPacket Ms)}
    (more : List (RouterPendingPacket Ms)) {first : RouterPendingPacket Ms}
    (h : pending.find? (RouterPendingPacket.waitsFor ip) = some first) :
    attemptsFor ip (pending ++ more) = attemptsFor ip pending := by
  rw [attemptsFor, attemptsFor, List.find?_append, h]
  rfl

theorem PendingQueues.counted {numInterfaces : Nat} {packet : Ipv4Packet}
    {pending pending' : List (RouterPendingPacket Ms)} {asked : List IpAddress}
    (hstep : PendingQueues numInterfaces packet pending asked pending') (ip : IpAddress) :
    timesAsked ip asked + attemptsFor ip pending ≤ attemptsFor ip pending' := by
  cases hstep with
  | stays => exact (Nat.zero_add _).le
  | joins item existing hpacket hport hfind hattempts hlast =>
      have hasked : timesAsked ip [] = 0 := rfl
      cases hbefore : pending.find? (RouterPendingPacket.waitsFor ip) with
      | none =>
          rw [attemptsFor_of_none hbefore, hasked]
          exact Nat.zero_le _
      | some first => rw [attemptsFor_append [item] hbefore, hasked, Nat.zero_add]
  | asks item hpacket hport hfind hattempts =>
      by_cases hequal : ipOctetsEqualPublic item.nextHopIp ip = true
      · -- Nothing waits for the address, and the packet that is added has made one request.
        rw [waitsFor_congr hequal] at hfind
        rw [attemptsFor_of_none hfind, attemptsFor, List.find?_append, hfind, Option.none_or]
        simp [timesAsked, RouterPendingPacket.waitsFor, hequal, hattempts]
      · have hasked : timesAsked ip [item.nextHopIp] = 0 := by
          simp [timesAsked, hequal]
        cases hbefore : pending.find? (RouterPendingPacket.waitsFor ip) with
        | none =>
            rw [attemptsFor_of_none hbefore, hasked]
            exact Nat.zero_le _
        | some first => rw [attemptsFor_append [item] hbefore, hasked, Nat.zero_add]

theorem find?_retried (ip target : IpAddress) (arpAttempts : Nat) (attemptMs : Ms)
    (pending : List (RouterPendingPacket Ms)) :
    (pending.map (.retried target arpAttempts attemptMs)).find? (RouterPendingPacket.waitsFor ip) =
      (pending.find? (RouterPendingPacket.waitsFor ip)).map
        (.retried target arpAttempts attemptMs) := by
  rw [List.find?_map]
  congr 2
  funext item
  rw [Function.comp_apply, RouterPendingPacket.waitsFor, RouterPendingPacket.waitsFor,
    RouterPendingPacket.retried_nextHopIp]

/-- A retry counts one request for its address, and none for the others. -/
theorem PendingInStep.retried_counted {numInterfaces : Nat} {pending : List (RouterPendingPacket Ms)}
    (h : PendingInStep numInterfaces pending) {item : RouterPendingPacket Ms} (hitem : item ∈ pending)
    (attemptMs : Ms) (ip : IpAddress) :
    timesAsked ip [item.nextHopIp] + attemptsFor ip pending ≤
      attemptsFor ip (pending.map (.retried item.nextHopIp (item.arpAttempts + 1) attemptMs)) := by
  cases hequal : ipOctetsEqualPublic item.nextHopIp ip with
  -- The packets for one address are counted by the first of them, all being in step.
  | true =>
      have hwaits : item.waitsFor ip = true := hequal
      have hasked : timesAsked ip [item.nextHopIp] = 1 := by
        simp [timesAsked, hequal]
      rw [attemptsFor_eq h hitem hwaits, hasked, attemptsFor, find?_retried]
      cases hfind : pending.find? (RouterPendingPacket.waitsFor ip) with
      | none => exact absurd hwaits (List.find?_eq_none.mp hfind item hitem)
      | some first =>
          have hfirst : first.waitsFor item.nextHopIp = true := by
            rw [waitsFor_congr hequal]
            exact List.find?_some hfind
          rw [Option.map_some, Option.elim_some, RouterPendingPacket.retried, if_pos hfirst,
            Nat.add_comm]
  | false =>
      have hasked : timesAsked ip [item.nextHopIp] = 0 := by
        simp [timesAsked, hequal]
      rw [hasked, Nat.zero_add, attemptsFor, attemptsFor, find?_retried]
      cases hfind : pending.find? (RouterPendingPacket.waitsFor ip) with
      | none => exact le_rfl
      | some first =>
          have hfirst := List.find?_some hfind
          have hother : first.waitsFor item.nextHopIp = false := by
            by_contra hwaits
            rw [Bool.not_eq_false] at hwaits
            have hsame : ipOctetsEqualPublic item.nextHopIp ip = true := by
              rw [RouterPendingPacket.waitsFor, ipOctetsEqualPublic_iff] at hfirst hwaits
              exact ipOctetsEqualPublic_iff.mpr (hwaits.symm.trans hfirst)
            rw [hequal] at hsame
            cases hsame
          rw [Option.map_some, Option.elim_some, Option.elim_some, RouterPendingPacket.retried, hother]
          exact le_rfl

/-- A packet for an address is left when one is taken out, unless it was the last one. -/
theorem exists_waits_eraseP {pending : List (RouterPendingPacket Ms)} {taken ip : IpAddress}
    {x : RouterPendingPacket Ms} (hx : x ∈ pending) (hwaits : x.waitsFor ip = true)
    (hlast : ipOctetsEqualPublic taken ip = true →
      pending.countP (RouterPendingPacket.waitsFor ip) ≠ 1) :
    ∃ y ∈ pending.eraseP (RouterPendingPacket.waitsFor taken), y.waitsFor ip = true := by
  by_cases hequal : ipOctetsEqualPublic taken ip = true
  · rw [waitsFor_congr hequal]
    obtain ⟨first, before, after, hbefore, hfirst, hsplit, herase⟩ := List.exists_of_eraseP hx hwaits
    have hcount := hlast hequal
    have hnone : before.countP (RouterPendingPacket.waitsFor ip) = 0 :=
      List.countP_eq_zero.mpr hbefore
    rw [hsplit, List.countP_append, List.countP_cons_of_pos hfirst, hnone] at hcount
    have hmore : 0 < after.countP (RouterPendingPacket.waitsFor ip) := by
      omega
    obtain ⟨y, hy, hywaits⟩ := List.countP_pos_iff.mp hmore
    rw [herase]
    exact ⟨y, List.mem_append_right _ hy, hywaits⟩
  · have hother : ¬ x.waitsFor taken = true := by
      intro hboth
      rw [RouterPendingPacket.waitsFor, ipOctetsEqualPublic_iff] at hwaits hboth
      exact hequal (ipOctetsEqualPublic_iff.mpr (hboth.symm.trans hwaits))
    exact ⟨x, (List.mem_eraseP_of_neg hother).mpr hx, hwaits⟩

/-- A move counts the requests it makes, unless it takes the last packet for the address. -/
theorem PendingMove.counted {numInterfaces : Nat} {taken : Option IpAddress}
    {pending pending' : List (RouterPendingPacket Ms)} {asked : List IpAddress}
    (hmove : PendingMove numInterfaces taken pending asked pending')
    (h : PendingInStep numInterfaces pending) {ip : IpAddress}
    (hlast : ∀ target, taken = some target → ipOctetsEqualPublic target ip = true →
      pending.countP (RouterPendingPacket.waitsFor ip) ≠ 1) :
    timesAsked ip asked + attemptsFor ip pending ≤ attemptsFor ip pending' := by
  cases hmove with
  | queues packet hqueues => exact hqueues.counted ip
  | retries item attemptMs hitem hattempts => exact h.retried_counted hitem attemptMs ip
  | takes target packet htaken hqueues =>
      have hrest := hqueues.counted ip
      have hsubset : pending.eraseP (RouterPendingPacket.waitsFor target) ⊆ pending :=
        List.eraseP_subset
      cases hfind : pending.find? (RouterPendingPacket.waitsFor ip) with
      | none =>
          rw [attemptsFor_of_none hfind]
          omega
      | some first =>
          have hfirst := List.mem_of_find?_eq_some hfind
          have hwaits := List.find?_some hfind
          obtain ⟨y, hy, hywaits⟩ := exists_waits_eraseP hfirst hwaits (hlast target htaken)
          have hkept := attemptsFor_eq (h.subset hsubset) hy hywaits
          have hbefore := attemptsFor_eq h (hsubset hy) hywaits
          omega

/-! ## Sending queues -/

theorem routerInterface_isSome_iff (r : RouterState Ms) (portNumber : Int) :
    (routerInterface r portNumber).isSome = true ↔ IsPort r.numInterfaces portNumber := by
  rw [routerInterface, IsPort]
  split
  · rename_i hport
    exact iff_of_true rfl hport
  · rename_i hport
    exact iff_of_false Bool.false_ne_true hport

/-- The result of sending a packet: what happens to the packets that wait, with as many requests at most as
are counted; nothing else of the router changes but the stack, by one task at most. -/
structure RouterQueues (r : RouterState Ms) (packet : Ipv4Packet)
    (result : RouterState Ms × List RouterEvent) : Prop where
  queues : ∃ asked, PendingQueues r.numInterfaces packet r.pending asked result.1.pending ∧
    ∀ ip, requestsFor ip result.2 ≤ timesAsked ip asked
  frame : ∃ queue, result.1 = { r with pendingQueue := queue, tasks := result.1.tasks }
  tasks : result.1.tasks = r.tasks ∨ ∃ ip pollMs, result.1.tasks = .recheck ip pollMs :: r.tasks

theorem RouterQueues.nothing (r : RouterState Ms) (packet : Ipv4Packet) {events : List RouterEvent}
    (h : ∀ ip, requestsFor ip events = 0) : RouterQueues r packet (r, events) :=
  { queues := ⟨[], .stays _, fun ip => (h ip).le⟩
    frame := ⟨r.pendingQueue, rfl⟩
    tasks := Or.inl rfl }

theorem RouterQueues.numInterfaces {r : RouterState Ms} {packet : Ipv4Packet}
    {result : RouterState Ms × List RouterEvent} (h : RouterQueues r packet result) :
    result.1.numInterfaces = r.numInterfaces := by
  obtain ⟨queue, hframe⟩ := h.frame
  rw [hframe]

theorem requestsFor_nil (ip : IpAddress) : requestsFor ip [] = 0 :=
  rfl

/-- A packet that leaves in a frame asks for nothing. -/
theorem requestsFor_ipv4 {r : RouterState Ms} {outInterface vlanId : Int} {dstMac : MacAddress}
    {payload : List UInt8} {cargo : Option RouterCargo} (ip : IpAddress) :
    requestsFor ip (routerSendEthernetFrame r outInterface vlanId dstMac ethernetTypeIpv4 payload
      cargo).toList = 0 := by
  cases hframe : routerSendEthernetFrame r outInterface vlanId dstMac ethernetTypeIpv4 payload cargo with
  | none => rfl
  | some event =>
      obtain ⟨port, frame, rfl, hserial, htype, -⟩ := routerSendEthernetFrame_eq_some (by decide) hframe
      have hquiet := RouterEvent.asksFor_frame hserial (by rw [htype]; decide) ip port cargo
      simp [requestsFor, hquiet]

/-- One request at most is made for the address of an ARP request. -/
theorem requestsFor_arpRequest (r : RouterState Ms) (outInterface : Int) (targetIp : IpAddress)
    (vlanId : Int) (ip : IpAddress) :
    requestsFor ip (routerSendArpRequest r outInterface targetIp vlanId).toList ≤
      timesAsked ip [targetIp] := by
  cases hrequest : routerSendArpRequest r outInterface targetIp vlanId with
  | none => exact Nat.zero_le _
  | some event =>
      have hasks := routerSendArpRequest_asksFor hrequest ip
      simp [requestsFor, timesAsked, List.countP_cons, hasks]

variable [SimTime Ms]

theorem routerSendPacketToNextHop_queues (r : RouterState Ms) (packet : Ipv4Packet)
    (nextHopIp : IpAddress) (outInterface : Int) (nowMs : Ms) (cargo : Option RouterCargo) :
    RouterQueues r packet
      (routerSendPacketToNextHop r packet nextHopIp outInterface nowMs cargo) := by
  rw [routerSendPacketToNextHop]
  split
  · exact .nothing r packet requestsFor_nil
  · rename_i port hport
    have hisPort : IsPort r.numInterfaces outInterface := by
      rw [← routerInterface_isSome_iff, hport]
      rfl
    dsimp only
    split
    · split
      · exact .nothing r packet requestsFor_nil
      · exact .nothing r packet requestsFor_ipv4
    · split
      · exact .nothing r packet requestsFor_nil
      · rename_i queued hqueued
        have hpending := routerQueuePendingPacket_eq_some hqueued
        have hframe : ∃ queue, queued = { r with pendingQueue := queue } := by
          rw [routerQueuePendingPacket] at hqueued
          split at hqueued
          · exact ⟨_, (Option.some.inj hqueued).symm⟩
          · cases hqueued
        obtain ⟨queue, rfl⟩ := hframe
        -- A packet for a next hop that is asked for joins those that wait, the first one asks.
        cases hfind : routerFindPendingForIp r nextHopIp with
        | some existing =>
            rw [hfind] at hpending
            refine ⟨⟨[], ?_, fun ip => le_rfl⟩, ⟨queue, rfl⟩, Or.inl rfl⟩
            rw [Option.isSome_some, if_pos rfl, hpending]
            exact .joins r.pending _ existing rfl hisPort hfind rfl rfl
        | none =>
            rw [hfind] at hpending
            obtain ⟨item, hnextHop, hpacket, hout, hattempts, hpending⟩ :
                ∃ item : RouterPendingPacket Ms, item.nextHopIp = nextHopIp ∧ item.packet = packet ∧
                  item.outInterface = outInterface ∧ item.arpAttempts = 1 ∧
                    RouterState.pending { r with pendingQueue := queue } = r.pending ++ [item] :=
              ⟨_, rfl, rfl, rfl, rfl, hpending⟩
            have hasks : PendingQueues r.numInterfaces packet r.pending [nextHopIp]
                (RouterState.pending { r with pendingQueue := queue }) := by
              rw [hpending, ← hnextHop]
              rw [← hnextHop] at hfind
              rw [← hout] at hisPort
              exact .asks r.pending item hpacket hisPort hfind hattempts
            rw [Option.isSome_none, if_neg Bool.false_ne_true]
            cases hrequest : routerSendArpRequest { r with pendingQueue := queue } outInterface nextHopIp
                (routerVlanForIp r nextHopIp (r.config.interfaceVlans port)) with
            | none =>
                refine ⟨⟨[nextHopIp], hasks, fun ip => Nat.zero_le _⟩, ⟨queue, rfl⟩, Or.inl rfl⟩
            | some event =>
                refine ⟨⟨[nextHopIp], hasks, fun ip => ?_⟩, ⟨queue, rfl⟩, Or.inr ⟨_, _, rfl⟩⟩
                have hcount := requestsFor_arpRequest { r with pendingQueue := queue } outInterface
                  nextHopIp (routerVlanForIp r nextHopIp (r.config.interfaceVlans port)) ip
                rw [hrequest] at hcount
                exact hcount

theorem routerSendIpv4Packet_queues (r : RouterState Ms) (packet : Ipv4Packet) (nowMs : Ms) :
    RouterQueues r packet (routerSendIpv4Packet r packet nowMs) := by
  rw [routerSendIpv4Packet]
  split
  · exact .nothing r packet requestsFor_nil
  · exact routerSendPacketToNextHop_queues r packet _ _ nowMs none

/-- An ICMP error that is sent is a packet no error is made about. -/
theorem routerSendIcmpError_queues (r : RouterState Ms) (original : Ipv4Packet) {type : UInt8}
    (code : UInt8) (nowMs : Ms) (htype : type = icmpDestUnreachable ∨ type = icmpTimeExceeded) :
    ∃ response, routerCanSendErrorForPacket response = false ∧
      RouterQueues r response (routerSendIcmpError r original type code nowMs) := by
  have hunreported : ∀ response : Ipv4Packet, response.IsIcmpError →
      routerCanSendErrorForPacket response = false := by
    intro response herror
    by_contra hcan
    exact (routerCanSendErrorForPacket_iff response).mp (Bool.eq_true_of_not_eq_false hcan) herror
  obtain ⟨-, response, ⟨hprotocol, icmp, hicmp, hsame⟩, hstate, hevents⟩ | ⟨-, hnothing⟩ :=
    routerSendIcmpError_reports r original type code nowMs
  · refine ⟨response, hunreported response ⟨hprotocol, icmp, hicmp, ?_⟩, ?_⟩
    · rwa [hsame]
    · have hqueues := routerSendIpv4Packet_queues r response nowMs
      have hcount : ∀ ip, requestsFor ip (routerSendIcmpError r original type code nowMs).2 =
          requestsFor ip (routerSendIpv4Packet r response nowMs).2 := by
        intro ip
        rw [hevents]
        exact List.countP_cons_of_neg (by simp [RouterEvent.asksFor])
      refine ⟨?_, ?_, ?_⟩
      · simp only [hstate, hcount]
        exact hqueues.queues
      · rw [hstate]
        exact hqueues.frame
      · rw [hstate]
        exact hqueues.tasks
  · rw [hnothing]
    -- Nothing is sent; any error will do.
    refine ⟨{ ipv4Init with protocol := ipv4ProtocolIcmp, payload := icmpBytesWith ⟨type, 0, 0, 0, 0, []⟩ 0 },
      hunreported _ ⟨rfl, _, icmpFromBytes_bytesWith 0 (Nat.zero_le _), htype⟩, ?_⟩
    exact .nothing r _ requestsFor_nil

/-! ## Calls move -/

/-- The address whose packets a call takes out of the queue. -/
def routerTakes (r : RouterState Ms) : RouterCall Ms → Option IpAddress
  | .act (.resume _ _) =>
      match r.tasks with
      | .flush resolvedIp :: _ => some resolvedIp
      | .drop nextHopIp :: _ => some nextHopIp
      | _ => none
  | _ => none

/-- A call makes a move, with as many requests at most as are counted. -/
structure RouterMoves (taken : Option IpAddress) (r : RouterState Ms)
    (result : RouterState Ms × List RouterEvent) : Prop where
  moves : ∃ asked, PendingMove r.numInterfaces taken r.pending asked result.1.pending ∧
    ∀ ip, requestsFor ip result.2 ≤ timesAsked ip asked
  numInterfaces : result.1.numInterfaces = r.numInterfaces

omit [SimTime Ms] in
theorem RouterQueues.moves {r : RouterState Ms} {packet : Ipv4Packet}
    {result : RouterState Ms × List RouterEvent} (h : RouterQueues r packet result)
    (taken : Option IpAddress) : RouterMoves taken r result := by
  obtain ⟨asked, hqueues, hcount⟩ := h.queues
  exact ⟨⟨asked, .queues packet hqueues, hcount⟩, h.numInterfaces⟩

omit [SimTime Ms] in
/-- A move may start from a state with the same packets waiting. -/
theorem RouterMoves.of_eq {taken : Option IpAddress} {r r' : RouterState Ms}
    {result : RouterState Ms × List RouterEvent} (h : RouterMoves taken r' result)
    (hpending : r'.pending = r.pending) (hports : r'.numInterfaces = r.numInterfaces) :
    RouterMoves taken r result := by
  obtain ⟨hmoves, hsame⟩ := h
  rw [hpending, hports] at hmoves
  exact ⟨hmoves, hsame.trans hports⟩

omit [SimTime Ms] in
theorem RouterMoves.nothing (taken : Option IpAddress) {r r' : RouterState Ms}
    {events : List RouterEvent} (hpending : r'.pending = r.pending)
    (hports : r'.numInterfaces = r.numInterfaces) (h : ∀ ip, requestsFor ip events = 0) :
    RouterMoves taken r (r', events) :=
  ((RouterQueues.nothing r' ipv4Init h).moves taken).of_eq hpending hports

theorem routerSendIcmpError_moves (taken : Option IpAddress) (r : RouterState Ms)
    (original : Ipv4Packet) {type : UInt8} (code : UInt8) (nowMs : Ms)
    (htype : type = icmpDestUnreachable ∨ type = icmpTimeExceeded) :
    RouterMoves taken r (routerSendIcmpError r original type code nowMs) := by
  obtain ⟨response, -, hqueues⟩ := routerSendIcmpError_queues r original code nowMs htype
  exact hqueues.moves taken

theorem routerForwardIpv4Packet_moves (taken : Option IpAddress) (r : RouterState Ms)
    (packet : Ipv4Packet) (nowMs : Ms) (number : Option Nat) :
    RouterMoves taken r (routerForwardIpv4Packet r packet nowMs number) := by
  rw [routerForwardIpv4Packet]
  split
  · exact routerSendIcmpError_moves taken r packet 0 nowMs (Or.inr rfl)
  · dsimp only
    split
    · exact routerSendIcmpError_moves taken r _ 0 nowMs (Or.inl rfl)
    · exact (routerSendPacketToNextHop_queues r _ _ _ nowMs _).moves taken

theorem routerHandleLocalIpv4_moves (taken : Option IpAddress) (r : RouterState Ms)
    (packet : Ipv4Packet) (nowMs : Ms) :
    RouterMoves taken r (routerHandleLocalIpv4 r packet nowMs) := by
  have hnothing : RouterMoves taken r (r, []) := .nothing taken rfl rfl requestsFor_nil
  rw [routerHandleLocalIpv4]
  repeat' split
  all_goals first
    | exact hnothing
    | exact (routerSendIpv4Packet_queues r _ nowMs).moves taken

theorem routerSendIcmpEchoRequest_moves (taken : Option IpAddress) (r : RouterState Ms)
    (targetIp : IpAddress) (ttl : UInt8) (sequence : UInt16) (nowMs : Ms) :
    RouterMoves taken r (routerSendIcmpEchoRequest r targetIp ttl sequence nowMs) := by
  have hnothing : RouterMoves taken r (r, []) := .nothing taken rfl rfl requestsFor_nil
  rw [routerSendIcmpEchoRequest]
  dsimp only
  repeat' split
  all_goals first
    | exact hnothing
    | exact (routerSendIpv4Packet_queues r _ nowMs).moves taken

omit [SimTime Ms] in
theorem routerLearnArp_frame (r : RouterState Ms) (message : ArpMessage) (vlanId : Int) :
    (routerLearnArp r message vlanId).pendingQueue = r.pendingQueue ∧
      (routerLearnArp r message vlanId).numInterfaces = r.numInterfaces ∧
      (routerLearnArp r message vlanId).tasks = r.tasks := by
  rw [routerLearnArp]
  split
  · exact ⟨rfl, rfl, rfl⟩
  · dsimp only
    split
    · exact ⟨rfl, rfl, rfl⟩
    · exact ⟨rfl, rfl, rfl⟩

omit [SimTime Ms] in
theorem routerReceiveArp_moves (taken : Option IpAddress) (r : RouterState Ms) (port : Fin maxPort)
    (vlanId : Int) (arp : ArpMessage) : RouterMoves taken r (routerReceiveArp r port vlanId arp) := by
  obtain ⟨hqueue, hports, -⟩ := routerLearnArp_frame r arp vlanId
  have hpending : (routerLearnArp r arp vlanId).pending = r.pending := congrArg RingQueue.toList hqueue
  rw [routerReceiveArp]
  split
  · refine .nothing taken hpending hports fun ip => ?_
    cases hreply : routerSendArpReply (routerLearnArp r arp vlanId) arp (interfacePortNumber port)
        vlanId with
    | none => rfl
    | some event =>
        have hquiet := routerSendArpReply_asksFor hreply ip
        simp [requestsFor, hquiet]
  · split
    · exact .nothing taken hpending hports requestsFor_nil
    · exact .nothing taken hpending hports requestsFor_nil

theorem routerReceive_moves (taken : Option IpAddress) (r : RouterState Ms) (port : Fin maxPort)
    (raw : List UInt8) (nowMs : Ms) (number : Option Nat) :
    RouterMoves taken r (routerReceive r port raw nowMs number) := by
  rw [routerReceive]
  split
  · exact .nothing taken rfl rfl requestsFor_nil
  · rename_i frame hframe
    dsimp only
    -- Noting the VLAN leaves the packets that wait.
    generalize hnoted : routerNoteVlan r port
      (if frame.hasVlan then (frame.vlanId.toNat : Int) else 0) = noted
    have hpending : noted.pending = r.pending := by
      rw [← hnoted]
      rfl
    have hports : noted.numInterfaces = r.numInterfaces := by
      rw [← hnoted]
      rfl
    refine RouterMoves.of_eq ?_ hpending hports
    split
    · exact .nothing taken rfl rfl requestsFor_nil
    · split
      · split
        · exact .nothing taken rfl rfl requestsFor_nil
        · exact routerReceiveArp_moves taken noted port _ _
      · split
        · exact .nothing taken rfl rfl requestsFor_nil
        · split
          · exact routerHandleLocalIpv4_moves taken noted _ nowMs
          · exact routerForwardIpv4Packet_moves taken noted _ nowMs number

omit [SimTime Ms] in
/-- `router_dequeue_pending_for_ip` takes out the first packet for the address. -/
theorem routerDequeuePendingForIp_spec (r : RouterState Ms) (ip : IpAddress) :
    ∃ queue, routerDequeuePendingForIp r ip =
        (r.pending.find? (RouterPendingPacket.waitsFor ip), { r with pendingQueue := queue }) ∧
      RouterState.pending { r with pendingQueue := queue } =
        r.pending.eraseP (RouterPendingPacket.waitsFor ip) := by
  refine ⟨_, ?_, RingQueue.toList_takeFirst _ r.pendingQueue⟩
  rw [routerDequeuePendingForIp, Prod.mk.injEq]
  exact ⟨RingQueue.takeFirst_fst _ r.pendingQueue, rfl⟩

omit [SimTime Ms] in
/-- A packet is taken out, and another one is sent. -/
theorem RouterQueues.takes {r rest : RouterState Ms} {ip : IpAddress} {packet : Ipv4Packet}
    {result : RouterState Ms × List RouterEvent} (h : RouterQueues rest packet result)
    (hpending : rest.pending = r.pending.eraseP (RouterPendingPacket.waitsFor ip))
    (hports : rest.numInterfaces = r.numInterfaces) : RouterMoves (some ip) r result := by
  obtain ⟨asked, hqueues, hcount⟩ := h.queues
  rw [hpending, hports] at hqueues
  exact ⟨⟨asked, .takes ip packet rfl hqueues, hcount⟩, h.numInterfaces.trans hports⟩

theorem routerFlushRound_moves (r : RouterState Ms) (resolvedIp : IpAddress) (nowMs : Ms) :
    RouterMoves (some resolvedIp) r (routerFlushRound r resolvedIp nowMs) := by
  obtain ⟨queue, hdequeue, hpending⟩ := routerDequeuePendingForIp_spec r resolvedIp
  rw [routerFlushRound, hdequeue]
  cases r.pending.find? (RouterPendingPacket.waitsFor resolvedIp) with
  | none => exact (RouterQueues.nothing _ ipv4Init requestsFor_nil).takes hpending rfl
  | some item =>
      exact (routerSendPacketToNextHop_queues (RouterState.pushTask { r with pendingQueue := queue }
        (.flush resolvedIp)) item.packet item.nextHopIp item.outInterface nowMs item.cargo).takes
        hpending rfl

theorem routerDropRound_moves (r : RouterState Ms) (nextHopIp : IpAddress) (nowMs : Ms) :
    RouterMoves (some nextHopIp) r (routerDropRound r nextHopIp nowMs) := by
  obtain ⟨queue, hdequeue, hpending⟩ := routerDequeuePendingForIp_spec r nextHopIp
  rw [routerDropRound, hdequeue]
  cases r.pending.find? (RouterPendingPacket.waitsFor nextHopIp) with
  | none => exact (RouterQueues.nothing _ ipv4Init requestsFor_nil).takes hpending rfl
  | some item =>
      dsimp only
      split
      · obtain ⟨response, -, hqueues⟩ := routerSendIcmpError_queues
          (RouterState.pushTask { r with pendingQueue := queue } (.drop nextHopIp)) item.packet 1 nowMs
          (Or.inl rfl)
        exact hqueues.takes hpending rfl
      · exact (RouterQueues.nothing (RouterState.pushTask { r with pendingQueue := queue }
          (.drop nextHopIp)) ipv4Init requestsFor_nil).takes hpending rfl

omit [SimTime Ms] in
theorem routerSetArpAttemptForIp_pending (r : RouterState Ms) (nextHopIp : IpAddress)
    (arpAttempts : Nat) (attemptMs : Ms) :
    (routerSetArpAttemptForIp r nextHopIp arpAttempts attemptMs).pending =
      r.pending.map (.retried nextHopIp arpAttempts attemptMs) :=
  RingQueue.toList_modifyAll _ r.pendingQueue

theorem routerPollRound_moves (taken : Option IpAddress) (r : RouterState Ms) (pollMs : Ms) :
    RouterMoves taken r (routerPollRound r pollMs) := by
  rw [routerPollRound]
  split
  · exact .nothing taken rfl rfl requestsFor_nil
  · rename_i item hfind
    dsimp only
    split
    · exact .nothing taken rfl rfl requestsFor_nil
    · rename_i hattempts
      have hretries : PendingMove r.numInterfaces taken r.pending [item.nextHopIp] _ :=
        .retries r.pending item (SimTime.addMs item.arpLastAttemptMs routerArpRetryIntervalMs)
          (List.mem_of_find?_eq_some hfind) (Nat.lt_of_not_le hattempts)
      rw [← routerSetArpAttemptForIp_pending] at hretries
      exact ⟨⟨[item.nextHopIp], hretries, requestsFor_arpRequest _ _ _ _⟩, rfl⟩

theorem routerResume_moves (r : RouterState Ms) (realtime : Bool) (nowMs : Ms) :
    RouterMoves (routerTakes r (.act (.resume realtime nowMs))) r (routerResume r realtime nowMs) := by
  rw [routerResume, routerTakes]
  cases htasks : r.tasks with
  | nil => exact .nothing _ rfl rfl requestsFor_nil
  | cons task tasks =>
      have hpending : RouterState.pending { r with tasks := tasks } = r.pending := rfl
      refine RouterMoves.of_eq ?_ hpending rfl
      cases task with
      | recheck nextHopIp pollMs =>
          dsimp only
          split
          · exact .nothing _ rfl rfl requestsFor_nil
          · exact .nothing _ rfl rfl requestsFor_nil
      | flush resolvedIp => exact routerFlushRound_moves _ resolvedIp nowMs
      | drop nextHopIp => exact routerDropRound_moves _ nextHopIp nowMs
      | poll pollMs => exact routerPollRound_moves _ _ pollMs

theorem routerCall_moves (r : RouterState Ms) (call : RouterCall Ms) :
    RouterMoves (routerTakes r call) r (routerCall r call) := by
  cases call with
  | send packet nowMs => exact (routerSendIpv4Packet_queues r packet nowMs).moves _
  | act action =>
      cases action with
      | receive port raw nowMs number => exact routerReceive_moves _ r port raw nowMs number
      | poll nowMs => exact .nothing _ rfl rfl requestsFor_nil
      | echo targetIp ttl sequence nowMs =>
          exact routerSendIcmpEchoRequest_moves _ r targetIp ttl sequence nowMs
      | resume realtime nowMs => exact routerResume_moves r realtime nowMs
      | configure config => exact .nothing _ rfl rfl requestsFor_nil

/-! ## Runs keep the packets in step -/

/-- The packets of a router that wait are in step. -/
def RouterState.InStep (r : RouterState Ms) : Prop :=
  PendingInStep r.numInterfaces r.pending

omit [SimTime Ms] in
theorem routerStateInit_inStep (numInterfaces : Nat) (h : numInterfaces ≤ maxPort)
    (macs : Fin maxPort → MacAddress) (items : Nat → RouterPendingPacket Ms) :
    (routerStateInit numInterfaces h macs items).InStep := by
  refine ⟨?_, ?_, ?_⟩
  · exact fun x hx => (nomatch hx)
  · exact fun x hx => (nomatch hx)
  · exact fun x hx => (nomatch hx)

omit [SimTime Ms] in
theorem RouterMoves.inStep {taken : Option IpAddress} {r : RouterState Ms}
    {result : RouterState Ms × List RouterEvent} (hmoves : RouterMoves taken r result)
    (h : r.InStep) : result.1.InStep := by
  obtain ⟨⟨asked, hmove, -⟩, hports⟩ := hmoves
  rw [RouterState.InStep, hports]
  exact hmove.inStep h

theorem routerCalls_inStep {r : RouterState Ms} (h : r.InStep) (calls : List (RouterCall Ms)) :
    (routerCalls r calls).InStep := by
  induction calls generalizing r with
  | nil => exact h
  | cons call calls ih => exact ih ((routerCall_moves r call).inStep h)

/-- A call does not take the last packet for an address out of the queue. -/
def RouterLeavesOne (ip : IpAddress) (r : RouterState Ms) (call : RouterCall Ms) : Prop :=
  ∀ target, routerTakes r call = some target → ipOctetsEqualPublic target ip = true →
    r.pending.countP (RouterPendingPacket.waitsFor ip) ≠ 1

theorem routerCall_counted {r : RouterState Ms} (h : r.InStep) {ip : IpAddress} {call : RouterCall Ms}
    (hleaves : RouterLeavesOne ip r call) :
    requestsFor ip (routerCall r call).2 + attemptsFor ip r.pending ≤
      attemptsFor ip (routerCall r call).1.pending := by
  obtain ⟨⟨asked, hmove, hcount⟩, -⟩ := routerCall_moves r call
  have hasked := hcount ip
  have hcounted := hmove.counted h hleaves
  omega

/-- As long as no call takes the last packet for an address out of the queue, the packets count all the
requests for it. -/
theorem routerCalls_counted {r : RouterState Ms} (h : r.InStep) {ip : IpAddress}
    {calls : List (RouterCall Ms)} (hleaves : RouterCallsMeet (RouterLeavesOne ip) r calls) :
    requestsFor ip (routerCallsEvents r calls) + attemptsFor ip r.pending ≤
      attemptsFor ip (routerCalls r calls).pending := by
  induction calls generalizing r with
  | nil => exact (Nat.zero_add _).le
  | cons call calls ih =>
      obtain ⟨hcall, hrest⟩ := hleaves
      have hfirst := routerCall_counted h hcall
      have hmore := ih ((routerCall_moves r call).inStep h) hrest
      have hevents : requestsFor ip (routerCallsEvents r (call :: calls)) =
          requestsFor ip (routerCall r call).2 +
            requestsFor ip (routerCallsEvents (routerCall r call).1 calls) :=
        List.countP_append
      have hstate : routerCalls r (call :: calls) = routerCalls (routerCall r call).1 calls := rfl
      rw [hevents, hstate]
      omega

end Moves

end MagiStack
