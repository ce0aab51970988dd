import MagiStack.Layer2.HostPending
import Mathlib.Data.List.Perm.Basic
import Mathlib.Algebra.Order.BigOperators.Group.List

/-!
# HostConservation — no packet is lost or duplicated while an address is resolved

Every accepted packet waits, was sent or was given up, and only one of the three and only once.  A packet
is given up after three requests for its next hop that no reply has answered.
-/

namespace MagiStack

/-! ## Counting -/

/-- The numbers of the packets that were sent. -/
def sentNumbers (log : List HostEvent) : List Nat :=
  log.filterMap fun
    | .packet number _ _ => some number
    | _ => none

/-- The numbers of the packets that were given up. -/
def droppedNumbers (log : List HostEvent) : List Nat :=
  log.filterMap fun
    | .dropped number _ => some number
    | _ => none

/-- The count of requests for an address after one more event. -/
def countRequest (ip : IpAddress) (count : Nat) : HostEvent → Nat
  | .arpRequest target _ => if ipOctetsEqualPublic target ip then count + 1 else count
  | .flushed resolved => if ipOctetsEqualPublic resolved ip then 0 else count
  | .failed target => if ipOctetsEqualPublic target ip then 0 else count
  | _ => count

/-- The requests for an address since its packets were last flushed or given up. -/
def unansweredRequests (ip : IpAddress) (log : List HostEvent) : Nat :=
  log.foldl (countRequest ip) 0

theorem unansweredRequests_append (ip : IpAddress) (log events : List HostEvent) :
    unansweredRequests ip (log ++ events) = events.foldl (countRequest ip) (unansweredRequests ip log) :=
  List.foldl_append

/-- Events that are no requests and end no resolution do not count. -/
theorem countRequest_foldl_of_neutral (ip : IpAddress) (count : Nat) {events : List HostEvent}
    (h : ∀ event ∈ events, ∀ n, countRequest ip n event = n) :
    events.foldl (countRequest ip) count = count := by
  induction events with
  | nil => rfl
  | cons event events ih =>
      rw [List.foldl_cons, h event List.mem_cons_self]
      exact ih fun other hother => h other (List.mem_cons_of_mem _ hother)

section Invariants

variable {Ms : Type}

/-! ## Every accepted packet is in one place -/

/-- The accepted packets are those that wait, were sent and were given up, each once. -/
def HostView.Conserved (v : HostView Ms) : Prop :=
  (v.pending.map HostPendingPacket.number ++ sentNumbers v.log ++ droppedNumbers v.log).Perm
    (List.range v.accepted.length)

/-- The waiting packets, divided by an address. -/
theorem pending_perm (targetIp : IpAddress) (pending : List (HostPendingPacket Ms)) :
    (waitingFor targetIp pending ++ othersThan targetIp pending).Perm pending :=
  List.filter_append_perm _ pending

theorem sentNumbers_sent (srcMac dstMac : MacAddress) (packets : List (HostPendingPacket Ms)) :
    sentNumbers (packets.map (HostPendingPacket.sent srcMac dstMac)) =
      packets.map HostPendingPacket.number := by
  induction packets with
  | nil => rfl
  | cons packet packets ih => exact congrArg (packet.number :: ·) ih

theorem droppedNumbers_sent (srcMac dstMac : MacAddress) (packets : List (HostPendingPacket Ms)) :
    droppedNumbers (packets.map (HostPendingPacket.sent srcMac dstMac)) = [] := by
  induction packets with
  | nil => rfl
  | cons packet packets ih => exact ih

theorem droppedNumbers_dropped (packets : List (HostPendingPacket Ms)) :
    droppedNumbers (packets.map HostPendingPacket.droppedEvent) =
      packets.map HostPendingPacket.number := by
  induction packets with
  | nil => rfl
  | cons packet packets ih => exact congrArg (packet.number :: ·) ih

theorem sentNumbers_dropped (packets : List (HostPendingPacket Ms)) :
    sentNumbers (packets.map HostPendingPacket.droppedEvent) = [] := by
  induction packets with
  | nil => rfl
  | cons packet packets ih => exact ih

theorem sentNumbers_append (log events : List HostEvent) :
    sentNumbers (log ++ events) = sentNumbers log ++ sentNumbers events :=
  List.filterMap_append

theorem droppedNumbers_append (log events : List HostEvent) :
    droppedNumbers (log ++ events) = droppedNumbers log ++ droppedNumbers events :=
  List.filterMap_append

theorem retried_number (targetIp : IpAddress) (arpAttempts : Nat) (attemptMs : Ms)
    (packet : HostPendingPacket Ms) :
    (packet.retried targetIp arpAttempts attemptMs).number = packet.number := by
  unfold HostPendingPacket.retried
  split
  all_goals rfl

/-- A number that is new goes to the end of the range. -/
theorem perm_range_succ {numbers : List Nat} {n : Nat} {more : List Nat}
    (h : numbers.Perm (List.range n)) (hmore : more.Perm (numbers ++ [n])) :
    more.Perm (List.range (n + 1)) := by
  rw [List.range_succ]
  exact hmore.trans (h.append_right [n])

theorem HostMove.conserved {mac : MacAddress} {ordered : Prop} {v v' : HostView Ms}
    (h : HostMove mac ordered v v') (hv : v.Conserved) : v'.Conserved := by
  unfold HostView.Conserved at hv ⊢
  cases h with
  | direct pending log accepted packet dst hordered =>
      rw [sentNumbers_append, droppedNumbers_append, List.length_append]
      refine perm_range_succ hv ?_
      rw [List.perm_iff_count]
      intro number
      simp only [sentNumbers, droppedNumbers, List.filterMap_cons, List.filterMap_nil,
        List.count_append, List.count_nil]
      omega
  | first pending log accepted packet frame hnone hattempts hnumber =>
      rw [sentNumbers_append, droppedNumbers_append, List.length_append]
      refine perm_range_succ hv ?_
      rw [List.perm_iff_count]
      intro number
      simp only [sentNumbers, droppedNumbers, List.filterMap_cons, List.filterMap_nil,
        List.count_append, List.count_nil, List.map_append, List.map_cons, List.map_nil, hnumber]
      omega
  | join pending log accepted packet existing hexisting hattempts hnumber =>
      rw [List.length_append]
      refine perm_range_succ hv ?_
      rw [List.perm_iff_count]
      intro number
      simp only [List.count_append, List.map_append, List.map_cons, List.map_nil, hnumber]
      omega
  | reply pending log accepted frame =>
      rw [sentNumbers_append, droppedNumbers_append]
      simpa [sentNumbers, droppedNumbers] using hv
  | flush pending log accepted resolvedIp dst =>
      refine List.Perm.trans ?_ hv
      -- The packets that wait for the address go from the queue to the frames sent.
      have hdivide := (pending_perm resolvedIp pending).map HostPendingPacket.number
      rw [List.perm_iff_count] at hdivide ⊢
      intro number
      have hcount := hdivide number
      have hsent := sentNumbers_sent mac dst (waitingFor resolvedIp pending)
      have hdropped := droppedNumbers_sent mac dst (waitingFor resolvedIp pending)
      rw [sentNumbers_append, droppedNumbers_append]
      simp only [sentNumbers, droppedNumbers, List.filterMap_cons] at hsent hdropped ⊢
      rw [hsent, hdropped]
      simp only [List.count_append, List.map_append, List.count_nil] at hcount ⊢
      omega
  | retry pending log accepted packet attemptMs frame hpacket hattempts =>
      rw [sentNumbers_append, droppedNumbers_append, List.map_map]
      -- A retry changes the attempts of a packet, not its number.
      have hnumbers : pending.map (HostPendingPacket.number ∘
          HostPendingPacket.retried packet.targetIp (packet.arpAttempts + 1) attemptMs) =
          pending.map HostPendingPacket.number :=
        List.map_congr_left fun other _ => retried_number _ _ _ other
      rw [hnumbers]
      simpa [sentNumbers, droppedNumbers] using hv
  | giveUp pending log accepted packet hpacket hattempts =>
      refine List.Perm.trans ?_ hv
      -- The packets that wait for the address go from the queue to those given up.
      have hdivide := (pending_perm packet.targetIp pending).map HostPendingPacket.number
      rw [List.perm_iff_count] at hdivide ⊢
      intro number
      have hcount := hdivide number
      rw [sentNumbers_append, droppedNumbers_append, sentNumbers_append, droppedNumbers_append,
        sentNumbers_dropped, droppedNumbers_dropped]
      simp only [sentNumbers, droppedNumbers, List.filterMap_cons, List.filterMap_nil,
        List.count_append, List.map_append, List.count_nil] at hcount ⊢
      omega

/-! ## What is sent and given up is what was accepted -/

/-- A packet that waits, was sent or was given up is the accepted one of its number. -/
structure HostView.Faithful (mac : MacAddress) (v : HostView Ms) : Prop where
  pending : ∀ packet ∈ v.pending, v.accepted[packet.number]? = some packet.accepted
  sent : ∀ number nextHop frame, .packet number nextHop frame ∈ v.log →
    ∃ packet dst, v.accepted[number]? = some packet ∧ packet.nextHop = nextHop ∧
      frame = hostFrameBytes mac dst packet.ethertype packet.payload
  dropped : ∀ number nextHop, .dropped number nextHop ∈ v.log →
    ∃ packet, v.accepted[number]? = some packet ∧ packet.nextHop = some nextHop

theorem retried_accepted (targetIp : IpAddress) (arpAttempts : Nat) (attemptMs : Ms)
    (packet : HostPendingPacket Ms) :
    (packet.retried targetIp arpAttempts attemptMs).accepted = packet.accepted := by
  unfold HostPendingPacket.retried
  split
  all_goals rfl

theorem getElem?_append_of_eq_some {α : Type} {items : List α} {i : Nat} {item : α}
    (h : items[i]? = some item) (more : List α) : (items ++ more)[i]? = some item := by
  rw [List.getElem?_append_left (List.getElem?_eq_some_iff.mp h).1]
  exact h

/-- More accepted packets and events about none of them change nothing. -/
theorem HostView.Faithful.more {mac : MacAddress} {v : HostView Ms} (h : v.Faithful mac)
    (events : List HostEvent) (more : List AcceptedPacket)
    (hsent : ∀ number nextHop frame, .packet number nextHop frame ∈ events →
      ∃ packet dst, (v.accepted ++ more)[number]? = some packet ∧ packet.nextHop = nextHop ∧
        frame = hostFrameBytes mac dst packet.ethertype packet.payload)
    (hdropped : ∀ number nextHop, .dropped number nextHop ∈ events →
      ∃ packet, (v.accepted ++ more)[number]? = some packet ∧ packet.nextHop = some nextHop) :
    HostView.Faithful mac ⟨v.pending, v.log ++ events, v.accepted ++ more⟩ := by
  refine ⟨fun packet hpacket => getElem?_append_of_eq_some (h.pending packet hpacket) more, ?_, ?_⟩
  · intro number nextHop frame hevent
    rcases List.mem_append.mp hevent with hold | hnew
    · rcases h.sent number nextHop frame hold with ⟨packet, dst, hpacket, hhop, hframe⟩
      exact ⟨packet, dst, getElem?_append_of_eq_some hpacket more, hhop, hframe⟩
    · exact hsent number nextHop frame hnew
  · intro number nextHop hevent
    rcases List.mem_append.mp hevent with hold | hnew
    · rcases h.dropped number nextHop hold with ⟨packet, hpacket, hhop⟩
      exact ⟨packet, getElem?_append_of_eq_some hpacket more, hhop⟩
    · exact hdropped number nextHop hnew

/-- A packet that is accepted may wait, with events about other packets. -/
theorem HostView.Faithful.waits {mac : MacAddress} {v : HostView Ms} (h : v.Faithful mac)
    {packet : HostPendingPacket Ms} (hnumber : packet.number = v.accepted.length)
    {events : List HostEvent} (hsent : ∀ number nextHop frame, .packet number nextHop frame ∉ events)
    (hdropped : ∀ number nextHop, .dropped number nextHop ∉ events) :
    HostView.Faithful mac ⟨v.pending ++ [packet], v.log ++ events, v.accepted ++ [packet.accepted]⟩ := by
  have hmore := h.more events [packet.accepted] (fun _ _ _ hevent => absurd hevent (hsent _ _ _))
    fun _ _ hevent => absurd hevent (hdropped _ _)
  refine ⟨fun other hother => ?_, hmore.sent, hmore.dropped⟩
  rcases List.mem_append.mp hother with hold | hnew
  · exact hmore.pending other hold
  -- The packet is the last one accepted.
  · rw [List.mem_singleton.mp hnew, hnumber]
    exact List.getElem?_concat_length

theorem HostMove.faithful {mac : MacAddress} {ordered : Prop} {v v' : HostView Ms}
    (h : HostMove mac ordered v v') (hv : v.Faithful mac) : v'.Faithful mac := by
  cases h with
  | direct pending log accepted packet dst hordered =>
      refine hv.more _ [packet] ?_ ?_
      · intro number nextHop frame hevent
        rw [List.mem_singleton, HostEvent.packet.injEq] at hevent
        rcases hevent with ⟨rfl, rfl, rfl⟩
        -- The packet is the last one accepted.
        exact ⟨packet, dst, List.getElem?_concat_length, rfl, rfl⟩
      · intro number nextHop hevent
        simp at hevent
  | first pending log accepted packet frame hnone hattempts hnumber =>
      exact hv.waits hnumber (by simp) (by simp)
  | join pending log accepted packet existing hexisting hattempts hnumber =>
      have hwaits := @HostView.Faithful.waits _ _ _ hv packet hnumber [] (by simp) (by simp)
      rwa [List.append_nil] at hwaits
  | reply pending log accepted frame =>
      have hmore := hv.more [.arpReply frame] [] (by simp) (by simp)
      rwa [List.append_nil] at hmore
  | flush pending log accepted resolvedIp dst =>
      have hmore := hv.more (.flushed resolvedIp ::
        (waitingFor resolvedIp pending).map (HostPendingPacket.sent mac dst)) [] ?_ ?_
      · rw [List.append_nil] at hmore
        exact ⟨fun packet hpacket => hmore.pending packet (List.mem_of_mem_filter hpacket), hmore.sent,
          hmore.dropped⟩
      · intro number nextHop frame hevent
        rcases List.mem_cons.mp hevent with hflushed | hsent
        · cases hflushed
        rcases List.mem_map.mp hsent with ⟨packet, hpacket, hevent⟩
        rw [HostPendingPacket.sent, HostEvent.packet.injEq] at hevent
        rcases hevent with ⟨rfl, rfl, rfl⟩
        refine ⟨packet.accepted, dst, ?_, rfl, rfl⟩
        exact getElem?_append_of_eq_some (hv.pending packet (List.mem_of_mem_filter hpacket)) []
      · intro number nextHop hevent
        rcases List.mem_cons.mp hevent with hflushed | hsent
        · cases hflushed
        rcases List.mem_map.mp hsent with ⟨packet, -, hevent⟩
        cases hevent
  | retry pending log accepted packet attemptMs frame hpacket hattempts =>
      have hmore := hv.more [.arpRequest packet.targetIp frame] [] (by simp) (by simp)
      rw [List.append_nil] at hmore
      refine ⟨?_, hmore.sent, hmore.dropped⟩
      intro other hother
      rcases List.mem_map.mp hother with ⟨before, hbefore, rfl⟩
      rw [retried_number, retried_accepted]
      exact hmore.pending before hbefore
  | giveUp pending log accepted packet hpacket hattempts =>
      have hmore := hv.more ((waitingFor packet.targetIp pending).map HostPendingPacket.droppedEvent ++
        [.failed packet.targetIp]) [] ?_ ?_
      · rw [List.append_nil] at hmore
        exact ⟨fun other hother => hmore.pending other (List.mem_of_mem_filter hother), hmore.sent,
          hmore.dropped⟩
      · intro number nextHop frame hevent
        simp [HostPendingPacket.droppedEvent] at hevent
      · intro number nextHop hevent
        rcases List.mem_append.mp hevent with hdropped | hfailed
        · rcases List.mem_map.mp hdropped with ⟨other, hother, hevent⟩
          rw [HostPendingPacket.droppedEvent, HostEvent.dropped.injEq] at hevent
          rcases hevent with ⟨rfl, rfl⟩
          refine ⟨other.accepted, ?_, rfl⟩
          exact getElem?_append_of_eq_some (hv.pending other (List.mem_of_mem_filter hother)) []
        · cases List.mem_singleton.mp hfailed

/-! ## Three requests before a packet is given up -/

/-- A waiting packet counts the requests for its next hop, at most three of them, and there is no count
for an address nothing waits for; no packet was given up before its third request. -/
structure HostView.Counted (v : HostView Ms) : Prop where
  attempts : ∀ packet ∈ v.pending,
    packet.arpAttempts = unansweredRequests packet.targetIp v.log ∧
      packet.arpAttempts ≤ hostArpMaxAttempts
  idle : ∀ ip, waitingFor ip v.pending = [] → unansweredRequests ip v.log = 0
  dropped : ∀ before number nextHop after, v.log = before ++ .dropped number nextHop :: after →
    unansweredRequests nextHop before = hostArpMaxAttempts

theorem mem_waitingFor {ip : IpAddress} {pending : List (HostPendingPacket Ms)}
    {packet : HostPendingPacket Ms} :
    packet ∈ waitingFor ip pending ↔
      packet ∈ pending ∧ ipOctetsEqualPublic packet.targetIp ip = true :=
  List.mem_filter

theorem mem_othersThan {ip : IpAddress} {pending : List (HostPendingPacket Ms)}
    {packet : HostPendingPacket Ms} :
    packet ∈ othersThan ip pending ↔
      packet ∈ pending ∧ ipOctetsEqualPublic packet.targetIp ip = false := by
  rw [othersThan, List.mem_filter, HostPendingPacket.waitsFor, Bool.not_eq_true']

theorem waitingFor_eq_nil {ip : IpAddress} {pending : List (HostPendingPacket Ms)} :
    waitingFor ip pending = [] ↔
      ∀ packet ∈ pending, ipOctetsEqualPublic packet.targetIp ip = false := by
  rw [waitingFor, List.filter_eq_nil_iff]
  simp [HostPendingPacket.waitsFor]

theorem ipOctetsEqualPublic_comm (a b : IpAddress) :
    ipOctetsEqualPublic a b = ipOctetsEqualPublic b a := by
  rw [Bool.eq_iff_iff, ipOctetsEqualPublic_iff, ipOctetsEqualPublic_iff]
  exact eq_comm

/-- Requests are counted by the octets of the address. -/
theorem unansweredRequests_congr {a b : IpAddress} (h : ipOctetsEqualPublic a b = true)
    (log : List HostEvent) : unansweredRequests a log = unansweredRequests b log := by
  have hcount : countRequest a = countRequest b := by
    funext count event
    cases event with
    | arpRequest target frame => simp only [countRequest, ipOctetsEqualPublic_congr h]
    | flushed resolved => simp only [countRequest, ipOctetsEqualPublic_congr h]
    | failed target => simp only [countRequest, ipOctetsEqualPublic_congr h]
    | arpReply frame => rfl
    | packet number nextHop frame => rfl
    | dropped number nextHop => rfl
  rw [unansweredRequests, unansweredRequests, hcount]

/-- A place of an event in a longer log is one in the log before, or one in what is new. -/
theorem append_eq_split {log events before after : List HostEvent} {event : HostEvent}
    (h : log ++ events = before ++ event :: after) :
    (∃ rest, log = before ++ event :: rest) ∨
      ∃ middle, before = log ++ middle ∧ events = middle ++ event :: after := by
  rcases List.append_eq_append_iff.mp h with ⟨middle, hbefore, hevents⟩ | ⟨rest, hlog, hafter⟩
  · exact Or.inr ⟨middle, hbefore, hevents⟩
  · cases rest with
    | nil =>
        rw [List.nil_append] at hafter
        exact Or.inr ⟨[], by rw [hlog, List.append_nil, List.append_nil], hafter.symm⟩
    | cons head rest =>
        rw [List.cons_append, List.cons.injEq] at hafter
        rw [← hafter.1] at hlog
        exact Or.inl ⟨rest, hlog⟩

/-- Nothing is given up by events that give nothing up. -/
theorem HostView.Counted.dropped_append {v : HostView Ms} (h : v.Counted) {events : List HostEvent}
    (hevents : ∀ number nextHop, .dropped number nextHop ∉ events)
    {before after : List HostEvent} {number : Nat} {nextHop : IpAddress}
    (hlog : v.log ++ events = before ++ .dropped number nextHop :: after) :
    unansweredRequests nextHop before = hostArpMaxAttempts := by
  rcases append_eq_split hlog with ⟨rest, hold⟩ | ⟨middle, -, hnew⟩
  · exact h.dropped before number nextHop rest hold
  · exact absurd (hnew ▸ List.mem_append_right middle List.mem_cons_self) (hevents number nextHop)

theorem countRequest_request (ip target : IpAddress) (count : Nat) (frame : List UInt8) :
    [HostEvent.arpRequest target frame].foldl (countRequest ip) count =
      if ipOctetsEqualPublic target ip then count + 1 else count := rfl

theorem countRequest_sent (ip : IpAddress) (srcMac dstMac : MacAddress)
    (packets : List (HostPendingPacket Ms)) (count : Nat) :
    (packets.map (HostPendingPacket.sent srcMac dstMac)).foldl (countRequest ip) count = count := by
  refine countRequest_foldl_of_neutral ip count fun event hevent n => ?_
  rcases List.mem_map.mp hevent with ⟨packet, -, rfl⟩
  rfl

theorem countRequest_dropped (ip : IpAddress) (packets : List (HostPendingPacket Ms)) (count : Nat) :
    (packets.map HostPendingPacket.droppedEvent).foldl (countRequest ip) count = count := by
  refine countRequest_foldl_of_neutral ip count fun event hevent n => ?_
  rcases List.mem_map.mp hevent with ⟨packet, -, rfl⟩
  rfl

/-- When the packets for an address leave the queue and its count starts again, the other addresses keep
theirs. -/
theorem HostView.Counted.leave {v : HostView Ms} (h : v.Counted) (target : IpAddress)
    (log : List HostEvent)
    (hlog : ∀ ip, unansweredRequests ip log =
      if ipOctetsEqualPublic target ip then 0 else unansweredRequests ip v.log)
    (hdropped : ∀ before number nextHop after, log = before ++ .dropped number nextHop :: after →
      unansweredRequests nextHop before = hostArpMaxAttempts) :
    HostView.Counted ⟨othersThan target v.pending, log, v.accepted⟩ := by
  refine ⟨fun packet hpacket => ?_, fun ip hip => ?_, hdropped⟩
  · rcases mem_othersThan.mp hpacket with ⟨hmem, hne⟩
    rw [hlog, ipOctetsEqualPublic_comm, hne]
    exact h.attempts packet hmem
  · dsimp only
    rw [hlog]
    cases heq : ipOctetsEqualPublic target ip with
    | true => rfl
    | false =>
        refine h.idle ip (waitingFor_eq_nil.mpr fun packet hpacket => ?_)
        cases hwaits : ipOctetsEqualPublic packet.targetIp ip with
        | false => rfl
        | true =>
            -- a packet for `ip` is one for another address, and is still there
            have hother : ipOctetsEqualPublic packet.targetIp target = false := by
              rw [ipOctetsEqualPublic_comm, ipOctetsEqualPublic_congr hwaits, heq]
            have hgone := waitingFor_eq_nil.mp hip packet (mem_othersThan.mpr ⟨hpacket, hother⟩)
            rw [hwaits] at hgone
            cases hgone

theorem HostMove.counted {mac : MacAddress} {ordered : Prop} {v v' : HostView Ms}
    (h : HostMove mac ordered v v') (hv : v.Counted) : v'.Counted := by
  cases h with
  | direct pending log accepted packet dst hordered =>
      refine ⟨fun other hother => ?_, fun ip hip => ?_, fun before number nextHop after hlog => ?_⟩
      · rw [unansweredRequests_append]
        exact hv.attempts other hother
      · rw [unansweredRequests_append]
        exact hv.idle ip hip
      · exact hv.dropped_append (by simp) hlog
  | first pending log accepted packet frame hnone hattempts hnumber =>
      have hothers := waitingFor_eq_nil.mp hnone
      refine ⟨fun other hother => ?_, fun ip hip => ?_, fun before number nextHop after hlog => ?_⟩
      · rw [unansweredRequests_append, countRequest_request]
        rcases List.mem_append.mp hother with hold | hnew
        · rw [ipOctetsEqualPublic_comm, hothers other hold]
          exact hv.attempts other hold
        · have hself : ipOctetsEqualPublic packet.targetIp packet.targetIp = true :=
            ipOctetsEqualPublic_iff.mpr rfl
          rw [List.mem_singleton.mp hnew, hself, hattempts]
          rw [hv.idle packet.targetIp hnone]
          exact ⟨rfl, by decide⟩
      · have hboth := waitingFor_eq_nil.mp hip
        rw [unansweredRequests_append, countRequest_request, hboth packet (by simp)]
        refine hv.idle ip (waitingFor_eq_nil.mpr fun other hother => ?_)
        exact hboth other (List.mem_append_left _ hother)
      · exact hv.dropped_append (by simp) hlog
  | join pending log accepted packet existing hexisting hattempts hnumber =>
      rcases mem_waitingFor.mp hexisting with ⟨hmem, heq⟩
      refine ⟨fun other hother => ?_, fun ip hip => ?_, hv.dropped⟩
      · rcases List.mem_append.mp hother with hold | hnew
        · exact hv.attempts other hold
        · rw [List.mem_singleton.mp hnew, hattempts, ← unansweredRequests_congr heq]
          exact hv.attempts existing hmem
      · refine hv.idle ip (waitingFor_eq_nil.mpr fun other hother => ?_)
        exact waitingFor_eq_nil.mp hip other (List.mem_append_left _ hother)
  | reply pending log accepted frame =>
      refine ⟨fun other hother => ?_, fun ip hip => ?_, fun before number nextHop after hlog => ?_⟩
      · rw [unansweredRequests_append]
        exact hv.attempts other hother
      · rw [unansweredRequests_append]
        exact hv.idle ip hip
      · exact hv.dropped_append (by simp) hlog
  | flush pending log accepted resolvedIp dst =>
      refine hv.leave resolvedIp _ (fun ip => ?_) fun before number nextHop after hlog => ?_
      · rw [unansweredRequests_append, List.foldl_cons, countRequest_sent]
        rfl
      · refine hv.dropped_append (fun number nextHop hmem => ?_) hlog
        simp [HostPendingPacket.sent] at hmem
  | retry pending log accepted packet attemptMs frame hpacket hattempts =>
      refine ⟨fun other hother => ?_, fun ip hip => ?_, fun before number nextHop after hlog => ?_⟩
      · rcases List.mem_map.mp hother with ⟨old, hold, rfl⟩
        dsimp only
        rw [unansweredRequests_append, countRequest_request, HostPendingPacket.retried,
          HostPendingPacket.waitsFor]
        cases heq : ipOctetsEqualPublic old.targetIp packet.targetIp with
        | true =>
            have hsym := ipOctetsEqualPublic_comm packet.targetIp old.targetIp
            rw [heq] at hsym
            rw [if_pos rfl]
            dsimp only
            rw [hsym, if_pos rfl, unansweredRequests_congr heq, ← (hv.attempts packet hpacket).1]
            exact ⟨rfl, hattempts⟩
        | false =>
            have hsym := ipOctetsEqualPublic_comm packet.targetIp old.targetIp
            rw [heq] at hsym
            rw [if_neg Bool.false_ne_true, hsym]
            exact hv.attempts old hold
      · have hpending : ∀ other ∈ pending, ipOctetsEqualPublic other.targetIp ip = false := by
          intro other hother
          have hretried := waitingFor_eq_nil.mp hip _ (List.mem_map_of_mem hother)
          rw [HostPendingPacket.retried] at hretried
          split at hretried
          all_goals exact hretried
        rw [unansweredRequests_append, countRequest_request, hpending packet hpacket]
        exact hv.idle ip (waitingFor_eq_nil.mpr hpending)
      · exact hv.dropped_append (by simp) hlog
  | giveUp pending log accepted packet hpacket hattempts =>
      refine hv.leave packet.targetIp _ (fun ip => ?_) fun before number nextHop after hlog => ?_
      · rw [unansweredRequests_append, List.foldl_append, countRequest_dropped]
        rfl
      · rcases append_eq_split hlog with ⟨rest, hold⟩ | ⟨middle, hbefore, hnew⟩
        · exact hv.dropped before number nextHop rest hold
        -- the packets given up now have waited for the address of `packet`
        have hmiddle : ∃ more, (waitingFor packet.targetIp pending).map
            HostPendingPacket.droppedEvent = middle ++ .dropped number nextHop :: more := by
          rcases append_eq_split hnew with hdropped | ⟨rest, -, hfailed⟩
          · exact hdropped
          · rcases List.append_eq_singleton_iff.mp hfailed.symm with ⟨-, hcontra⟩ | ⟨-, hcontra⟩
            · cases hcontra
            · cases hcontra
        rcases hmiddle with ⟨more, hmiddle⟩
        have hmem : HostEvent.dropped number nextHop ∈ (waitingFor packet.targetIp pending).map
            HostPendingPacket.droppedEvent := by
          rw [hmiddle]
          exact List.mem_append_right _ List.mem_cons_self
        rcases List.mem_map.mp hmem with ⟨other, hother, hevent⟩
        rw [HostPendingPacket.droppedEvent, HostEvent.dropped.injEq] at hevent
        rcases mem_waitingFor.mp hother with ⟨hwaits, heq⟩
        have hneutral : ∀ event ∈ middle, ∀ n, countRequest nextHop n event = n := by
          intro event hevent n
          have hdropped : event ∈ (waitingFor packet.targetIp pending).map
              HostPendingPacket.droppedEvent := by
            rw [hmiddle]
            exact List.mem_append_left _ hevent
          rcases List.mem_map.mp hdropped with ⟨dropped, -, rfl⟩
          rfl
        rw [hbefore, unansweredRequests_append, countRequest_foldl_of_neutral _ _ hneutral, ← hevent.2]
        have hgroup := unansweredRequests_congr heq log
        have hattempt := hv.attempts packet hpacket
        dsimp only at hattempt
        omega

/-! ## Runs -/

open Relation (ReflTransGen)

/-- All that moves keep. -/
structure HostView.Kept (mac : MacAddress) (v : HostView Ms) : Prop where
  conserved : v.Conserved
  faithful : v.Faithful mac
  counted : v.Counted

theorem HostView.Kept.moves {mac : MacAddress} {ordered : Prop} {v v' : HostView Ms}
    (hv : v.Kept mac) (h : ReflTransGen (HostMove mac ordered) v v') : v'.Kept mac := by
  induction h with
  | refl => exact hv
  | tail _ hmove ih =>
      exact ⟨hmove.conserved ih.conserved, hmove.faithful ih.faithful, hmove.counted ih.counted⟩

theorem hostRunInit_ok (config : ArpHostConfig) (items : Nat → HostPendingPacket Ms) :
    (hostRunInit config items).host.Ok config :=
  { hasIp := rfl
    ipAddress := rfl
    defaultGateway := rfl
    macAddress := rfl
    valid := RingBuffer.valid_empty items (by decide)
    resolves := fun hne => absurd rfl hne }

theorem hostRunInit_kept (config : ArpHostConfig) (items : Nat → HostPendingPacket Ms) :
    (hostRunInit config items).view.Kept config.macAddress := by
  refine ⟨List.Perm.refl _, ⟨?_, ?_, ?_⟩, ⟨?_, fun ip _ => rfl, ?_⟩⟩
  · exact fun packet hpacket => (nomatch hpacket)
  · exact fun number nextHop frame hevent => (nomatch hevent)
  · exact fun number nextHop hevent => (nomatch hevent)
  · exact fun packet hpacket => (nomatch hpacket)
  · intro before number nextHop after hlog
    have hnil : [] = before ++ HostEvent.dropped number nextHop :: after := hlog
    simp at hnil

/-- A reply that is learned sends the packets waiting for its sender, in the order of the queue. -/
def HostFlushesOnReply (host : ArpHost Ms) : Prop :=
  ∀ raw arp learned, hostArpMessage host raw = some arp → arp.opcode = .reply →
    hostLearnArp host arp = some learned →
      (hostReceive host raw).pending = othersThan arp.senderIp host.pending ∧
      (hostReceive host raw).log = host.log ++ .flushed arp.senderIp ::
        (waitingFor arp.senderIp host.pending).map
          (HostPendingPacket.sent host.macAddress arp.senderMac)

theorem hostFlushesOnReply {config : ArpHostConfig} {host : ArpHost Ms} (hok : host.Ok config) :
    HostFlushesOnReply host := by
  intro raw arp learned harp hreply hlearn
  rw [hostLearnArp, Option.map_eq_some_iff] at hlearn
  rcases hlearn with ⟨arpTable, htable, rfl⟩
  have hrequest : ¬ (arp.opcode = .request ∧ host.hasIp = true ∧
      ipOctetsEqualPublic arp.targetIp host.ipAddress = true) := by
    rw [hreply]
    rintro ⟨hcontra, -⟩
    cases hcontra
  have hreceive : hostReceive host raw =
      (hostFlushPendingPackets { host with arpTable := arpTable } arp.senderIp).2 := by
    rw [hostReceive, harp]
    dsimp only
    rw [hostReceiveArp, hostLearnArp, htable]
    exact (if_neg hrequest).trans (if_pos hreply)
  rcases (hostFlushLoop_dequeuesAll arp.senderIp arp.senderMac).spec host.pendingQueue.size 0
      (ArpHost.record { host with arpTable := arpTable } (.flushed arp.senderIp)) hok.valid le_rfl with
    ⟨queue, -, hlist, hloop⟩
  rw [hreceive, hostFlushPendingPackets]
  dsimp only
  rw [arpTableGetConst_set htable]
  dsimp only
  rw [hloop]
  refine ⟨hlist, ?_⟩
  simp only [ArpHost.after, ArpHost.record, List.append_assoc]
  rfl

section Times

variable [SimTime Ms]

theorem hostRun_moves {config : ArpHostConfig} {s : HostRun Ms} (hok : s.host.Ok config)
    (actions : List (HostAction Ms)) :
    (hostRun s actions).host.Ok config ∧
      ReflTransGen (HostMove config.macAddress False) s.view (hostRun s actions).view := by
  induction actions generalizing s with
  | nil => exact ⟨hok, .refl⟩
  | cons action actions ih =>
      rcases hostStep_moves hok action (fun hcontra : False => hcontra.elim) with ⟨hstep, hmoves⟩
      rcases ih hstep with ⟨hrun, hrest⟩
      exact ⟨hrun, hmoves.trans hrest⟩

/-! ## The loop of `host_poll_arp` comes to an end -/

/-- The rounds the packets of a queue can still take part in. -/
def pollMeasure (pending : List (HostPendingPacket Ms)) : Nat :=
  (pending.map fun packet => hostArpMaxAttempts + 1 - packet.arpAttempts).sum

omit [SimTime Ms] in
theorem pollMeasure_giveUp {pending : List (HostPendingPacket Ms)} {packet : HostPendingPacket Ms}
    (hpacket : packet ∈ pending) (hattempts : packet.arpAttempts ≤ hostArpMaxAttempts) :
    pollMeasure (othersThan packet.targetIp pending) < pollMeasure pending := by
  have hself : packet ∈ waitingFor packet.targetIp pending :=
    mem_waitingFor.mpr ⟨hpacket, ipOctetsEqualPublic_iff.mpr rfl⟩
  have hdivide := ((pending_perm packet.targetIp pending).map fun packet =>
    hostArpMaxAttempts + 1 - packet.arpAttempts).sum_eq
  rw [List.map_append, List.sum_append] at hdivide
  have hone : hostArpMaxAttempts + 1 - packet.arpAttempts ≤
      ((waitingFor packet.targetIp pending).map fun packet =>
        hostArpMaxAttempts + 1 - packet.arpAttempts).sum :=
    List.single_le_sum (fun _ _ => Nat.zero_le _) _ (List.mem_map_of_mem hself)
  simp only [pollMeasure]
  omega

omit [SimTime Ms] in
theorem pollMeasure_retry {pending : List (HostPendingPacket Ms)} {packet : HostPendingPacket Ms}
    (hpacket : packet ∈ pending) (hattempts : packet.arpAttempts < hostArpMaxAttempts) (attemptMs : Ms)
    (hgroup : ∀ other ∈ pending, ipOctetsEqualPublic other.targetIp packet.targetIp = true →
      other.arpAttempts = packet.arpAttempts) :
    pollMeasure (pending.map (HostPendingPacket.retried packet.targetIp (packet.arpAttempts + 1)
      attemptMs)) < pollMeasure pending := by
  rw [pollMeasure, pollMeasure, List.map_map]
  refine List.sum_lt_sum _ _ (fun other hother => ?_) ⟨packet, hpacket, ?_⟩
  · rw [Function.comp_apply, HostPendingPacket.retried, HostPendingPacket.waitsFor]
    cases heq : ipOctetsEqualPublic other.targetIp packet.targetIp with
    | true =>
        have hsame := hgroup other hother heq
        rw [if_pos rfl]
        dsimp only
        omega
    | false => exact le_rfl
  · have hself : packet.waitsFor packet.targetIp = true := ipOctetsEqualPublic_iff.mpr rfl
    rw [Function.comp_apply, HostPendingPacket.retried, if_pos hself]
    dsimp only
    omega

theorem hostPollArpLoop_settled {config : ArpHostConfig} {host : ArpHost Ms} (hok : host.Ok config)
    (nowMs : Ms) (accepted : List AcceptedPacket)
    (hcounted : HostView.Counted ⟨host.pending, host.log, accepted⟩) {fuel : Nat}
    (hfuel : pollMeasure host.pending ≤ fuel) :
    (hostPollArpLoop nowMs fuel host).pending.find? (HostPendingPacket.isDue nowMs) = none := by
  induction fuel generalizing host with
  | zero =>
      rw [hostPollArpLoop, List.find?_eq_none]
      intro packet hpacket
      -- A packet that waits has some of the measure left.
      have hattempts := (hcounted.attempts packet hpacket).2
      have hmeasure := pollMeasure_giveUp hpacket hattempts
      omega
  | succ fuel ih =>
      cases hfind : host.pending.find? (HostPendingPacket.isDue nowMs) with
      | none =>
          rw [hostPollArpLoop, hfind]
          exact hfind
      | some packet =>
          have hpacket := List.mem_of_find?_eq_some hfind
          rcases hostPollArpLoop_round hok False hfind accepted fuel with
            ⟨host', hround, hok', hmove, hpending⟩
          rw [hround]
          refine ih hok' (hmove.counted hcounted) ?_
          have hattempts := hcounted.attempts packet hpacket
          -- To give up the packet and to ask once more both lower the measure.
          rcases hpending with ⟨-, hpending⟩ | ⟨hless, attemptMs, hpending⟩
          · have hmeasure := pollMeasure_giveUp hpacket hattempts.2
            rw [← hpending] at hmeasure
            omega
          · have hmeasure := pollMeasure_retry hpacket hless attemptMs fun other hother heq => by
              have hother := hcounted.attempts other hother
              rw [hother.1, hattempts.1, unansweredRequests_congr heq]
            rw [← hpending] at hmeasure
            omega

/-- After `host_poll_arp` no retry is due: the bound on its rounds is never reached. -/
theorem hostPollArp_settled {config : ArpHostConfig} {s : HostRun Ms} (hok : s.host.Ok config)
    (hkept : s.view.Kept config.macAddress) (nowMs : Ms) :
    (hostPollArp s.host nowMs).pending.find? (HostPendingPacket.isDue nowMs) = none := by
  refine hostPollArpLoop_settled hok nowMs s.accepted hkept.counted ?_
  have hbound : pollMeasure s.host.pending ≤ s.host.pending.length * 4 := by
    refine (List.sum_le_card_nsmul _ 4 fun measure hmeasure => ?_).trans (by simp)
    rcases List.mem_map.mp hmeasure with ⟨packet, -, rfl⟩
    exact Nat.sub_le _ _
  rw [ArpHost.pending, RingBuffer.length_toList] at hbound
  rw [ArpHost.pending]
  omega

/-! ## Main result -/

/-- In every run in realtime mode, every accepted packet waits, was sent once with its own bytes, or was
given up after three requests for its next hop that were not answered; no more than 64 packets wait; and
a reply that is learned sends the packets for its sender in their order. -/
theorem host_arp_conserves_packets (config : ArpHostConfig) (items : Nat → HostPendingPacket Ms)
    (actions : List (HostAction Ms)) :
    let s := hostRun (hostRunInit config items) actions
    (s.host.pending.map HostPendingPacket.number ++ sentNumbers s.host.log ++
        droppedNumbers s.host.log).Perm (List.range s.accepted.length) ∧
      s.view.Faithful config.macAddress ∧
      (∀ before number nextHop after, s.host.log = before ++ .dropped number nextHop :: after →
        unansweredRequests nextHop before = hostArpMaxAttempts) ∧
      s.host.pendingQueue.size ≤ hostPendingQueueMaxEntries ∧
      HostFlushesOnReply s.host := by
  rcases hostRun_moves (hostRunInit_ok config items) actions with ⟨hok, hmoves⟩
  have hkept := (hostRunInit_kept config items).moves hmoves
  exact ⟨hkept.conserved, hkept.faithful, hkept.counted.dropped, hok.valid.size_le,
    hostFlushesOnReply hok⟩

end Times

/-- Two packets wait for their addresses; one address is answered, the other one is asked for in vain, and a third
packet comes. -/
def halfAnsweredActions : List (HostAction ℚ) :=
  [.send ⟨10, 0, 0, 2, 0⟩ ethernetTypeIpv4 [1] 0, .send ⟨10, 0, 0, 3, 0⟩ ethernetTypeIpv4 [2] 0,
    .receive (ethernetBytes
      { dstMac := ⟨2, 0, 0, 0, 0, 1⟩
        srcMac := ⟨2, 0, 0, 0, 0, 2⟩
        hasVlan := false
        vlanId := 0
        ethertype := ethernetTypeArp
        payload := arpMessageBytes (arpMessageInitReply ⟨2, 0, 0, 0, 0, 2⟩ ⟨10, 0, 0, 2, 0⟩
          ⟨2, 0, 0, 0, 0, 1⟩ ⟨10, 0, 0, 1, 0⟩) }),
    .poll 4000, .send ⟨10, 0, 0, 4, 0⟩ ethernetTypeIpv4 [3] 4000]

def halfAnsweredRun : HostRun ℚ :=
  hostRun (hostRunInit
    { hasIp := true
      ipAddress := ⟨10, 0, 0, 1, 24⟩
      defaultGateway := ⟨10, 0, 0, 254, 0⟩
      macAddress := ⟨2, 0, 0, 0, 0, 1⟩ }
    fun _ =>
      { targetIp := ipZero
        ethertype := 0
        payload := []
        payload_le := Nat.zero_le _
        arpAttempts := 0
        arpLastAttemptMs := 0
        number := 0 }) halfAnsweredActions

/-- The third packet waits, the first one was sent and the second one was given up. -/
theorem host_arp_conserves_packets_halfAnswered :
    ([2] ++ [0] ++ [1]).Perm (List.range halfAnsweredRun.accepted.length) ∧
      halfAnsweredRun.host.pending.map HostPendingPacket.number = [2] ∧
      sentNumbers halfAnsweredRun.host.log = [0] ∧ droppedNumbers halfAnsweredRun.host.log = [1] := by
  have hwaiting : halfAnsweredRun.host.pending.map HostPendingPacket.number = [2] := by decide +kernel
  have hsent : sentNumbers halfAnsweredRun.host.log = [0] := by decide +kernel
  have hdropped : droppedNumbers halfAnsweredRun.host.log = [1] := by decide +kernel
  refine ⟨?_, hwaiting, hsent, hdropped⟩
  rw [← hwaiting, ← hsent, ← hdropped]
  exact (host_arp_conserves_packets _ _ halfAnsweredActions).1

end Invariants

end MagiStack
