import MagiStack.Layer2.HostRetry
import MagiStack.Layer3.RouterFlush

/-!
# RouterRetry — ARP retries come to an end

`router_poll_arp` looks for a packet whose retry is due until there is none.  A retry counts up; a packet
that is given up leaves, and the ICMP error about it, which may wait for the same next hop, weighs less than
the packet.  Between two moments at which the last packet for a next hop is dropped or delivered, at most
three requests are made for it.
-/

namespace MagiStack

open Returning

section Router

variable {Ms : Type}

/-! ## Weights -/

/-- The retries a packet has left, and more for one about which an ICMP error may be sent. -/
def RouterPendingPacket.weight (item : RouterPendingPacket Ms) : Nat :=
  (routerArpMaxAttempts - item.arpAttempts) + if routerCanSendErrorForPacket item.packet then 5 else 1

def pendingWeight (pending : List (RouterPendingPacket Ms)) : Nat :=
  (pending.map RouterPendingPacket.weight).sum

theorem RouterPendingPacket.weight_pos (item : RouterPendingPacket Ms) : 0 < item.weight := by
  rw [weight]
  split
  · omega
  · omega

/-- A packet that is taken out takes its weight along. -/
theorem pendingWeight_eraseP {pending : List (RouterPendingPacket Ms)}
    {p : RouterPendingPacket Ms → Bool} {item : RouterPendingPacket Ms}
    (h : pending.find? p = some item) :
    pendingWeight (pending.eraseP p) + item.weight = pendingWeight pending := by
  obtain ⟨hitem, before, after, hsplit, hbefore⟩ := List.find?_eq_some_iff_append.mp h
  have hskip : ∀ other ∈ before, ¬ p other = true := by
    intro other hother
    simpa using hbefore other hother
  rw [hsplit, List.eraseP_append_right _ hskip, List.eraseP_cons_of_pos hitem]
  simp only [pendingWeight, List.map_append, List.map_cons, List.sum_append, List.sum_cons]
  omega

/-- An ICMP error that is queued weighs less than the packet it is about. -/
theorem PendingQueues.weight_le {numInterfaces : Nat} {packet : Ipv4Packet}
    {pending pending' : List (RouterPendingPacket Ms)} {asked : List IpAddress}
    (h : PendingQueues numInterfaces packet pending asked pending')
    (hpacket : routerCanSendErrorForPacket packet = false) :
    pendingWeight pending' ≤ pendingWeight pending + 4 := by
  have hitem : ∀ item : RouterPendingPacket Ms, item.packet = packet →
      pendingWeight (pending ++ [item]) ≤ pendingWeight pending + 4 := by
    intro item hsame
    have hweight : item.weight ≤ 4 := by
      rw [RouterPendingPacket.weight, hsame, hpacket, routerArpMaxAttempts]
      simp only [Bool.false_eq_true, if_false]
      omega
    simp only [pendingWeight, List.map_append, List.map_cons, List.map_nil, List.sum_append,
      List.sum_singleton]
    omega
  cases h with
  | stays => exact Nat.le_add_right _ _
  | joins item existing hsame hport hfind hattempts hlast => exact hitem item hsame
  | asks item hsame hport hfind hattempts => exact hitem item hsame

/-- A retry takes one from the weight of each packet for the address, the packet that is due among them. -/
theorem PendingInStep.retried_weight {numInterfaces : Nat} {pending : List (RouterPendingPacket Ms)}
    (h : PendingInStep numInterfaces pending) {item : RouterPendingPacket Ms} (hitem : item ∈ pending)
    (hattempts : item.arpAttempts < routerArpMaxAttempts) (attemptMs : Ms) :
    pendingWeight (pending.map (.retried item.nextHopIp (item.arpAttempts + 1) attemptMs)) <
      pendingWeight pending := by
  rw [pendingWeight, pendingWeight, List.map_map]
  refine List.sum_lt_sum _ _ (fun other hother => ?_) ⟨item, hitem, ?_⟩
  · rw [Function.comp_apply, RouterPendingPacket.retried]
    split
    · rename_i hwaits
      have hsame := (h.same other hother item hitem hwaits).1
      simp only [RouterPendingPacket.weight]
      omega
    · exact le_rfl
  · have hself : item.waitsFor item.nextHopIp = true := ipOctetsEqualPublic_self _
    rw [Function.comp_apply, RouterPendingPacket.retried, if_pos hself]
    simp only [RouterPendingPacket.weight]
    omega

/-! ## The loop of `router_poll_arp` -/

section Times

variable [SimTime Ms]

/-- How far a poll is: looking for a packet that is due, dropping the packets for a next hop, back from the
request for an ICMP error, or over.  The number falls when nothing is taken out of the queue. -/
inductive RouterPolling (base : List (RouterTask Ms)) (pollMs : Ms) (r : RouterState Ms) : Nat → Prop
  | looking (h : r.tasks = .poll pollMs :: base) : RouterPolling base pollMs r 1
  | dropping (ip : IpAddress) (h : r.tasks = .drop ip :: .poll pollMs :: base) :
      RouterPolling base pollMs r (if r.pending.any (RouterPendingPacket.waitsFor ip) then 0 else 2)
  | asked (nextHopIp ip : IpAddress) (recheckMs : Ms)
      (h : r.tasks = .recheck nextHopIp recheckMs :: .drop ip :: .poll pollMs :: base) :
      RouterPolling base pollMs r (if r.pending.any (RouterPendingPacket.waitsFor ip) then 1 else 3)
  | finished (h : r.tasks = base) (hnone : ∀ item ∈ r.pending, item.isDue pollMs = false) :
      RouterPolling base pollMs r 0

/-- The weight of the packets and how far the poll is. -/
def RouterPollRank (base : List (RouterTask Ms)) (pollMs : Ms) (r : RouterState Ms) (rank : Nat) :
    Prop :=
  r.InStep ∧ ∃ phase, RouterPolling base pollMs r phase ∧ rank = 4 * pendingWeight r.pending + phase

theorem RouterPolling.le {base : List (RouterTask Ms)} {pollMs : Ms} {r : RouterState Ms}
    {phase : Nat} (h : RouterPolling base pollMs r phase) : phase ≤ 3 := by
  cases h with
  | looking => decide
  | dropping ip htasks =>
      split
      · decide
      · decide
  | asked nextHopIp ip recheckMs htasks =>
      split
      · decide
      · decide
  | finished => decide

/-- A rank falls when the packets weigh less, whatever the poll does next. -/
theorem RouterPollRank.of_weight {base : List (RouterTask Ms)} {pollMs : Ms} {r r' : RouterState Ms}
    {phase : Nat} (hinStep : r'.InStep) (hpolling : ∃ phase, RouterPolling base pollMs r' phase)
    (hweight : pendingWeight r'.pending < pendingWeight r.pending) :
    ∃ rank, rank < 4 * pendingWeight r.pending + phase ∧ RouterPollRank base pollMs r' rank := by
  obtain ⟨phase', hphase⟩ := hpolling
  have hle := hphase.le
  exact ⟨_, by omega, hinStep, phase', hphase, rfl⟩

/-- The loop looks for a packet that is due: there is none, or it is given up or asked for again. -/
theorem routerPollRank_looking {nowMs : Nat → Ms} {k : Nat} {base : List (RouterTask Ms)}
    {pollMs : Ms} {r : RouterState Ms} (hinStep : r.InStep) (htasks : r.tasks = .poll pollMs :: base) :
    ∃ rank, rank < 4 * pendingWeight r.pending + 1 ∧
      RouterPollRank base pollMs (routerRealtimeStep nowMs k r) rank := by
  have hnext := (routerResume_moves r true (nowMs k)).inStep hinStep
  have hround : (routerResume r true (nowMs k)).1 =
      (routerPollRound { r with tasks := base } pollMs).1 := by
    rw [routerResume, htasks]
  have hpending : RouterState.pending { r with tasks := base } = r.pending := rfl
  rw [routerRealtimeStep, hround]
  rw [hround] at hnext
  rw [routerPollRound, hpending] at hnext ⊢
  cases hfind : r.pending.find? (RouterPendingPacket.isDue pollMs) with
  | none =>
      rw [hfind] at hnext
      refine ⟨4 * pendingWeight r.pending + 0, by omega, hnext, 0, .finished rfl ?_, rfl⟩
      intro item hitem
      exact Bool.eq_false_of_not_eq_true (List.find?_eq_none.mp hfind item hitem)
  | some item =>
      have hitem := List.mem_of_find?_eq_some hfind
      rw [hfind] at hnext
      by_cases hattempts : routerArpMaxAttempts ≤ item.arpAttempts
      · simp only [if_pos hattempts] at hnext ⊢
        have hdropping : RouterPolling base pollMs ((RouterState.pushTask { r with tasks := base }
            (.poll pollMs)).pushTask (.drop item.nextHopIp)) _ := .dropping item.nextHopIp rfl
        -- The packet that is due is among those the drop will find.
        have hfound : r.pending.any (RouterPendingPacket.waitsFor item.nextHopIp) = true :=
          List.any_eq_true.mpr ⟨item, hitem, ipOctetsEqualPublic_self _⟩
        have hany : ((RouterState.pushTask { r with tasks := base } (.poll pollMs)).pushTask
            (.drop item.nextHopIp)).pending.any (RouterPendingPacket.waitsFor item.nextHopIp) =
              true := hfound
        rw [hany] at hdropping
        exact ⟨4 * pendingWeight r.pending + 0, by omega, hnext, 0, hdropping, rfl⟩
      · simp only [if_neg hattempts] at hnext ⊢
        refine RouterPollRank.of_weight hnext ⟨1, .looking rfl⟩ ?_
        rw [routerSetArpAttemptForIp_pending]
        exact PendingInStep.retried_weight hinStep hitem (Nat.lt_of_not_le hattempts) _

/-- A packet is dropped, with an ICMP error about it that may have to wait. -/
theorem routerPollRank_dropping {nowMs : Nat → Ms} {k : Nat} {base : List (RouterTask Ms)}
    {pollMs : Ms} {r : RouterState Ms} (hinStep : r.InStep) {ip : IpAddress}
    (htasks : r.tasks = .drop ip :: .poll pollMs :: base) :
    ∃ rank, rank < 4 * pendingWeight r.pending +
        (if r.pending.any (RouterPendingPacket.waitsFor ip) then 0 else 2) ∧
      RouterPollRank base pollMs (routerRealtimeStep nowMs k r) rank := by
  have hnext := (routerResume_moves r true (nowMs k)).inStep hinStep
  have hround : (routerResume r true (nowMs k)).1 =
      (routerDropRound { r with tasks := .poll pollMs :: base } ip (nowMs k)).1 := by
    rw [routerResume, htasks]
  obtain ⟨queue, hdequeue, hpending⟩ :=
    routerDequeuePendingForIp_spec { r with tasks := .poll pollMs :: base } ip
  have hwaiting : RouterState.pending { r with tasks := .poll pollMs :: base } = r.pending := rfl
  rw [hwaiting] at hdequeue hpending
  rw [routerRealtimeStep, hround]
  rw [hround] at hnext
  rw [routerDropRound, hdequeue] at hnext ⊢
  cases hfind : r.pending.find? (RouterPendingPacket.waitsFor ip) with
  | none =>
      -- Nothing waits for the address any more, and the poll goes on.
      have hnone := List.find?_eq_none.mp hfind
      have hany : r.pending.any (RouterPendingPacket.waitsFor ip) = false :=
        List.any_eq_false.mpr hnone
      rw [List.eraseP_of_forall_not hnone] at hpending
      rw [hfind] at hnext
      rw [hany]
      refine ⟨4 * pendingWeight r.pending + 1, by simp, hnext, 1, .looking rfl, ?_⟩
      dsimp only
      rw [hpending]
  | some item =>
      -- The weight of the packet that is taken out pays for the error about it, which may have to wait.
      have hweight := pendingWeight_eraseP hfind
      have hany : r.pending.any (RouterPendingPacket.waitsFor ip) = true :=
        List.any_eq_true.mpr ⟨item, List.mem_of_find?_eq_some hfind, List.find?_some hfind⟩
      rw [← hpending] at hweight
      replace hweight : pendingWeight (RouterState.pushTask
          { r with pendingQueue := queue, tasks := .poll pollMs :: base } (.drop ip)).pending +
            item.weight = pendingWeight r.pending := hweight
      rw [hfind] at hnext
      rw [hany]
      by_cases hreport : routerCanSendErrorForPacket item.packet = true
      · simp only [if_pos hreport] at hnext ⊢
        obtain ⟨response, hquiet, hqueues⟩ := routerSendIcmpError_queues
          (RouterState.pushTask { r with pendingQueue := queue, tasks := .poll pollMs :: base }
            (.drop ip)) item.packet 1 (nowMs k) (Or.inl rfl)
        obtain ⟨asked, hstep, -⟩ := hqueues.queues
        refine RouterPollRank.of_weight hnext ?_ ?_
        · obtain hsame | ⟨nextHopIp, recheckMs, hpushed⟩ := hqueues.tasks
          · exact ⟨_, .dropping ip hsame⟩
          · exact ⟨_, .asked nextHopIp ip recheckMs hpushed⟩
        · have hheavy : 5 ≤ item.weight := by
            rw [RouterPendingPacket.weight, if_pos hreport]
            exact Nat.le_add_left 5 _
          have hlight := hstep.weight_le hquiet
          omega
      · simp only [if_neg hreport] at hnext ⊢
        refine RouterPollRank.of_weight hnext ⟨_, .dropping ip rfl⟩ ?_
        have hpos := item.weight_pos
        omega

theorem RouterPollRank.step {nowMs : Nat → Ms} {k : Nat} {base : List (RouterTask Ms)}
    {pollMs : Ms} {r : RouterState Ms} {rank : Nat} (hnot : r.tasks ≠ base)
    (h : RouterPollRank base pollMs r rank) :
    ∃ rank', rank' < rank ∧ RouterPollRank base pollMs (routerRealtimeStep nowMs k r) rank' := by
  obtain ⟨hinStep, phase, hpolling, rfl⟩ := h
  cases hpolling with
  | looking htasks => exact routerPollRank_looking hinStep htasks
  | dropping ip htasks => exact routerPollRank_dropping hinStep htasks
  | asked nextHopIp ip recheckMs htasks =>
      have hnext := (routerResume_moves r true (nowMs k)).inStep hinStep
      rw [← routerRealtimeStep, routerRealtimeStep_recheck htasks] at hnext
      rw [routerRealtimeStep_recheck htasks]
      refine ⟨_, ?_, hnext, _, .dropping ip rfl, rfl⟩
      have hsame : RouterState.pending { r with tasks := .drop ip :: .poll pollMs :: base } =
          r.pending := rfl
      rw [hsame]
      split
      · omega
      · omega
  | finished htasks => exact absurd htasks hnot

/-- A poll returns, and then no packet is due. -/
theorem routerPoll_returns {r : RouterState Ms} (h : r.InStep) (pollMs : Ms) (nowMs : Nat → Ms) :
    ∃ n r', Returns (routerRealtimeStep nowMs) (fun s => s.tasks = r.tasks) 0
        (r.pushTask (.poll pollMs)) n r' ∧
      ∀ item ∈ r'.pending, item.isDue pollMs = false := by
  have hstart : RouterPollRank r.tasks pollMs (r.pushTask (.poll pollMs))
      (4 * pendingWeight (r.pushTask (.poll pollMs)).pending + 1) :=
    ⟨h, 1, .looking rfl, rfl⟩
  have hstep : ∀ k (s : RouterState Ms) rank, ¬ s.tasks = r.tasks →
      RouterPollRank r.tasks pollMs s rank →
        ∃ rank', rank' < rank ∧ RouterPollRank r.tasks pollMs (routerRealtimeStep nowMs k s) rank' :=
    fun k s rank hnot hs => RouterPollRank.step hnot hs
  obtain ⟨n, r', rank, hreturns, -, phase, hpolling, -⟩ := exists_returns_of_rank hstep 0 hstart
  refine ⟨n, r', hreturns, ?_⟩
  have hdone : r'.tasks = r.tasks := hreturns.isDone
  have hlonger := congrArg List.length hdone
  cases hpolling with
  | looking htasks =>
      rw [htasks, List.length_cons] at hlonger
      omega
  | dropping ip htasks =>
      rw [htasks, List.length_cons, List.length_cons] at hlonger
      omega
  | asked nextHopIp ip recheckMs htasks =>
      rw [htasks, List.length_cons, List.length_cons, List.length_cons] at hlonger
      omega
  | finished htasks hnone => exact hnone

/-! ## Requests between two settlements -/

/-- The address whose packets a call takes out of the queue to deliver them. -/
def routerFlushes (r : RouterState Ms) : RouterCall Ms → Option IpAddress
  | .act (.resume _ _) =>
      match r.tasks with
      | .flush resolvedIp :: _ => some resolvedIp
      | _ => none
  | _ => none

/-- A call that takes the last packet for an address out of the queue to deliver it finds the hardware
address. -/
def RouterFlushKnows (r : RouterState Ms) (call : RouterCall Ms) : Prop :=
  ∀ ip ∈ routerFlushes r call, (arpTableGetConst r.arpTable ip).isSome = true ∨
    r.pending.countP (RouterPendingPacket.waitsFor ip) ≠ 1

/-- A call delivers or drops the last packet for an address. -/
def RouterSettles (ip : IpAddress) (r : RouterState Ms) (call : RouterCall Ms) : Prop :=
  r.pending.countP (RouterPendingPacket.waitsFor ip) = 1 ∧
    (∃ target ∈ routerTakes r call, ipOctetsEqualPublic target ip = true) ∧
    ∀ target ∈ routerFlushes r call, (arpTableGetConst r.arpTable target).isSome = true

instance (r : RouterState Ms) (call : RouterCall Ms) : Decidable (RouterFlushKnows r call) :=
  inferInstanceAs (Decidable (∀ ip ∈ routerFlushes r call, _))

instance (ip : IpAddress) (r : RouterState Ms) (call : RouterCall Ms) :
    Decidable (RouterSettles ip r call) :=
  inferInstanceAs (Decidable (_ ∧ (∃ target ∈ routerTakes r call, _) ∧
    ∀ target ∈ routerFlushes r call, _))

omit [SimTime Ms] in
theorem routerTakes_of_flushes {r : RouterState Ms} {call : RouterCall Ms} {ip : IpAddress}
    (h : routerFlushes r call = some ip) : routerTakes r call = some ip := by
  unfold routerFlushes at h
  split at h
  · split at h
    · rename_i htasks
      rw [routerTakes, htasks]
      exact h
    · cases h
  · cases h

omit [SimTime Ms] in
/-- Only the last packet that is sent again, for want of a hardware address, is neither delivered nor left. -/
theorem RouterFlushKnows.leavesOne {ip : IpAddress} {r : RouterState Ms} {call : RouterCall Ms}
    (hknows : RouterFlushKnows r call) (hunsettled : ¬ RouterSettles ip r call) :
    RouterLeavesOne ip r call := by
  intro target htakes hequal hlast
  refine hunsettled ⟨hlast, ⟨target, htakes, hequal⟩, fun flushed hflushes => ?_⟩
  have hsame : flushed = target :=
    Option.some.inj ((routerTakes_of_flushes hflushes).symm.trans htakes)
  obtain hknown | hmore := hknows flushed hflushes
  · exact hknown
  · rw [hsame, waitsFor_congr hequal] at hmore
    exact absurd hlast hmore

theorem RouterCallsMeet.mono {condition condition' : RouterState Ms → RouterCall Ms → Prop}
    (h : ∀ r call, condition r call → condition' r call) {r : RouterState Ms}
    {calls : List (RouterCall Ms)} (hmeet : RouterCallsMeet condition r calls) :
    RouterCallsMeet condition' r calls := by
  induction calls generalizing r with
  | nil => exact trivial
  | cons call calls ih =>
      obtain ⟨hcall, hrest⟩ := hmeet
      exact ⟨h r call hcall, ih hrest⟩

/-- The retries of a router: the packets for one next hop have the same count and time; a poll, with the
calls it has under way, comes to its end, and then no packet is due; and at most three requests are made for
a next hop in a run that does not deliver or drop the last packet for it, if every packet taken out to be
delivered is. -/
structure RouterRetriesBounded (r : RouterState Ms) : Prop where
  same : ∀ x ∈ r.pending, ∀ y ∈ r.pending, ipOctetsEqualPublic x.nextHopIp y.nextHopIp = true →
    x.arpAttempts = y.arpAttempts ∧ x.arpLastAttemptMs = y.arpLastAttemptMs
  polls : ∀ (pollMs : Ms) (nowMs : Nat → Ms), ∃ n r',
    Returns (routerRealtimeStep nowMs) (fun s => s.tasks = r.tasks) 0
        (routerCall r (.act (.poll pollMs))).1 n r' ∧
      ∀ item ∈ r'.pending, item.isDue pollMs = false
  asks : ∀ (ip : IpAddress) (calls : List (RouterCall Ms)),
    RouterCallsMeet (fun s call => RouterFlushKnows s call ∧ ¬ RouterSettles ip s call) r calls →
      requestsFor ip (routerCallsEvents r calls) ≤ routerArpMaxAttempts

theorem RouterState.InStep.retriesBounded {r : RouterState Ms} (h : r.InStep) :
    RouterRetriesBounded r := by
  refine ⟨h.same, fun pollMs nowMs => routerPoll_returns h pollMs nowMs, fun ip calls hmeet => ?_⟩
  have hleaves : RouterCallsMeet (RouterLeavesOne ip) r calls :=
    hmeet.mono fun s call hcall => hcall.1.leavesOne hcall.2
  have hcounted := routerCalls_counted h hleaves
  have hle := attemptsFor_le (routerCalls_inStep h calls) ip
  omega

/-- In every state a router or a host can reach its retries are bounded. -/
theorem arpRetries_bounded :
    (∀ (numInterfaces : Nat) (h : numInterfaces ≤ maxPort) (macs : Fin maxPort → MacAddress)
      (items : Nat → RouterPendingPacket Ms) (calls : List (RouterCall Ms)),
      RouterRetriesBounded (routerCalls (routerStateInit numInterfaces h macs items) calls)) ∧
    ∀ (config : ArpHostConfig) (items : Nat → HostPendingPacket Ms) (actions : List (HostAction Ms)),
      HostRetriesBounded (hostRun (hostRunInit config items) actions) := by
  constructor
  · intro numInterfaces h macs items calls
    exact (routerCalls_inStep (routerStateInit_inStep numInterfaces h macs items) calls).retriesBounded
  · intro config items actions
    exact hostRun_retriesBounded config items actions

end Times

end Router

/-! ## Three requests, and more -/

/-- The echo request to the neighbour waits while the router is polled twice. -/
def patientCalls : List (RouterCall ℚ) :=
  neighbourCalls 0 ++
    [.act (.poll 1000), .act (.resume true 1000), .act (.resume true 1000),
      .act (.poll 2000), .act (.resume true 2000), .act (.resume true 2000)]

/-- The bound is reached. -/
theorem arpRetries_bounded_patient :
    requestsFor quietNeighbour (routerCallsEvents idleRouter patientCalls) = routerArpMaxAttempts := by
  refine le_antisymm ?_ (by decide +kernel)
  exact (arpRetries_bounded.1 1 _ _ _ []).asks quietNeighbour patientCalls (by decide +kernel)

/-- The rounds of the loop that the reply of a neighbour starts when the table is full. -/
def flushCalls : List (RouterCall ℚ) :=
  List.replicate 7 (.act (.resume true 0))

/-- Each time the packet is sent again a request goes out, and the packet is neither delivered nor dropped. -/
theorem arpRetries_bounded_fullTable :
    let r := routerCalls idleRouter
      (neighbourCalls 100 ++ [.act (.receive 0 (arpReplyFrame quietNeighbour) 0 none)])
    RouterCallsMeet (fun s call => ¬ RouterSettles quietNeighbour s call) r flushCalls ∧
      routerArpMaxAttempts < requestsFor quietNeighbour (routerCallsEvents r flushCalls) := by
  decide +kernel

end MagiStack
