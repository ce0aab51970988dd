import MagiStack.Layer2.Host
import MagiStack.Layer3.RouterForward
import MagiStack.Library.StatusCall

/-!
# PendingFifo — the queues of waiting packets as lists

The pending queues of hosts and routers are rings from which the first packet for an address is taken by
passing every packet from the head to the tail.  Read from the head, a queue that was only filled and
emptied by these functions is a list: packets join at its end while there is room, and the first one for
an address leaves without disturbing the others.
-/

namespace MagiStack

open StatusCall

variable {Ms : Type}

/-! ## Hosts -/

/-- `host_queue_pending_packet_with_arp_state` with its writes. -/
def hostQueuePendingPacketCall (targetIp : IpAddress) (ethertype : UInt16) (payload : List UInt8)
    (arpAttempts : Nat) (arpLastAttemptMs : Ms) (number : Nat) : StateM (ArpHost Ms) Bool := do
  let host ← get
  if h : payload.length ≤ ethernetMaxPayload then
    if hostPendingQueueMaxEntries ≤ host.pendingQueue.size then
      return false
    modify fun host => { host with
      pendingQueue.items := Function.update host.pendingQueue.items host.pendingQueue.tail
        { targetIp := targetIp
          ethertype := ethertype
          payload := payload
          payload_le := h
          arpAttempts := arpAttempts
          arpLastAttemptMs := arpLastAttemptMs
          number := number } }
    modify fun host => { host with
      pendingQueue.tail := (host.pendingQueue.tail + 1) % hostPendingQueueMaxEntries }
    modify fun host => { host with pendingQueue.size := host.pendingQueue.size + 1 }
    return true
  else
    return false

theorem hostQueuePendingPacketCall_commits (targetIp : IpAddress) (ethertype : UInt16) (payload : List UInt8)
    (arpAttempts : Nat) (arpLastAttemptMs : Ms) (number : Nat) :
    Commits (hostQueuePendingPacketCall targetIp ethertype payload arpAttempts arpLastAttemptMs number)
      fun host =>
        hostQueuePendingPacketWithArpState host targetIp ethertype payload arpAttempts arpLastAttemptMs
          number := by
  intro host
  simp only [hostQueuePendingPacketCall, StateT.run_bind, StateT.run_get, pure_bind,
    hostQueuePendingPacketWithArpState]
  split_ifs
  all_goals rfl

/-- A call of `host_queue_pending_packet_with_arp_state` or of `host_dequeue_pending_packet_for_ip`. -/
inductive HostQueueCall (Ms : Type)
  | enqueue (targetIp : IpAddress) (ethertype : UInt16) (payload : List UInt8) (arpAttempts : Nat)
      (arpLastAttemptMs : Ms) (number : Nat)
  | dequeue (targetIp : IpAddress)

def ArpHost.queueCall (host : ArpHost Ms) : HostQueueCall Ms → ArpHost Ms
  | .enqueue targetIp ethertype payload arpAttempts arpLastAttemptMs number =>
      ((hostQueuePendingPacketCall targetIp ethertype payload arpAttempts arpLastAttemptMs number).run
        host).2
  | .dequeue targetIp => (hostDequeuePendingPacketForIp host targetIp).2

def ArpHost.queueCalls (host : ArpHost Ms) (calls : List (HostQueueCall Ms)) : ArpHost Ms :=
  calls.foldl ArpHost.queueCall host

/-- The queue of a host is a list of at most 64 packets.  A payload that no frame holds is refused. -/
structure ArpHost.QueueIsFifo (host : ArpHost Ms) : Prop where
  tail_eq : host.pendingQueue.tail =
    (host.pendingQueue.head + host.pendingQueue.size) % hostPendingQueueMaxEntries
  size_eq : host.pendingQueue.size = host.pending.length
  enqueue : ∀ (targetIp : IpAddress) (ethertype : UInt16) (payload : List UInt8) (arpAttempts : Nat)
    (arpLastAttemptMs : Ms) (number : Nat) (fits : payload.length ≤ ethernetMaxPayload),
    let call := hostQueuePendingPacketCall targetIp ethertype payload arpAttempts arpLastAttemptMs number
    if host.pendingQueue.size < hostPendingQueueMaxEntries then
      (call.run host).1 = true ∧
        (call.run host).2.pending = host.pending ++
          [{ targetIp := targetIp
             ethertype := ethertype
             payload := payload
             payload_le := fits
             arpAttempts := arpAttempts
             arpLastAttemptMs := arpLastAttemptMs
             number := number }]
    else
      call.run host = (false, host)
  oversized : ∀ (targetIp : IpAddress) (ethertype : UInt16) (payload : List UInt8) (arpAttempts : Nat)
    (arpLastAttemptMs : Ms) (number : Nat), ethernetMaxPayload < payload.length →
    (hostQueuePendingPacketCall targetIp ethertype payload arpAttempts arpLastAttemptMs number).run host =
      (false, host)
  dequeue : ∀ targetIp, TakesFirst (HostPendingPacket.waitsFor targetIp) host.pending
    (hostDequeuePendingPacketForIp host targetIp).1 (hostDequeuePendingPacketForIp host targetIp).2.pending

theorem ArpHost.valid_queueCall {host : ArpHost Ms} (h : host.pendingQueue.Valid)
    (call : HostQueueCall Ms) : (host.queueCall call).pendingQueue.Valid := by
  cases call with
  | enqueue targetIp ethertype payload arpAttempts arpLastAttemptMs number =>
      rw [queueCall, hostQueuePendingPacketCall_commits, committed_snd]
      dsimp only [hostQueuePendingPacketWithArpState]
      split
      · split
        · exact h
        · rename_i hroom
          exact (h.push (Nat.lt_of_not_le hroom) _).1
      · exact h
  | dequeue targetIp => exact (h.takeFirst _).1

theorem ArpHost.valid_queueCalls {host : ArpHost Ms} (h : host.pendingQueue.Valid)
    (calls : List (HostQueueCall Ms)) : (host.queueCalls calls).pendingQueue.Valid := by
  induction calls generalizing host with
  | nil => exact h
  | cons call rest ih => exact ih (valid_queueCall h call)

theorem ArpHost.queueIsFifo {host : ArpHost Ms} (h : host.pendingQueue.Valid) : host.QueueIsFifo where
  tail_eq := h.tail_eq
  size_eq := (RingBuffer.length_toList host.pendingQueue).symm
  enqueue := by
    intro targetIp ethertype payload arpAttempts arpLastAttemptMs number fits
    dsimp only
    rw [hostQueuePendingPacketCall_commits]
    dsimp only [hostQueuePendingPacketWithArpState]
    rw [dif_pos fits]
    by_cases hroom : host.pendingQueue.size < hostPendingQueueMaxEntries
    · rw [if_neg (Nat.not_le.mpr hroom), if_pos hroom]
      exact ⟨rfl, (h.push hroom _).2⟩
    · rw [if_pos (Nat.le_of_not_lt hroom), if_neg hroom]
      rfl
  oversized := by
    intro targetIp ethertype payload arpAttempts arpLastAttemptMs number hlong
    rw [hostQueuePendingPacketCall_commits]
    dsimp only [hostQueuePendingPacketWithArpState]
    rw [dif_neg (Nat.not_le.mpr hlong)]
    rfl
  dequeue := by
    intro targetIp
    obtain ⟨-, hfound, hrest⟩ := h.takeFirst (HostPendingPacket.waitsFor targetIp)
    have htakes := takesFirst_eraseP (HostPendingPacket.waitsFor targetIp) host.pending
    rw [ArpHost.pending, ← hfound, ← hrest] at htakes
    exact htakes

/-! ## Routers -/

/-- `router_queue_pending_packet` with its writes. -/
def routerQueuePendingPacketCall (item : RouterPendingPacket Ms) : StateM (RouterState Ms) Bool := do
  let r ← get
  if h : r.pendingQueue.size < routerPendingQueueMaxEntries then
    set { r with pendingQueue := r.pendingQueue.push h item }
    return true
  else
    return false

theorem routerQueuePendingPacketCall_commits (item : RouterPendingPacket Ms) :
    Commits (routerQueuePendingPacketCall item) fun r => routerQueuePendingPacket r item := by
  intro r
  simp only [routerQueuePendingPacketCall, StateT.run_bind, StateT.run_get, pure_bind,
    routerQueuePendingPacket]
  split_ifs
  all_goals rfl

/-- A call of `router_queue_pending_packet` or of `router_dequeue_pending_for_ip`. -/
inductive RouterQueueCall (Ms : Type)
  | enqueue (item : RouterPendingPacket Ms)
  | dequeue (nextHopIp : IpAddress)

def RouterState.queueCall (r : RouterState Ms) : RouterQueueCall Ms → RouterState Ms
  | .enqueue item => ((routerQueuePendingPacketCall item).run r).2
  | .dequeue nextHopIp => (routerDequeuePendingForIp r nextHopIp).2

def RouterState.queueCalls (r : RouterState Ms) (calls : List (RouterQueueCall Ms)) : RouterState Ms :=
  calls.foldl RouterState.queueCall r

/-- The queue of a router is a list of at most 128 packets. -/
structure RouterState.QueueIsFifo (r : RouterState Ms) : Prop where
  tail_eq : r.pendingQueue.buffer.tail =
    (r.pendingQueue.buffer.head + r.pendingQueue.size) % routerPendingQueueMaxEntries
  size_eq : r.pendingQueue.size = r.pending.length
  enqueue : ∀ item,
    if r.pendingQueue.size < routerPendingQueueMaxEntries then
      ((routerQueuePendingPacketCall item).run r).1 = true ∧
        ((routerQueuePendingPacketCall item).run r).2.pending = r.pending ++ [item]
    else
      (routerQueuePendingPacketCall item).run r = (false, r)
  dequeue : ∀ nextHopIp, TakesFirst (RouterPendingPacket.waitsFor nextHopIp) r.pending
    (routerDequeuePendingForIp r nextHopIp).1 (routerDequeuePendingForIp r nextHopIp).2.pending

theorem RouterState.queueIsFifo (r : RouterState Ms) : r.QueueIsFifo where
  tail_eq := r.pendingQueue.valid.tail_eq
  size_eq := (RingBuffer.length_toList r.pendingQueue.buffer).symm
  enqueue := by
    intro item
    rw [routerQueuePendingPacketCall_commits]
    dsimp only [routerQueuePendingPacket]
    by_cases hroom : r.pendingQueue.size < routerPendingQueueMaxEntries
    · rw [dif_pos hroom, if_pos hroom]
      exact ⟨rfl, RingQueue.toList_push r.pendingQueue hroom item⟩
    · rw [dif_neg hroom, if_neg hroom]
      rfl
  dequeue := by
    intro nextHopIp
    have htakes := takesFirst_eraseP (RouterPendingPacket.waitsFor nextHopIp) r.pending
    rw [RouterState.pending, ← RingQueue.takeFirst_fst, ← RingQueue.toList_takeFirst] at htakes
    exact htakes

/-! ## Both -/

def emptyHostConfig : ArpHostConfig :=
  { hasIp := true
    ipAddress := ipZero
    defaultGateway := ipZero
    macAddress := MacAddress.broadcast }

/-- What a slot holds before anything was queued. -/
def emptyHostPacket : HostPendingPacket Nat :=
  { targetIp := ipZero
    ethertype := 0
    payload := []
    payload_le := Nat.zero_le _
    arpAttempts := 0
    arpLastAttemptMs := 0
    number := 0 }

def emptyRouterPacket : RouterPendingPacket Nat :=
  { nextHopIp := ipZero
    outInterface := 0
    vlanId := 0
    packet := ipv4Init
    arpAttempts := 0
    arpLastAttemptMs := 0
    cargo := none }

/-- After any calls that queue packets and take them out, the queues of hosts and routers are lists with
selective removal. -/
theorem pending_queues_fifo :
    (∀ (config : ArpHostConfig) (items : Nat → HostPendingPacket Ms) (calls : List (HostQueueCall Ms)),
      ((hostInit config items).queueCalls calls).QueueIsFifo) ∧
    ∀ (numInterfaces : Nat) (h : numInterfaces ≤ maxPort) (macs : Fin maxPort → MacAddress)
      (items : Nat → RouterPendingPacket Ms) (calls : List (RouterQueueCall Ms)),
      ((routerStateInit numInterfaces h macs items).queueCalls calls).QueueIsFifo := by
  refine ⟨fun config items calls => ?_, fun _ _ _ _ _ => RouterState.queueIsFifo _⟩
  have hempty : (hostInit config items).pendingQueue.Valid := RingBuffer.valid_empty items (by decide)
  exact ArpHost.queueIsFifo (ArpHost.valid_queueCalls hempty calls)

/-- A host and a router after a packet was queued and taken out again. -/
theorem pending_queues_fifo_emptied :
    ((hostInit emptyHostConfig fun _ => emptyHostPacket).queueCalls
      [.enqueue ipZero 0x0800 [1, 2, 3, 4] 0 0 0, .dequeue ipZero]).QueueIsFifo ∧
    ((routerStateInit 2 (by decide) (fun _ => MacAddress.broadcast)
        fun _ => emptyRouterPacket).queueCalls
      [.enqueue emptyRouterPacket, .dequeue ipZero]).QueueIsFifo :=
  ⟨pending_queues_fifo.1 _ _ _, pending_queues_fifo.2 2 (by decide) _ _ _⟩

/-- A payload of 1501 bytes is not queued, however much room there is. -/
theorem pending_queues_fifo_oversized :
    ¬ ∀ (config : ArpHostConfig) (items : Nat → HostPendingPacket Nat)
        (calls : List (HostQueueCall Nat)) (payload : List UInt8),
        ((hostInit config items).queueCalls calls).pendingQueue.size < hostPendingQueueMaxEntries →
          ((hostQueuePendingPacketCall ipZero 0x0800 payload 0 0 0).run
            ((hostInit config items).queueCalls calls)).1 = true := by
  intro h
  have hrefused := h emptyHostConfig (fun _ => emptyHostPacket) [] (List.replicate 1501 0) (by decide)
  rw [hostQueuePendingPacketCall_commits] at hrefused
  dsimp only [hostQueuePendingPacketWithArpState] at hrefused
  rw [dif_neg (by rw [List.length_replicate]; decide)] at hrefused
  cases hrefused

end MagiStack
