import MagiStack.Layer4.TcpConnection

/-!
# TcpHost — the ends of a connection inside their hosts' tables

`TcpWorld.deliver` hands a segment to one end.  Here that step is derived from the TCP branch of
`host_receive` over the sixteen slots of a host: the slot that holds the end changes exactly as the
end does, every other slot stays, and the same reply is sent.
-/

namespace MagiStack

theorem tcpFirstSlot_eq_of_unique {p : Fin tcpMaxSockets → Bool} {slot : Fin tcpMaxSockets}
    (h : p slot = true) (hunique : ∀ i, p i = true → i = slot) : tcpFirstSlot p = some slot := by
  cases hfirst : tcpFirstSlot p with
  | none =>
      rw [tcpFirstSlot_eq_none hfirst slot] at h
      cases h
  | some i => rw [hunique i (tcpFirstSlot_eq_some hfirst)]

theorem tcpFirstSlot_none_of_forall {p : Fin tcpMaxSockets → Bool} (h : ∀ i, p i = false) :
    tcpFirstSlot p = none := by
  cases hfirst : tcpFirstSlot p with
  | none => rfl
  | some i =>
      have htrue := tcpFirstSlot_eq_some hfirst
      rw [h i] at htrue
      cases htrue

/-- A segment for a connection that only `slot` holds goes to that slot. -/
theorem hostReceiveTcp_connection {sockets : TcpTable} {slot : Fin tcpMaxSockets}
    {ipAddress srcIp dstIp : IpAddress} {segment : TcpSegment}
    (hvalid : tcpValidateChecksum segment srcIp dstIp = true)
    (hmatches : tcpSocketMatches (sockets slot) ipAddress segment.dstPort srcIp segment.srcPort =
      true)
    (hunique : ∀ i, tcpSocketMatches (sockets i) ipAddress segment.dstPort srcIp segment.srcPort =
      true → i = slot) :
    hostReceiveTcp sockets ipAddress segment srcIp dstIp =
      hostDeliverTcp sockets slot segment srcIp dstIp := by
  have hfind : tcpSocketFind sockets ipAddress segment.dstPort srcIp segment.srcPort = some slot := by
    rw [tcpSocketFind, tcpFirstSlot_eq_of_unique hmatches hunique]
    rfl
  have hlisten : (sockets slot).isListening = false := by
    simp only [tcpSocketMatches, Bool.and_eq_true] at hmatches
    simpa using hmatches.1.1.1.1.1.2
  rw [hostReceiveTcp, if_pos hvalid, hfind]
  simp only [hlisten, Bool.false_and, Bool.false_eq_true, if_false]

/-- An opening SYN for no connection of the host makes a child in the slot `tcp_socket_alloc` hands
out. -/
theorem hostReceiveTcp_child {sockets sockets' : TcpTable} {listener child : Fin tcpMaxSockets}
    {ipAddress srcIp dstIp : IpAddress} {segment : TcpSegment}
    (hvalid : tcpValidateChecksum segment srcIp dstIp = true)
    (hnone : ∀ i, tcpSocketMatches (sockets i) ipAddress segment.dstPort srcIp segment.srcPort =
      false)
    (hlistens : tcpSocketListens (sockets listener) ipAddress segment.dstPort = true)
    (hunique : ∀ i, tcpSocketListens (sockets i) ipAddress segment.dstPort = true → i = listener)
    (hsyn : tcpIsOpeningSyn segment = true)
    (halloc : tcpSocketAlloc sockets = some (child, sockets')) :
    hostReceiveTcp sockets ipAddress segment srcIp dstIp =
      hostDeliverTcp
        (Function.update sockets' child
          (tcpChildSocket listener (sockets' listener).localIp segment srcIp))
        child segment srcIp dstIp := by
  have hfind : tcpSocketFind sockets ipAddress segment.dstPort srcIp segment.srcPort =
      some listener := by
    rw [tcpSocketFind, tcpFirstSlot_none_of_forall hnone,
      tcpFirstSlot_eq_of_unique hlistens hunique]
    rfl
  have hlisten : (sockets listener).isListening = true := by
    simp only [tcpSocketListens, Bool.and_eq_true] at hlistens
    exact hlistens.1.1.2
  rw [hostReceiveTcp, if_pos hvalid, hfind]
  simp only [hlisten, hsyn, Bool.and_self, if_true, halloc]

/-- Delivery to an end is what `host_receive` does to the slot that holds the end's socket. -/
theorem TcpWorld.deliver_eq_hostReceiveTcp {addresses : TcpAddresses} {w : TcpWorld}
    {side : TcpSide} {segment : TcpSegment} {sockets : TcpTable} {slot : Fin tcpMaxSockets}
    (hvalid : tcpValidateChecksum segment (addresses.ip side.peer).withoutPrefix
      (addresses.ip side).withoutPrefix = true)
    (hslot : sockets slot = (w.ends side).socket)
    (hmatches : tcpSocketMatches (sockets slot) (addresses.ip side) segment.dstPort
      (addresses.ip side.peer).withoutPrefix segment.srcPort = true)
    (hunique : ∀ i, tcpSocketMatches (sockets i) (addresses.ip side) segment.dstPort
      (addresses.ip side.peer).withoutPrefix segment.srcPort = true → i = slot) :
    (hostReceiveTcp sockets (addresses.ip side) segment (addresses.ip side.peer).withoutPrefix
        (addresses.ip side).withoutPrefix).1 =
      Function.update sockets slot ((w.deliver addresses side segment).ends side).socket ∧
    (w.deliver addresses side segment).net side = w.net side ++
      (hostReceiveTcp sockets (addresses.ip side) segment (addresses.ip side.peer).withoutPrefix
        (addresses.ip side).withoutPrefix).2.toList := by
  rw [hostReceiveTcp_connection hvalid hmatches hunique]
  rw [hslot] at hmatches
  simp only [TcpWorld.deliver, hvalid, if_true, TcpWorld.receiver, hmatches, hostDeliverTcp, hslot,
    TcpWorld.update_ends_self, TcpWorld.update_net_self, TcpEnd.afterReceive,
    TcpEnd.withSocket_socket, and_self]

end MagiStack
