import MagiStack.Layer4.TcpSocket

/-!
# TcpTable — the sockets of one host

Embedding of the slot functions of `layer4/tcp_socket.c` (`tcp_socket_alloc`, `tcp_socket_find`,
`tcp_socket_select_source_port`, `tcp_socket_accept`) over the sixteen slots of a host, and of the
TCP branch of `host_receive`.
-/

namespace MagiStack

/-- `host->tcp_sockets`. -/
abbrev TcpTable : Type := Fin tcpMaxSockets → TcpSocket

/-- The first slot with a property, as the loops over `sockets` find it. -/
def tcpFirstSlot (p : Fin tcpMaxSockets → Bool) : Option (Fin tcpMaxSockets) :=
  (List.finRange tcpMaxSockets).find? p

theorem tcpFirstSlot_eq_some {p : Fin tcpMaxSockets → Bool} {slot : Fin tcpMaxSockets}
    (h : tcpFirstSlot p = some slot) : p slot = true :=
  List.find?_some h

theorem tcpFirstSlot_eq_none {p : Fin tcpMaxSockets → Bool} (h : tcpFirstSlot p = none)
    (slot : Fin tcpMaxSockets) : p slot = false := by
  rw [tcpFirstSlot, List.find?_eq_none] at h
  simpa using h slot (List.mem_finRange slot)

/-- The slot that is found has the property, and none before it has. -/
theorem tcpFirstSlot_eq_some_iff {p : Fin tcpMaxSockets → Bool} {slot : Fin tcpMaxSockets} :
    tcpFirstSlot p = some slot ↔ p slot = true ∧ ∀ i < slot, p i = false := by
  rw [tcpFirstSlot, List.find?_eq_some_iff_getElem]
  refine and_congr_right fun _ => ⟨?_, fun hbefore => ?_⟩
  · rintro ⟨k, hk, hslot, hbefore⟩ i hi
    rw [List.getElem_finRange] at hslot
    have hlt : i.val < k := by
      rw [← hslot] at hi
      exact hi
    simpa using hbefore i.val hlt
  · refine ⟨slot.val, by simp, by simp, fun j hj => ?_⟩
    simpa using hbefore ⟨j, hj.trans slot.isLt⟩ hj

/-! ## Slots -/

/-- A slot as `tcp_socket_alloc` hands it out. -/
def tcpSocketAllocated : TcpSocket :=
  { tcpSocketFree with inUse := true }

/-- The slot `tcp_socket_alloc` picks: a free one, else one in TIME_WAIT. -/
def tcpAllocSlot (sockets : TcpTable) : Option (Fin tcpMaxSockets) :=
  (tcpFirstSlot fun i => !(sockets i).inUse).or
    (tcpFirstSlot fun i =>
      (sockets i).inUse && !(sockets i).isListening && (sockets i).state == .timeWait)

/-- The slot that is picked: the first free one, or the first one in TIME_WAIT when all are in use. -/
theorem tcpAllocSlot_eq_some_iff {sockets : TcpTable} {slot : Fin tcpMaxSockets} :
    tcpAllocSlot sockets = some slot ↔
      ((sockets slot).inUse = false ∧ ∀ i < slot, (sockets i).inUse = true) ∨
        (∀ i, (sockets i).inUse = true) ∧
          ((sockets slot).isListening = false ∧ (sockets slot).state = .timeWait) ∧
          ∀ i < slot, ¬ ((sockets i).isListening = false ∧ (sockets i).state = .timeWait) := by
  rw [tcpAllocSlot, Option.or_eq_some_iff, tcpFirstSlot_eq_some_iff, tcpFirstSlot_eq_some_iff]
  refine or_congr (by simp) ⟨?_, ?_⟩
  · rintro ⟨hnone, hwait, hbefore⟩
    have hfull : ∀ i, (sockets i).inUse = true := fun i => by simpa using tcpFirstSlot_eq_none hnone i
    exact ⟨hfull, by simpa [hfull] using hwait, fun i hi => by simpa [hfull] using hbefore i hi⟩
  · rintro ⟨hfull, hwait, hbefore⟩
    refine ⟨?_, by simpa [hfull] using hwait, fun i hi => by simpa [hfull] using hbefore i hi⟩
    rw [tcpFirstSlot, List.find?_eq_none]
    simp [hfull]

/-- `tcp_socket_alloc`. -/
def tcpSocketAlloc (sockets : TcpTable) : Option (Fin tcpMaxSockets × TcpTable) :=
  (tcpAllocSlot sockets).map fun slot =>
    (slot, Function.update sockets slot tcpSocketAllocated)

/-- The test of the first loop of `tcp_socket_find`: a connection with this tuple. -/
def tcpSocketMatches (socket : TcpSocket) (localIp : IpAddress) (localPort : UInt16)
    (remoteIp : IpAddress) (remotePort : UInt16) : Bool :=
  socket.inUse && !socket.isListening && socket.state != .closed &&
    ipOctetsEqualPublic socket.localIp localIp && socket.localPort == localPort &&
    ipOctetsEqualPublic socket.remoteIp remoteIp && socket.remotePort == remotePort

/-- The test of the second loop of `tcp_socket_find`: a listener on this address. -/
def tcpSocketListens (socket : TcpSocket) (localIp : IpAddress) (localPort : UInt16) : Bool :=
  socket.inUse && socket.isListening && ipOctetsEqualPublic socket.localIp localIp &&
    socket.localPort == localPort

/-- `tcp_socket_find`. -/
def tcpSocketFind (sockets : TcpTable) (localIp : IpAddress) (localPort : UInt16)
    (remoteIp : IpAddress) (remotePort : UInt16) : Option (Fin tcpMaxSockets) :=
  (tcpFirstSlot fun i => tcpSocketMatches (sockets i) localIp localPort remoteIp remotePort).or
    (tcpFirstSlot fun i => tcpSocketListens (sockets i) localIp localPort)

/-- The inner loop of `tcp_socket_select_source_port`: some open socket has this port towards the remote
end. -/
def tcpPortUsed (sockets : List TcpSocket) (remoteIp : IpAddress) (remotePort port : UInt16) : Bool :=
  sockets.any fun socket =>
    socket.inUse && socket.state != .closed && socket.localPort == port && socket.remotePort == remotePort &&
      ipOctetsEqualPublic socket.remoteIp remoteIp

/-- The outer loop, with `attempts` tries left; `0` when all ports it tries are used. -/
def tcpSelectAmong (sockets : List TcpSocket) (remoteIp : IpAddress) (remotePort : UInt16) :
    Nat → UInt16 → UInt16
  | 0, _ => 0
  | attempts + 1, candidate =>
      if tcpPortUsed sockets remoteIp remotePort candidate then
        tcpSelectAmong sockets remoteIp remotePort attempts
          (if candidate = 65535 then 1024 else candidate + 1)
      else
        candidate

/-- Where the search starts. -/
def tcpFirstCandidate (preferredPort : UInt16) : UInt16 :=
  if 1024 ≤ preferredPort then preferredPort else 49152

/-- `tcp_socket_select_source_port` on `count` sockets. -/
def tcpSocketSelectSourcePortAmong (sockets : List TcpSocket) (remoteIp : IpAddress) (remotePort : UInt16)
    (preferredPort : UInt16) : UInt16 :=
  tcpSelectAmong sockets remoteIp remotePort (65535 - 1024 + 1) (tcpFirstCandidate preferredPort)

/-- `tcp_socket_select_source_port` on the slots of a host. -/
def tcpSocketSelectSourcePort (sockets : TcpTable) (remoteIp : IpAddress) (remotePort : UInt16)
    (preferredPort : UInt16) : UInt16 :=
  tcpSocketSelectSourcePortAmong (List.ofFn sockets) remoteIp remotePort preferredPort

/-! ## The TCP branch of `host_receive` -/

/-- The child `host_receive` sets up in a new slot for a SYN to the listener. -/
def tcpChildSocket (listener : Fin tcpMaxSockets) (listenerIp : IpAddress) (segment : TcpSegment)
    (srcIp : IpAddress) : TcpSocket :=
  { tcpSocketAllocated with
    localIp := listenerIp
    localPort := segment.dstPort
    remoteIp := srcIp
    remotePort := segment.srcPort
    state := .listen
    parent := some listener }

/-- The segment `host_receive` sends back, if any. -/
def tcpReply (outcome : TcpReceive) : Option TcpSegment :=
  if outcome.accepted && outcome.response.flags != 0 && 0 < outcome.response.srcPort then
    some outcome.response
  else
    none

/-- `tcp_socket_receive_segment` on one slot, with the reply. -/
def hostDeliverTcp (sockets : TcpTable) (slot : Fin tcpMaxSockets) (segment : TcpSegment)
    (srcIp dstIp : IpAddress) : TcpTable × Option TcpSegment :=
  let outcome := tcpSocketReceiveSegment (sockets slot) segment srcIp dstIp tcpInit
  (Function.update sockets slot outcome.socket, tcpReply outcome)

/-- `host_receive` on a parsed TCP segment addressed to the host: the slots after it, and the segment
sent back. -/
def hostReceiveTcp (sockets : TcpTable) (ipAddress : IpAddress) (segment : TcpSegment)
    (srcIp dstIp : IpAddress) : TcpTable × Option TcpSegment :=
  if tcpValidateChecksum segment srcIp dstIp then
    match tcpSocketFind sockets ipAddress segment.dstPort srcIp segment.srcPort with
    | none => (sockets, none)
    | some slot =>
        if (sockets slot).isListening && tcpIsOpeningSyn segment then
          match tcpSocketAlloc sockets with
          | none => (sockets, none)
          | some (child, sockets) =>
              hostDeliverTcp
                (Function.update sockets child
                  (tcpChildSocket slot (sockets slot).localIp segment srcIp))
                child segment srcIp dstIp
        else
          hostDeliverTcp sockets slot segment srcIp dstIp
  else
    (sockets, none)

end MagiStack
