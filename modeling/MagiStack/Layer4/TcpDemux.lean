import MagiStack.Layer4.SourcePort
import MagiStack.Layer4.TcpAdvance
import MagiStack.Layer4.TcpHost
import MagiStack.Library.KeyedSlots

/-!
# TcpDemux — which socket a segment belongs to

The tuple of a socket is its two addresses and ports, while it is in use, not listening and not CLOSED.
`tcp_socket_find`, `tcp_socket_select_source_port` and the child that `host_receive` sets up each ask in
their own way whether a tuple is taken; here each of them is shown to keep the tuples of a table apart
and its listeners as they are.
-/

namespace MagiStack

open KeyedSlots

/-! ## Tuples -/

/-- Local and remote address, by their octets, and ports. -/
structure TcpTuple where
  localIp : List UInt8
  localPort : UInt16
  remoteIp : List UInt8
  remotePort : UInt16
  deriving DecidableEq

/-- The tuple of a socket that is in use, not listening and not CLOSED. -/
def TcpSocket.tuple (socket : TcpSocket) : Option TcpTuple :=
  if socket.inUse && !socket.isListening && socket.state != .closed then
    some
      { localIp := socket.localIp.octets
        localPort := socket.localPort
        remoteIp := socket.remoteIp.octets
        remotePort := socket.remotePort }
  else
    none

/-- The tuple of a segment that arrives at a host. -/
def TcpSegment.tuple (segment : TcpSegment) (ipAddress srcIp : IpAddress) : TcpTuple :=
  { localIp := ipAddress.octets
    localPort := segment.dstPort
    remoteIp := srcIp.octets
    remotePort := segment.srcPort }

/-- What keeps the sockets of a host apart. -/
structure TcpDemux (sockets : TcpTable) : Prop where
  unique : Unique TcpSocket.tuple sockets
  listening : ∀ i, (sockets i).isListening = true → (sockets i).state = .listen

theorem TcpSocket.tuple_of_listening {socket : TcpSocket} (h : socket.isListening = true) :
    socket.tuple = none := by
  simp [TcpSocket.tuple, h]

theorem TcpSocket.tuple_of_closed {socket : TcpSocket} (h : socket.state = .closed) :
    socket.tuple = none := by
  simp [TcpSocket.tuple, h]

/-- The first loop of `tcp_socket_find` looks for the tuple of the segment. -/
theorem tcpSocketMatches_iff {socket : TcpSocket} {segment : TcpSegment}
    {ipAddress srcIp : IpAddress} :
    tcpSocketMatches socket ipAddress segment.dstPort srcIp segment.srcPort = true ↔
      socket.tuple = some (segment.tuple ipAddress srcIp) := by
  simp only [tcpSocketMatches, TcpSocket.tuple, TcpSegment.tuple, ipOctetsEqualPublic]
  constructor
  · intro h
    simp only [Bool.and_eq_true, beq_iff_eq] at h
    rcases h with ⟨⟨⟨⟨hopen, hlocalIp⟩, hlocalPort⟩, hremoteIp⟩, hremotePort⟩
    rw [if_pos (by simpa using hopen), hlocalIp, hlocalPort, hremoteIp, hremotePort]
  · intro h
    split at h
    · rename_i hopen
      have htuple := Option.some.inj h
      simp only [TcpTuple.mk.injEq] at htuple
      simp only [hopen, htuple, beq_self_eq_true, Bool.and_true]
    · cases h

/-- The slot of a segment's tuple is the slot `tcp_socket_find` returns. -/
theorem tcpSocketFind_of_tuple {sockets : TcpTable} (h : TcpDemux sockets) {segment : TcpSegment}
    {ipAddress srcIp : IpAddress} {i : Fin tcpMaxSockets}
    (hi : (sockets i).tuple = some (segment.tuple ipAddress srcIp)) :
    tcpSocketFind sockets ipAddress segment.dstPort srcIp segment.srcPort = some i := by
  have hunique : ∀ j, tcpSocketMatches (sockets j) ipAddress segment.dstPort srcIp
      segment.srcPort = true → j = i :=
    fun j hj => h.unique j i _ (tcpSocketMatches_iff.mp hj) hi
  rw [tcpSocketFind, tcpFirstSlot_eq_of_unique (tcpSocketMatches_iff.mpr hi) hunique]
  rfl

/-- Without such a slot it returns a listener. -/
theorem tcpSocketFind_listener {sockets : TcpTable} {segment : TcpSegment}
    {ipAddress srcIp : IpAddress} {i : Fin tcpMaxSockets}
    (hnone : ∀ j, (sockets j).tuple ≠ some (segment.tuple ipAddress srcIp))
    (hfind : tcpSocketFind sockets ipAddress segment.dstPort srcIp segment.srcPort = some i) :
    tcpSocketListens (sockets i) ipAddress segment.dstPort = true := by
  have hfirst : tcpFirstSlot (fun j =>
      tcpSocketMatches (sockets j) ipAddress segment.dstPort srcIp segment.srcPort) = none :=
    tcpFirstSlot_none_of_forall fun j =>
      Bool.eq_false_iff.mpr fun hj => hnone j (tcpSocketMatches_iff.mp hj)
  rw [tcpSocketFind, hfirst, Option.none_or] at hfind
  exact tcpFirstSlot_eq_some hfind

/-! ## One socket -/

/-- A socket after a call or a segment: its tuple is gone or the same, and it listens no more and no
differently than before. -/
structure TcpSettles (before after : TcpSocket) : Prop where
  tuple : after.tuple = none ∨ after.tuple = before.tuple
  listening : after.isListening = true →
    before.isListening = true ∧ after.state = before.state

theorem tcpSettles_refl (socket : TcpSocket) : TcpSettles socket socket where
  tuple := Or.inr rfl
  listening := fun h => ⟨h, rfl⟩

theorem tcpSettles_free (socket : TcpSocket) : TcpSettles socket tcpSocketFree where
  tuple := Or.inl rfl
  listening := fun h => nomatch h

/-- The fields a tuple is made of, apart from the state. -/
def TcpSocket.identity (socket : TcpSocket) :
    Bool × Bool × IpAddress × UInt16 × IpAddress × UInt16 :=
  (socket.inUse, socket.isListening, socket.localIp, socket.localPort, socket.remoteIp,
    socket.remotePort)

theorem TcpSocket.tuple_of_identity {before after : TcpSocket}
    (hidentity : after.identity = before.identity) (hopen : before.state ≠ .closed)
    (hafter : after.state ≠ .closed) : after.tuple = before.tuple := by
  simp only [TcpSocket.identity, Prod.mk.injEq] at hidentity
  rcases hidentity with ⟨huse, hlisten, hlocalIp, hlocalPort, hremoteIp, hremotePort⟩
  simp only [TcpSocket.tuple, huse, hlisten, hlocalIp, hlocalPort, hremoteIp, hremotePort,
    bne_iff_ne, ne_eq, Bool.and_eq_true, hafter, hopen, not_false_eq_true]

/-- A connection whose state alone changes, and not from CLOSED. -/
theorem tcpSettles_of_identity {before after : TcpSocket} (hidentity : after.identity = before.identity)
    (hlistening : before.isListening = false)
    (hstate : before.state = .closed → after.state = .closed) : TcpSettles before after := by
  refine ⟨?_, fun h => ?_⟩
  · by_cases hclosed : after.state = .closed
    · exact Or.inl (TcpSocket.tuple_of_closed hclosed)
    · exact Or.inr (TcpSocket.tuple_of_identity hidentity (fun h => hclosed (hstate h)) hclosed)
  · have hlisten : after.isListening = before.isListening :=
      congrArg (fun fields => fields.2.1) hidentity
    rw [hlisten, hlistening] at h
    cases h

/-- The fields that a segment leaves alone. -/
def TcpSocket.fixed (socket : TcpSocket) :
    (Bool × Bool × IpAddress × UInt16 × IpAddress × UInt16) × Option (Fin tcpMaxSockets) :=
  (socket.identity, socket.parent)

theorem tcpBufferPayload_fixed (socket : TcpSocket) (seqNum : UInt32) (payload : List UInt8) :
    (tcpBufferPayload socket seqNum payload).2.fixed = socket.fixed := by
  rcases tcpBufferPayload_frame socket seqNum payload with ⟨_, _, _, h⟩
  rw [h]
  rfl

theorem tcpReceiveFin_fixed (socket : TcpSocket) (segment : TcpSegment) (next : TcpState) :
    (tcpReceiveFin socket segment next).socket.fixed = socket.fixed := by
  rw [tcpReceiveFin]
  split
  all_goals rfl

theorem tcpReceiveSynReceived_fixed (socket : TcpSocket) (segment response : TcpSegment) :
    (tcpReceiveSynReceived socket segment response).socket.fixed = socket.fixed := by
  rw [tcpReceiveSynReceived]
  split
  · simp only
    split
    · rfl
    · exact tcpBufferPayload_fixed _ segment.seqNum segment.payload
  · rfl

theorem tcpReceiveEstablished_fixed (socket : TcpSocket) (segment response : TcpSegment) :
    (tcpReceiveEstablished socket segment response).socket.fixed = socket.fixed := by
  have hack : (if segment.hasFlag tcpFlagAck then tcpAcknowledgeData socket segment.ackNum
      else socket).fixed = socket.fixed := by
    split
    · rcases tcpAcknowledgeData_frame socket segment.ackNum with ⟨_, _, h⟩
      rw [h]
      rfl
    · rfl
  simp only [tcpReceiveEstablished]
  generalize (if segment.hasFlag tcpFlagAck then tcpAcknowledgeData socket segment.ackNum
    else socket) = acknowledged at hack ⊢
  have hbuffered := (tcpBufferPayload_fixed acknowledged segment.seqNum segment.payload).trans hack
  split
  · exact (tcpReceiveFin_fixed _ segment .closeWait).trans hbuffered
  · split
    · exact hbuffered
    · split
      all_goals exact hbuffered

theorem tcpReceiveFinWait1_fixed (socket : TcpSocket) (segment response : TcpSegment) :
    (tcpReceiveFinWait1 socket segment response).socket.fixed = socket.fixed := by
  have hbuffered := tcpBufferPayload_fixed socket segment.seqNum segment.payload
  simp only [tcpReceiveFinWait1]
  split
  · exact (tcpReceiveFin_fixed _ segment _).trans hbuffered
  · split
    · exact hbuffered
    · split
      all_goals exact hbuffered

theorem tcpReceiveFinWait2_fixed (socket : TcpSocket) (segment response : TcpSegment) :
    (tcpReceiveFinWait2 socket segment response).socket.fixed = socket.fixed := by
  have hbuffered := tcpBufferPayload_fixed socket segment.seqNum segment.payload
  simp only [tcpReceiveFinWait2]
  split
  · exact (tcpReceiveFin_fixed _ segment .timeWait).trans hbuffered
  · split
    all_goals exact hbuffered

/-- A segment leaves a socket its fixed fields, or frees it after its last acknowledgement. -/
theorem tcpSocketReceiveSegment_fixed (socket : TcpSocket) (segment : TcpSegment)
    (srcIp dstIp : IpAddress) (response : TcpSegment) :
    (tcpSocketReceiveSegment socket segment srcIp dstIp response).socket.fixed =
        socket.fixed ∨
      (tcpSocketReceiveSegment socket segment srcIp dstIp response).socket = tcpSocketFree := by
  rw [tcpSocketReceiveSegment]
  split
  · rw [tcpReceiveByState]
    cases socket.state with
    | listen =>
        refine Or.inl ?_
        simp only [tcpReceiveListen]
        split
        all_goals rfl
    | synSent =>
        refine Or.inl ?_
        simp only [tcpReceiveSynSent]
        split
        all_goals rfl
    | synReceived => exact Or.inl (tcpReceiveSynReceived_fixed socket segment response)
    | established => exact Or.inl (tcpReceiveEstablished_fixed socket segment response)
    | finWait1 => exact Or.inl (tcpReceiveFinWait1_fixed socket segment response)
    | finWait2 => exact Or.inl (tcpReceiveFinWait2_fixed socket segment response)
    | closing =>
        refine Or.inl ?_
        simp only [tcpReceiveClosing]
        split
        all_goals rfl
    -- The last acknowledgement frees the socket.
    | lastAck =>
        simp only [tcpReceiveLastAck]
        split
        · exact Or.inr rfl
        · exact Or.inl rfl
    | timeWait => exact Or.inl rfl
    | closed => exact Or.inl rfl
    | closeWait => exact Or.inl rfl
  · exact Or.inl rfl

theorem tcpSocketReceiveSegment_identity (socket : TcpSocket) (segment : TcpSegment)
    (srcIp dstIp : IpAddress) (response : TcpSegment) :
    (tcpSocketReceiveSegment socket segment srcIp dstIp response).socket.identity =
        socket.identity ∨
      (tcpSocketReceiveSegment socket segment srcIp dstIp response).socket = tcpSocketFree :=
  (tcpSocketReceiveSegment_fixed socket segment srcIp dstIp response).imp_left (congrArg Prod.fst)

theorem tcpSocketReceiveSegment_settles {socket : TcpSocket} (hlistening : socket.isListening = false)
    (segment : TcpSegment) (srcIp dstIp : IpAddress) (response : TcpSegment) :
    TcpSettles socket (tcpSocketReceiveSegment socket segment srcIp dstIp response).socket := by
  rcases tcpSocketReceiveSegment_identity socket segment srcIp dstIp response with hsame | hfree
  · refine tcpSettles_of_identity hsame hlistening fun hclosed => ?_
    rw [tcpSocketReceiveSegment]
    split
    · rw [tcpReceiveByState, hclosed]
      exact hclosed
    · exact hclosed
  · rw [hfree]
    exact tcpSettles_free socket

/-- A listening socket answers only what opens a connection. -/
theorem tcpSocketReceiveSegment_listening {socket : TcpSocket} (hstate : socket.state = .listen)
    {segment : TcpSegment} (hopening : tcpIsOpeningSyn segment = false) (srcIp dstIp : IpAddress)
    (response : TcpSegment) :
    (tcpSocketReceiveSegment socket segment srcIp dstIp response).socket = socket := by
  rw [tcpSocketReceiveSegment]
  split
  · simp only [tcpReceiveByState, hstate, tcpReceiveListen, hopening, Bool.false_eq_true, if_false]
    rfl
  · rfl

theorem magiSendTcp_settles {socket socket' : TcpSocket} {data : List UInt8} {segment : TcpSegment}
    (h : magiSendTcp socket data = some (socket', segment)) : TcpSettles socket socket' := by
  obtain ⟨-, sendBuffer, rfl, -⟩ := magiSendTcp_eq_some h
  exact ⟨Or.inr rfl, fun hlisten => ⟨hlisten, rfl⟩⟩

theorem tcpSocketRecv_settles (socket : TcpSocket) (maxLen : Nat) :
    TcpSettles socket (tcpSocketRecv socket maxLen).2 := by
  rw [tcpSocketRecv]
  split
  · exact tcpSettles_refl socket
  · exact ⟨Or.inr rfl, fun hlisten => ⟨hlisten, rfl⟩⟩

/-- `magi_close` on a connection or a listener; a listener is freed. -/
theorem magiCloseTcp_settles {socket : TcpSocket}
    (hlistening : socket.isListening = true → socket.state = .listen) :
    TcpSettles socket (magiCloseTcp socket).1 := by
  by_cases hlisten : socket.isListening = true
  · rw [magiCloseTcp, hlistening hlisten]
    exact tcpSettles_free socket
  · have hnot := Bool.eq_false_iff.mpr hlisten
    rw [magiCloseTcp]
    cases hstate : socket.state
    case established | closeWait =>
      refine tcpSettles_of_identity ?_ hnot fun hclosed => ?_
      · simp only [tcpSocketClose, hstate]
        rfl
      · cases hstate.symm.trans hclosed
    case closed | listen | synSent | synReceived => exact tcpSettles_free socket
    all_goals exact tcpSettles_refl socket

/-! ## The table -/

namespace TcpDemux

variable {sockets : TcpTable}

/-- A call or a segment at one slot. -/
theorem settle (h : TcpDemux sockets) {i : Fin tcpMaxSockets} {socket : TcpSocket}
    (hsettles : TcpSettles (sockets i) socket) : TcpDemux (Function.update sockets i socket) where
  unique := h.unique.update_keep hsettles.tuple
  listening := by
    intro j hj
    by_cases hji : j = i
    · rw [hji, Function.update_self] at hj ⊢
      rcases hsettles.listening hj with ⟨hbefore, hstate⟩
      rw [hstate]
      exact h.listening i hbefore
    · rw [Function.update_of_ne hji] at hj ⊢
      exact h.listening j hj

/-- A connection with a tuple that no other slot has. -/
theorem connect (h : TcpDemux sockets) {i : Fin tcpMaxSockets} {socket : TcpSocket}
    (hlistening : socket.isListening = false)
    (hfresh : ∀ tuple, socket.tuple = some tuple → ∀ j, j ≠ i → (sockets j).tuple ≠ some tuple) :
    TcpDemux (Function.update sockets i socket) where
  unique := h.unique.update hfresh
  listening := by
    intro j hj
    by_cases hji : j = i
    · rw [hji, Function.update_self, hlistening] at hj
      cases hj
    · rw [Function.update_of_ne hji] at hj ⊢
      exact h.listening j hj

theorem listen (h : TcpDemux sockets) (i : Fin tcpMaxSockets) (localIp : IpAddress) (port : UInt16) :
    TcpDemux (Function.update sockets i (tcpSocketListen tcpSocketAllocated localIp port)) where
  unique := h.unique.update_keep (Or.inl rfl)
  listening := by
    intro j hj
    by_cases hji : j = i
    · rw [hji, Function.update_self]
      rfl
    · rw [Function.update_of_ne hji] at hj ⊢
      exact h.listening j hj

theorem alloc (h : TcpDemux sockets) (i : Fin tcpMaxSockets) :
    TcpDemux (Function.update sockets i tcpSocketAllocated) :=
  h.settle ⟨Or.inl rfl, fun hlisten => nomatch hlisten⟩

end TcpDemux

/-- The port `tcp_socket_select_source_port` picks is in no tuple with the remote end. -/
theorem tcpSocketSelectSourcePort_fresh {sockets : TcpTable} {remoteIp : IpAddress}
    {remotePort preferredPort port : UInt16}
    (hport : tcpSocketSelectSourcePort sockets remoteIp remotePort preferredPort = port) (hne : port ≠ 0)
    {i : Fin tcpMaxSockets} {tuple : TcpTuple} (hi : (sockets i).tuple = some tuple) :
    ¬ (tuple.localPort = port ∧ tuple.remotePort = remotePort ∧ tuple.remoteIp = remoteIp.octets) := by
  have hfree := ((tcpSocketSelectSourcePortAmong_eq_iff _ _ _ _ hne).mp hport).2.1
  rintro ⟨hlocal, hremote, haddress⟩
  rw [TcpSocket.tuple] at hi
  split at hi
  · rename_i hopen
    cases hi
    simp only [Bool.and_eq_true, bne_iff_ne, ne_eq] at hopen
    have hused : tcpPortUsed (List.ofFn sockets) remoteIp remotePort port = true :=
      (tcpPortUsed_iff _ _ _ _).mpr
        ⟨sockets i, List.mem_ofFn.mpr ⟨i, rfl⟩, hopen.1.1, hopen.2, hlocal, hremote, haddress⟩
    rw [hfree] at hused
    cases hused
  · cases hi

/-! ## Arriving segments -/

/-- The slot handed out is free, or holds a connection in TIME_WAIT. -/
theorem tcpAllocSlot_spec {sockets : TcpTable} {child : Fin tcpMaxSockets}
    (halloc : tcpAllocSlot sockets = some child) :
    (sockets child).inUse = false ∨
      (sockets child).isListening = false ∧ (sockets child).state = .timeWait := by
  rw [tcpAllocSlot, Option.or_eq_some_iff] at halloc
  rcases halloc with hfree | ⟨-, hwait⟩
  · have hfound := tcpFirstSlot_eq_some hfree
    exact Or.inl (by simpa using hfound)
  · have hfound := tcpFirstSlot_eq_some hwait
    simp only [Bool.and_eq_true, beq_iff_eq, Bool.not_eq_true'] at hfound
    exact Or.inr ⟨hfound.1.2, hfound.2⟩

/-- What `host_receive` may do to the sockets of a host on a segment. -/
structure TcpDemultiplexed (sockets : TcpTable) (ipAddress : IpAddress) (segment : TcpSegment)
    (srcIp dstIp : IpAddress) (after : TcpTable) : Prop where
  /-- The socket of the segment's tuple processes it. -/
  connection : ∀ i, (sockets i).tuple = some (segment.tuple ipAddress srcIp) →
    after = Function.update sockets i
      (tcpSocketReceiveSegment (sockets i) segment srcIp dstIp tcpInit).socket
  /-- When there is none, a new child of a listener does, on an opening SYN only. -/
  child : (∀ i, (sockets i).tuple ≠ some (segment.tuple ipAddress srcIp)) →
    after = sockets ∨
      tcpIsOpeningSyn segment = true ∧ ∃ listener child,
        tcpSocketListens (sockets listener) ipAddress segment.dstPort = true ∧
        tcpAllocSlot sockets = some child ∧
        after = Function.update sockets child
          (tcpSocketReceiveSegment
            (tcpChildSocket listener (sockets listener).localIp segment srcIp) segment srcIp dstIp
            tcpInit).socket
  /-- A listener stays as it is, in LISTEN. -/
  listener : ∀ i, (sockets i).inUse = true → (sockets i).isListening = true →
    (sockets i).state = .listen ∧ after i = sockets i

/-- A host with a segment for a listener that opens a connection. -/
theorem hostReceiveTcp_opening {sockets : TcpTable} {ipAddress : IpAddress} {segment : TcpSegment}
    {srcIp dstIp : IpAddress} {i child : Fin tcpMaxSockets}
    (hvalid : tcpValidateChecksum segment srcIp dstIp = true)
    (hfind : tcpSocketFind sockets ipAddress segment.dstPort srcIp segment.srcPort = some i)
    (hlistening : (sockets i).isListening = true) (huse : (sockets i).inUse = true)
    (hopening : tcpIsOpeningSyn segment = true) (halloc : tcpAllocSlot sockets = some child) :
    (hostReceiveTcp sockets ipAddress segment srcIp dstIp).1 =
      Function.update sockets child
        (tcpSocketReceiveSegment (tcpChildSocket i (sockets i).localIp segment srcIp) segment srcIp
          dstIp tcpInit).socket := by
  have hne : i ≠ child := by
    rintro rfl
    rcases tcpAllocSlot_spec halloc with hfree | ⟨hnot, -⟩
    · cases huse.symm.trans hfree
    · cases hlistening.symm.trans hnot
  rw [hostReceiveTcp, if_pos hvalid, hfind]
  simp only [hlistening, hopening, Bool.and_self, if_true, tcpSocketAlloc, halloc, Option.map_some,
    hostDeliverTcp, Function.update_idem, Function.update_self, Function.update_of_ne hne]

/-- A segment for a connection is processed by its socket. -/
theorem TcpDemux.receive_connection {sockets : TcpTable} (h : TcpDemux sockets) {ipAddress : IpAddress}
    {segment : TcpSegment} {srcIp : IpAddress} (dstIp : IpAddress) {i : Fin tcpMaxSockets}
    (hi : (sockets i).tuple = some (segment.tuple ipAddress srcIp)) :
    (hostReceiveTcp sockets ipAddress segment srcIp dstIp).1 = Function.update sockets i
      (tcpSocketReceiveSegment (sockets i) segment srcIp dstIp tcpInit).socket := by
  by_cases hvalid : tcpValidateChecksum segment srcIp dstIp = true
  · rw [hostReceiveTcp_connection hvalid (tcpSocketMatches_iff.mpr hi) fun j hj =>
      h.unique j i _ (tcpSocketMatches_iff.mp hj) hi]
    rfl
  · rw [hostReceiveTcp, if_neg hvalid, tcpSocketReceiveSegment, if_neg hvalid]
    exact (Function.update_eq_self i sockets).symm

/-- A segment for no connection leaves the table, or makes a child of a listener. -/
theorem TcpDemux.receive_opening {sockets : TcpTable} (h : TcpDemux sockets) {ipAddress : IpAddress}
    {segment : TcpSegment} {srcIp : IpAddress} (dstIp : IpAddress)
    (hnone : ∀ i, (sockets i).tuple ≠ some (segment.tuple ipAddress srcIp)) :
    (hostReceiveTcp sockets ipAddress segment srcIp dstIp).1 = sockets ∨
      tcpIsOpeningSyn segment = true ∧ ∃ listener child,
        tcpSocketListens (sockets listener) ipAddress segment.dstPort = true ∧
        tcpAllocSlot sockets = some child ∧
        (hostReceiveTcp sockets ipAddress segment srcIp dstIp).1 =
          Function.update sockets child
            (tcpSocketReceiveSegment
              (tcpChildSocket listener (sockets listener).localIp segment srcIp) segment srcIp
              dstIp tcpInit).socket := by
  by_cases hvalid : tcpValidateChecksum segment srcIp dstIp = true
  · cases hfind : tcpSocketFind sockets ipAddress segment.dstPort srcIp segment.srcPort with
    | none => exact Or.inl (by rw [hostReceiveTcp, if_pos hvalid, hfind])
    | some i =>
        have hlistens := tcpSocketFind_listener hnone hfind
        have hfields := hlistens
        simp only [tcpSocketListens, Bool.and_eq_true] at hfields
        rcases hfields with ⟨⟨⟨huse, hlistening⟩, -⟩, -⟩
        by_cases hopening : tcpIsOpeningSyn segment = true
        · cases halloc : tcpAllocSlot sockets with
          | none =>
              refine Or.inl ?_
              rw [hostReceiveTcp, if_pos hvalid, hfind]
              simp only [hlistening, hopening, Bool.and_self, if_true, tcpSocketAlloc, halloc,
                Option.map_none]
          | some child =>
              exact Or.inr ⟨hopening, i, child, hlistens, rfl,
                hostReceiveTcp_opening hvalid hfind hlistening huse hopening halloc⟩
        · -- The listener itself gets the segment, and ignores it.
          have hnot := Bool.eq_false_iff.mpr hopening
          refine Or.inl ?_
          rw [hostReceiveTcp, if_pos hvalid, hfind]
          simp only [hnot, Bool.and_false, Bool.false_eq_true, if_false, hostDeliverTcp,
            tcpSocketReceiveSegment_listening (h.listening i hlistening) hnot]
          exact Function.update_eq_self i sockets
  · exact Or.inl (by rw [hostReceiveTcp, if_neg hvalid])

/-- `host_receive` demultiplexes every segment. -/
theorem hostReceiveTcp_demultiplexed {sockets : TcpTable} (h : TcpDemux sockets)
    (ipAddress : IpAddress) (segment : TcpSegment) (srcIp dstIp : IpAddress) :
    TcpDemultiplexed sockets ipAddress segment srcIp dstIp
      (hostReceiveTcp sockets ipAddress segment srcIp dstIp).1 := by
  refine ⟨fun i hi => h.receive_connection dstIp hi, h.receive_opening dstIp,
    fun i huse hlistening => ⟨h.listening i hlistening, ?_⟩⟩
  by_cases htuple : ∃ j, (sockets j).tuple = some (segment.tuple ipAddress srcIp)
  · rcases htuple with ⟨j, hj⟩
    have hne : i ≠ j := by
      rintro rfl
      cases (TcpSocket.tuple_of_listening hlistening).symm.trans hj
    rw [h.receive_connection dstIp hj, Function.update_of_ne hne]
  · rcases h.receive_opening dstIp (fun j hj => htuple ⟨j, hj⟩) with
      hsame | ⟨-, listener, child, -, halloc, hafter⟩
    · rw [hsame]
    · -- A listener is not handed out.
      have hne : i ≠ child := by
        rintro rfl
        rcases tcpAllocSlot_spec halloc with hfree | ⟨hnot, -⟩
        · cases huse.symm.trans hfree
        · cases hlistening.symm.trans hnot
      rw [hafter, Function.update_of_ne hne]

/-- A segment keeps the tuples of a host apart. -/
theorem TcpDemux.receive {sockets : TcpTable} (h : TcpDemux sockets) (ipAddress : IpAddress)
    (segment : TcpSegment) (srcIp dstIp : IpAddress) :
    TcpDemux (hostReceiveTcp sockets ipAddress segment srcIp dstIp).1 := by
  have hdemultiplexed := hostReceiveTcp_demultiplexed h ipAddress segment srcIp dstIp
  by_cases htuple : ∃ i, (sockets i).tuple = some (segment.tuple ipAddress srcIp)
  · rcases htuple with ⟨i, hi⟩
    have hlistening : (sockets i).isListening = false := by
      refine Bool.eq_false_iff.mpr fun hlisten => ?_
      cases (TcpSocket.tuple_of_listening hlisten).symm.trans hi
    rw [hdemultiplexed.connection i hi]
    exact h.settle (tcpSocketReceiveSegment_settles hlistening segment srcIp dstIp tcpInit)
  · have hnone : ∀ i, (sockets i).tuple ≠ some (segment.tuple ipAddress srcIp) :=
      fun i hi => htuple ⟨i, hi⟩
    rcases hdemultiplexed.child hnone with hsame | ⟨-, listener, child, hlistens, -, hafter⟩
    · rwa [hsame]
    · -- The child's tuple is the segment's, which no slot has.
      have hquiet : (tcpChildSocket listener (sockets listener).localIp segment srcIp).isListening =
          false := rfl
      have hsettles := tcpSocketReceiveSegment_settles hquiet segment srcIp dstIp tcpInit
      have hchild : (tcpChildSocket listener (sockets listener).localIp segment srcIp).tuple =
          some (segment.tuple ipAddress srcIp) := by
        simp only [tcpSocketListens, ipOctetsEqualPublic, Bool.and_eq_true, beq_iff_eq] at hlistens
        simp [TcpSocket.tuple, TcpSegment.tuple, tcpChildSocket, tcpSocketAllocated, tcpSocketFree,
          hlistens.1.2]
      rw [hafter]
      refine h.connect ?_ fun tuple hi j _ hj => ?_
      · refine Bool.eq_false_iff.mpr fun hlisten => ?_
        cases (hsettles.listening hlisten).1
      · rcases hsettles.tuple with hgone | hsame
        · cases hgone.symm.trans hi
        · rw [hsame, hchild] at hi
          exact hnone j (hj.trans hi.symm)

end MagiStack
