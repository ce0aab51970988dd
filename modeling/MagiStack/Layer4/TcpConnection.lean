import MagiStack.Layer4.TcpReceive
import MagiStack.Layer4.TcpTable

/-!
# TcpConnection — two sockets and the network between them

A client socket after `tcp_socket_connect` and its SYN, the child socket `host_receive` creates for
that SYN, and the segments each side has ever sent.  The network hands over any segment sent so far,
any number of times and in any order: delay, reordering, loss and duplication are all choices of
which deliveries happen.  Each end also carries a history of what its application and its socket did.
-/

namespace MagiStack

inductive TcpSide
  | client
  | server
  deriving DecidableEq, Repr

/-- The other side. -/
def TcpSide.peer : TcpSide → TcpSide
  | .client => .server
  | .server => .client

@[simp] theorem TcpSide.peer_peer (side : TcpSide) : side.peer.peer = side := by
  cases side <;> rfl

@[simp] theorem TcpSide.peer_ne (side : TcpSide) : side.peer ≠ side := by
  cases side <;> decide

/-- The addresses of the connection and the slot of the listener at the server. -/
structure TcpAddresses where
  ip : TcpSide → IpAddress
  port : TcpSide → UInt16
  listener : Fin tcpMaxSockets

/-- One end: its socket, and the history of this incarnation.  `iss` and `irs` are the initial
sequence numbers it sent and learned, `sent` the bytes of successful sends, `delivered` the bytes
`tcp_socket_recv` returned, `entered` all bytes that ever reached `recv_buffer.data`, and `freedFrom`
the state in which the socket was freed. -/
structure TcpEnd where
  socket : TcpSocket
  iss : Option UInt32
  irs : Option UInt32
  sent : List UInt8
  delivered : List UInt8
  entered : List UInt8
  finSent : Bool
  freedFrom : Option TcpState

/-- Both ends, and the segments each side has sent so far. -/
structure TcpWorld where
  ends : TcpSide → TcpEnd
  net : TcpSide → List TcpSegment

/-! ## Ends -/

/-- The states a socket reaches by consuming its peer's FIN. -/
def TcpState.finConsumed : TcpState → Bool
  | .closeWait | .lastAck | .closing | .timeWait => true
  | _ => false

namespace TcpEnd

/-- An end without socket and history. -/
def absent : TcpEnd :=
  { socket := tcpSocketFree
    iss := none
    irs := none
    sent := []
    delivered := []
    entered := []
    finSent := false
    freedFrom := none }

/-- Replace the socket and bring the history up to date. -/
def withSocket (e : TcpEnd) (socket : TcpSocket) : TcpEnd :=
  { e with
    socket := socket
    entered := if socket.inUse then e.delivered ++ socket.recvBuffer.data else e.entered
    freedFrom := if e.socket.inUse && !socket.inUse then some e.socket.state else e.freedFrom }

@[simp] theorem withSocket_socket (e : TcpEnd) (socket : TcpSocket) :
    (e.withSocket socket).socket = socket := rfl

@[simp] theorem withSocket_iss (e : TcpEnd) (socket : TcpSocket) :
    (e.withSocket socket).iss = e.iss := rfl

@[simp] theorem withSocket_irs (e : TcpEnd) (socket : TcpSocket) :
    (e.withSocket socket).irs = e.irs := rfl

@[simp] theorem withSocket_sent (e : TcpEnd) (socket : TcpSocket) :
    (e.withSocket socket).sent = e.sent := rfl

@[simp] theorem withSocket_delivered (e : TcpEnd) (socket : TcpSocket) :
    (e.withSocket socket).delivered = e.delivered := rfl

@[simp] theorem withSocket_finSent (e : TcpEnd) (socket : TcpSocket) :
    (e.withSocket socket).finSent = e.finSent := rfl

theorem withSocket_self {e : TcpEnd} (huse : e.socket.inUse = true)
    (hentered : e.entered = e.delivered ++ e.socket.recvBuffer.data) :
    e.withSocket e.socket = e := by
  simp only [withSocket, huse, if_true, ← hentered]
  rfl

/-- After the application sent `data`. -/
def afterSend (e : TcpEnd) (socket : TcpSocket) (data : List UInt8) : TcpEnd :=
  { e.withSocket socket with sent := e.sent ++ data }

/-- After `tcp_socket_recv` with room for `maxLen` bytes. -/
def afterRecv (e : TcpEnd) (maxLen : Nat) : TcpEnd :=
  let out := tcpSocketRecv e.socket maxLen
  { e with delivered := e.delivered ++ out.1 }.withSocket out.2

/-- After `magi_close`. -/
def afterClose (e : TcpEnd) : TcpEnd :=
  let out := magiCloseTcp e.socket
  { e.withSocket out.1 with finSent := e.finSent || out.2.isSome }

/-- After an arriving segment.  A socket that was waiting for a SYN learns the peer's number from
it, and a child chooses its own then. -/
def afterReceive (e : TcpEnd) (segment : TcpSegment) (outcome : TcpReceive) : TcpEnd :=
  { e.withSocket outcome.socket with
    iss :=
      if outcome.accepted && e.socket.state == .listen then some outcome.socket.sendSeq else e.iss
    irs :=
      if outcome.accepted && (e.socket.state == .listen || e.socket.state == .synSent) then
        some segment.seqNum
      else
        e.irs }

theorem afterReceive_eq_withSocket {e : TcpEnd} {segment : TcpSegment} {outcome : TcpReceive}
    (h : outcome.accepted = false ∨ e.socket.state ≠ .listen ∧ e.socket.state ≠ .synSent) :
    e.afterReceive segment outcome = e.withSocket outcome.socket := by
  have hlisten : (outcome.accepted && e.socket.state == .listen) = false := by
    obtain haccepted | ⟨hstate, -⟩ := h
    · rw [haccepted, Bool.false_and]
    · simp [hstate]
  have hopening : (outcome.accepted &&
      (e.socket.state == .listen || e.socket.state == .synSent)) = false := by
    obtain haccepted | ⟨hstate, hstate'⟩ := h
    · rw [haccepted, Bool.false_and]
    · simp [hstate, hstate']
  rw [afterReceive, hlisten, hopening]
  rfl

/-- The end has consumed its peer's FIN. -/
def finConsumed (e : TcpEnd) : Bool :=
  e.socket.state.finConsumed || e.freedFrom == some .lastAck

/-- The sequence numbers `recv_seq` has moved past: the bytes that entered and the FIN. -/
def recvCount (e : TcpEnd) : Nat :=
  e.entered.length + if e.finConsumed then 1 else 0

end TcpEnd

/-! ## Steps -/

inductive TcpAction
  | send (side : TcpSide) (data : List UInt8)
  | recv (side : TcpSide) (maxLen : Nat)
  | close (side : TcpSide)
  | deliver (receiver : TcpSide) (index : Nat)
  deriving DecidableEq, Repr

namespace TcpWorld

/-- The client has connected and sent its SYN. -/
def initial (addresses : TcpAddresses) : TcpWorld :=
  let socket :=
    tcpSocketConnect tcpSocketAllocated (addresses.ip .client) (addresses.port .client)
      (addresses.ip .server) (addresses.port .server)
  { ends := fun
      | .client => { TcpEnd.absent with socket := socket, iss := some socket.sendSeq }
      | .server => TcpEnd.absent
    net := fun
      | .client => [tcpSynSegment socket]
      | .server => [] }

/-- Replace one end and add the segments it sends. -/
def update (w : TcpWorld) (side : TcpSide) (e : TcpEnd) (out : List TcpSegment) : TcpWorld :=
  { ends := Function.update w.ends side e
    net := Function.update w.net side (w.net side ++ out) }

/-- The end to which `host_receive` hands a segment: the connection with its tuple, or a new child
when the listener receives the opening SYN and this incarnation has not begun. -/
def receiver (addresses : TcpAddresses) (w : TcpWorld) (side : TcpSide) (segment : TcpSegment) :
    Option TcpEnd :=
  let srcIp := (addresses.ip side.peer).withoutPrefix
  let e := w.ends side
  if tcpSocketMatches e.socket (addresses.ip side) segment.dstPort srcIp segment.srcPort then
    some e
  else if side = .server ∧ e.iss = none ∧ segment.dstPort = addresses.port .server ∧
      tcpIsOpeningSyn segment = true then
    some
      { e with
        socket := tcpChildSocket addresses.listener (addresses.ip .server) segment srcIp }
  else
    none

/-- `host_receive` on a segment at one side. -/
def deliver (addresses : TcpAddresses) (w : TcpWorld) (side : TcpSide) (segment : TcpSegment) :
    TcpWorld :=
  let srcIp := (addresses.ip side.peer).withoutPrefix
  let dstIp := (addresses.ip side).withoutPrefix
  if tcpValidateChecksum segment srcIp dstIp then
    match w.receiver addresses side segment with
    | none => w
    | some e =>
        let outcome := tcpSocketReceiveSegment e.socket segment srcIp dstIp tcpInit
        w.update side (e.afterReceive segment outcome) (tcpReply outcome).toList
  else
    w

/-- One step; a call that fails and a delivery of no segment change nothing. -/
def step (addresses : TcpAddresses) (w : TcpWorld) : TcpAction → TcpWorld
  | .send side data =>
      match magiSendTcp (w.ends side).socket data with
      | none => w
      | some (socket, segment) => w.update side ((w.ends side).afterSend socket data) [segment]
  | .recv side maxLen => w.update side ((w.ends side).afterRecv maxLen) []
  | .close side =>
      w.update side (w.ends side).afterClose (magiCloseTcp (w.ends side).socket).2.toList
  | .deliver side index =>
      match (w.net side.peer)[index]? with
      | none => w
      | some segment => w.deliver addresses side segment

/-- The world after a list of actions. -/
def run (addresses : TcpAddresses) (actions : List TcpAction) : TcpWorld :=
  actions.foldl (step addresses) (initial addresses)

@[simp] theorem update_ends_self (w : TcpWorld) (side : TcpSide) (e : TcpEnd)
    (out : List TcpSegment) : (w.update side e out).ends side = e := by
  simp [update]

@[simp] theorem update_ends_peer (w : TcpWorld) (side : TcpSide) (e : TcpEnd)
    (out : List TcpSegment) : (w.update side e out).ends side.peer = w.ends side.peer := by
  simp [update]

@[simp] theorem update_net_self (w : TcpWorld) (side : TcpSide) (e : TcpEnd)
    (out : List TcpSegment) : (w.update side e out).net side = w.net side ++ out := by
  simp [update]

@[simp] theorem update_net_peer (w : TcpWorld) (side : TcpSide) (e : TcpEnd)
    (out : List TcpSegment) : (w.update side e out).net side.peer = w.net side.peer := by
  simp [update]

end TcpWorld

end MagiStack
