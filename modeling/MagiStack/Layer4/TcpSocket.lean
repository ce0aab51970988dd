import MagiStack.Layer4.Tcp

/-!
# TcpSocket — the connection state machine

Embedding of `layer4/tcp_socket.c` for one socket: the buffers, `tcp_buffer_payload`,
`tcp_acknowledge_data`, the calls of the application (`tcp_socket_connect`, `tcp_socket_listen`,
`tcp_socket_send`, `tcp_socket_recv`, `tcp_socket_close`) and `tcp_socket_receive_segment`, with one
definition for each state of its switch.
-/

namespace MagiStack

def tcpSocketBufferSize : Nat := 4096
abbrev tcpMaxSockets : Nat := 16

instance : NeZero tcpMaxSockets := ⟨by decide⟩

/-- `TCPSendBuffer`; the list holds the `size` bytes in use. -/
structure TcpSendBuffer where
  data : List UInt8
  startSeq : UInt32

/-- `TCPReceiveBuffer`; `data` holds the `size` bytes in use.  `pending` and `pendingValid` are
indexed from `recv_seq`. -/
structure TcpReceiveBuffer where
  data : List UInt8
  pending : Nat → UInt8
  pendingValid : Nat → Bool
  pendingCount : Nat

/-- `TCPSocket`; `parent` is the slot of the listener. -/
structure TcpSocket where
  inUse : Bool
  state : TcpState
  localIp : IpAddress
  localPort : UInt16
  remoteIp : IpAddress
  remotePort : UInt16
  sendSeq : UInt32
  recvSeq : UInt32
  sendAck : UInt32
  recvAck : UInt32
  sendBuffer : TcpSendBuffer
  recvBuffer : TcpReceiveBuffer
  isListening : Bool
  parent : Option (Fin tcpMaxSockets)
  hasData : Bool

/-- A socket after `memset(socket, 0, sizeof(TCPSocket))`: what `tcp_socket_free` leaves. -/
def tcpSocketFree : TcpSocket :=
  { inUse := false
    state := .closed
    localIp := ipZero
    localPort := 0
    remoteIp := ipZero
    remotePort := 0
    sendSeq := 0
    recvSeq := 0
    sendAck := 0
    recvAck := 0
    sendBuffer := { data := [], startSeq := 0 }
    recvBuffer :=
      { data := []
        pending := fun _ => 0
        pendingValid := fun _ => false
        pendingCount := 0 }
    isListening := false
    parent := none
    hasData := false }

/-! ## Receive buffer -/

/-- The part of a payload from `recv_seq` on, with its sequence number; `none` when every byte
precedes `recv_seq`. -/
def tcpTrimPayload (recvSeq seqNum : UInt32) (payload : List UInt8) :
    Option (UInt32 × List UInt8) :=
  if seqNum < recvSeq then
    let alreadyReceived := recvSeq - seqNum
    if payload.length ≤ alreadyReceived.toNat then
      none
    else
      some (seqNum + alreadyReceived, payload.drop alreadyReceived.toNat)
  else
    some (seqNum, payload)

namespace TcpReceiveBuffer

/-- The places `[offset, offset + len)` that hold no byte yet. -/
def newCount (buffer : TcpReceiveBuffer) (offset len : Nat) : Nat :=
  (List.range len).countP fun i => !buffer.pendingValid (offset + i)

/-- The loop that stores a payload from `pos` on, skipping the places already held. -/
def store (buffer : TcpReceiveBuffer) (pos : Nat) : List UInt8 → TcpReceiveBuffer
  | [] => buffer
  | byte :: rest =>
      if buffer.pendingValid pos then
        buffer.store (pos + 1) rest
      else
        { buffer with
          pending := Function.update buffer.pending pos byte
          pendingValid := Function.update buffer.pendingValid pos true
          pendingCount := buffer.pendingCount + 1 }.store (pos + 1) rest

/-- `while (ready < limit && pending_valid[ready]) ready++`, from `ready` with `fuel` places left. -/
def readyFrom (valid : Nat → Bool) : Nat → Nat → Nat
  | 0, ready => ready
  | fuel + 1, ready => if valid ready then readyFrom valid fuel (ready + 1) else ready

/-- The number of bytes that can move to `data`. -/
def ready (buffer : TcpReceiveBuffer) : Nat :=
  readyFrom buffer.pendingValid tcpSocketBufferSize 0

/-- The copy of `count` bytes to `data` and the shift of both arrays. -/
def moveReady (buffer : TcpReceiveBuffer) (count : Nat) : TcpReceiveBuffer :=
  { data := buffer.data ++ (List.range count).map buffer.pending
    pending := fun i =>
      if i + count < tcpSocketBufferSize then buffer.pending (i + count) else 0
    pendingValid := fun i =>
      if i + count < tcpSocketBufferSize then buffer.pendingValid (i + count) else false
    pendingCount := buffer.pendingCount - count }

end TcpReceiveBuffer

/-- The end of `tcp_buffer_payload`: the ready bytes move to `data` and `recv_seq` past them. -/
def tcpDeliverReady (socket : TcpSocket) (buffer : TcpReceiveBuffer) : TcpSocket :=
  let moved := if 0 < buffer.ready then buffer.moveReady buffer.ready else buffer
  { socket with
    recvBuffer := moved
    recvSeq := socket.recvSeq + UInt32.ofNat buffer.ready
    hasData := !moved.data.isEmpty }

/-- `tcp_buffer_payload`. -/
def tcpBufferPayload (socket : TcpSocket) (seqNum : UInt32) (payload : List UInt8) :
    Bool × TcpSocket :=
  if payload.isEmpty then
    (true, socket)
  else
    match tcpTrimPayload socket.recvSeq seqNum payload with
    | none => (true, socket)
    | some (seqNum, payload) =>
        let buffer := socket.recvBuffer
        let offset := (seqNum - socket.recvSeq).toNat
        if tcpSocketBufferSize ≤ offset ∨ tcpSocketBufferSize - offset < payload.length then
          (false, socket)
        else if tcpSocketBufferSize <
            buffer.data.length + buffer.pendingCount + buffer.newCount offset payload.length then
          (false, socket)
        else
          (true, tcpDeliverReady socket (buffer.store offset payload))

/-! ## Send buffer -/

/-- `tcp_acknowledge_data`. -/
def tcpAcknowledgeData (socket : TcpSocket) (ackNum : UInt32) : TcpSocket :=
  -- plain comparisons: numbers that have wrapped around are not in between
  if ackNum ≤ socket.sendAck ∨ socket.sendSeq < ackNum then
    socket
  else
    let acked := min (ackNum - socket.sendAck).toNat socket.sendBuffer.data.length
    { socket with
      sendBuffer :=
        if 0 < acked then
          { data := socket.sendBuffer.data.drop acked, startSeq := ackNum }
        else
          socket.sendBuffer
      sendAck := ackNum }

/-! ## Calls of the application -/

/-- `tcp_socket_connect`. -/
def tcpSocketConnect (socket : TcpSocket) (localIp : IpAddress) (srcPort : UInt16)
    (remoteIp : IpAddress) (dstPort : UInt16) : TcpSocket :=
  { socket with
    state := .synSent
    localIp := localIp
    localPort := srcPort
    remoteIp := remoteIp
    remotePort := dstPort
    sendSeq := 1000
    recvAck := 0
    recvSeq := 0
    sendAck := 0
    hasData := false }

/-- `tcp_socket_listen`. -/
def tcpSocketListen (socket : TcpSocket) (localIp : IpAddress) (port : UInt16) : TcpSocket :=
  { socket with
    state := .listen
    localIp := localIp
    localPort := port
    isListening := true
    sendSeq := 0
    recvSeq := 0 }

/-- `tcp_socket_send`; `none` when it returns `0`. -/
def tcpSocketSend (socket : TcpSocket) (data : List UInt8) : Option TcpSocket :=
  if data.isEmpty then
    none
  else if socket.state ≠ .established then
    none
  else if tcpSocketBufferSize < socket.sendBuffer.data.length + data.length then
    none
  else
    some
      { socket with
        sendBuffer :=
          { data := socket.sendBuffer.data ++ data
            startSeq :=
              if socket.sendBuffer.data.isEmpty then socket.sendSeq
              else socket.sendBuffer.startSeq } }

/-- `tcp_socket_recv`: the bytes copied out and the socket after it. -/
def tcpSocketRecv (socket : TcpSocket) (maxLen : Nat) : List UInt8 × TcpSocket :=
  if maxLen = 0 ∨ socket.hasData = false ∨ socket.recvBuffer.data.isEmpty then
    ([], socket)
  else
    let rest := socket.recvBuffer.data.drop maxLen
    (socket.recvBuffer.data.take maxLen,
      { socket with
        recvBuffer := { socket.recvBuffer with data := rest }
        hasData := !rest.isEmpty })

/-- `tcp_socket_close`: whether it returned `1`, and the socket after it. -/
def tcpSocketClose (socket : TcpSocket) : Bool × TcpSocket :=
  match socket.state with
  | .established => (true, { socket with state := .finWait1 })
  | .closeWait => (true, { socket with state := .lastAck })
  | .closed | .listen => (true, { socket with state := .closed })
  | _ => (false, socket)

/-! ## Arriving segments -/

/-- A segment with the checksum its sender stores; the buffer has `outSize` bytes. -/
def tcpStoreChecksum (segment : TcpSegment) (outSize : Nat) (srcIp dstIp : IpAddress) :
    TcpSegment :=
  match tcpToBytes segment outSize with
  | none => segment
  | some raw => { segment with checksum := tcpComputeChecksum raw srcIp dstIp }

/-- `tcp_prepare_ack`. -/
def tcpPrepareAck (socket : TcpSocket) : TcpSegment :=
  tcpStoreChecksum
    { tcpInit with
      srcPort := socket.localPort
      dstPort := socket.remotePort
      seqNum := socket.sendSeq
      ackNum := socket.recvSeq
      flags := tcpFlagAck
      window := tcpWindowSize }
    tcpHeaderSize socket.localIp socket.remoteIp

/-- What `tcp_socket_receive_segment` leaves: its result, the socket and `*response`. -/
structure TcpReceive where
  accepted : Bool
  socket : TcpSocket
  response : TcpSegment

/-- `return 0`, with everything as it was. -/
def tcpIgnore (socket : TcpSocket) (response : TcpSegment) : TcpReceive :=
  { accepted := false, socket := socket, response := response }

/-- `return 1` with the acknowledgement of the socket's numbers as response. -/
def tcpAnswer (socket : TcpSocket) : TcpReceive :=
  { accepted := true, socket := socket, response := tcpPrepareAck socket }

/-- `return 1` with `*response` as it was. -/
def tcpAbsorb (socket : TcpSocket) (response : TcpSegment) : TcpReceive :=
  { accepted := true, socket := socket, response := response }

/-- A SYN without ACK, FIN or RST: what opens a connection. -/
def tcpIsOpeningSyn (segment : TcpSegment) : Bool :=
  segment.hasFlag tcpFlagSyn && !segment.hasFlag (tcpFlagAck ||| tcpFlagFin ||| tcpFlagRst)

/-- `case TCP_LISTEN`. -/
def tcpReceiveListen (socket : TcpSocket) (segment : TcpSegment) (srcIp dstIp : IpAddress)
    (response : TcpSegment) : TcpReceive :=
  if tcpIsOpeningSyn segment then
    let recvSeq := segment.seqNum + 1
    -- the initial number depends on the port of the peer only
    let sendSeq := 2000 + segment.srcPort.toUInt32
    { accepted := true
      socket := { socket with recvSeq := recvSeq, sendSeq := sendSeq, state := .synReceived }
      response :=
        tcpStoreChecksum
          { tcpInit with
            srcPort := segment.dstPort
            dstPort := segment.srcPort
            seqNum := sendSeq
            ackNum := recvSeq
            flags := tcpFlagSynAck
            window := tcpWindowSize }
          tcpHeaderSize dstIp srcIp }
  else
    tcpIgnore socket response

/-- `case TCP_SYN_SENT`. -/
def tcpReceiveSynSent (socket : TcpSocket) (segment : TcpSegment) (response : TcpSegment) :
    TcpReceive :=
  if segment.hasFlag tcpFlagSyn && segment.hasFlag tcpFlagAck &&
      !segment.hasFlag (tcpFlagFin ||| tcpFlagRst) &&
      segment.ackNum == socket.sendSeq + 1 then
    tcpAnswer
      { socket with
        recvSeq := segment.seqNum + 1
        sendAck := segment.ackNum
        sendSeq := segment.ackNum
        state := .established }
  else
    tcpIgnore socket response

/-- `case TCP_SYN_RECEIVED`. -/
def tcpReceiveSynReceived (socket : TcpSocket) (segment : TcpSegment) (response : TcpSegment) :
    TcpReceive :=
  if segment.hasFlag tcpFlagAck &&
      !segment.hasFlag (tcpFlagSyn ||| tcpFlagFin ||| tcpFlagRst) &&
      segment.ackNum == socket.sendSeq + 1 && segment.seqNum == socket.recvSeq then
    let socket :=
      { socket with
        sendAck := segment.ackNum
        sendSeq := segment.ackNum
        state := .established }
    if segment.payload.isEmpty then
      tcpAbsorb socket response
    else
      tcpAnswer (tcpBufferPayload socket segment.seqNum segment.payload).2
  else
    tcpIgnore socket response

/-- The FIN branch of the data states: in order, it takes one sequence number and moves the socket
to `next`; otherwise the socket only repeats its acknowledgement. -/
def tcpReceiveFin (socket : TcpSocket) (segment : TcpSegment) (next : TcpState) : TcpReceive :=
  if segment.seqNum + UInt32.ofNat segment.payload.length ≠ socket.recvSeq then
    tcpAnswer socket
  else
    let socket := { socket with recvSeq := socket.recvSeq + 1 }
    { accepted := true, socket := { socket with state := next }, response := tcpPrepareAck socket }

/-- `case TCP_ESTABLISHED`. -/
def tcpReceiveEstablished (socket : TcpSocket) (segment : TcpSegment) (response : TcpSegment) :
    TcpReceive :=
  let acknowledged :=
    if segment.hasFlag tcpFlagAck then tcpAcknowledgeData socket segment.ackNum else socket
  let buffered := (tcpBufferPayload acknowledged segment.seqNum segment.payload).2
  if segment.hasFlag tcpFlagFin then
    tcpReceiveFin buffered segment .closeWait
  else if !segment.payload.isEmpty then
    tcpAnswer buffered
  else if segment.hasFlag tcpFlagAck then
    tcpAbsorb buffered response
  else
    tcpIgnore buffered response

/-- `case TCP_FIN_WAIT_1`. -/
def tcpReceiveFinWait1 (socket : TcpSocket) (segment : TcpSegment) (response : TcpSegment) :
    TcpReceive :=
  -- an acknowledgement takes nothing out of the send buffer in this state
  let finAcked := segment.hasFlag tcpFlagAck && segment.ackNum == socket.sendSeq
  let buffered := (tcpBufferPayload socket segment.seqNum segment.payload).2
  if segment.hasFlag tcpFlagFin then
    tcpReceiveFin buffered segment (if finAcked then .timeWait else .closing)
  else
    let response := if segment.payload.isEmpty then response else tcpPrepareAck buffered
    if finAcked then
      tcpAbsorb { buffered with sendAck := segment.ackNum, state := .finWait2 } response
    else if !segment.payload.isEmpty then
      tcpAbsorb buffered response
    else
      tcpIgnore buffered response

/-- `case TCP_FIN_WAIT_2`. -/
def tcpReceiveFinWait2 (socket : TcpSocket) (segment : TcpSegment) (response : TcpSegment) :
    TcpReceive :=
  let buffered := (tcpBufferPayload socket segment.seqNum segment.payload).2
  if segment.hasFlag tcpFlagFin then
    tcpReceiveFin buffered segment .timeWait
  else if !segment.payload.isEmpty then
    tcpAnswer buffered
  else
    tcpIgnore buffered response

/-- `case TCP_CLOSING`. -/
def tcpReceiveClosing (socket : TcpSocket) (segment : TcpSegment) (response : TcpSegment) :
    TcpReceive :=
  if segment.hasFlag tcpFlagAck && segment.ackNum == socket.sendSeq then
    tcpAbsorb { socket with sendAck := segment.ackNum, state := .timeWait } response
  else
    tcpIgnore socket response

/-- `case TCP_LAST_ACK`. -/
def tcpReceiveLastAck (socket : TcpSocket) (segment : TcpSegment) (response : TcpSegment) :
    TcpReceive :=
  if segment.hasFlag tcpFlagAck && segment.ackNum == socket.sendSeq then
    tcpAbsorb tcpSocketFree response
  else
    tcpIgnore socket response

/-- The switch of `tcp_socket_receive_segment`. -/
def tcpReceiveByState (socket : TcpSocket) (segment : TcpSegment) (srcIp dstIp : IpAddress)
    (response : TcpSegment) : TcpReceive :=
  match socket.state with
  | .listen => tcpReceiveListen socket segment srcIp dstIp response
  | .synSent => tcpReceiveSynSent socket segment response
  | .synReceived => tcpReceiveSynReceived socket segment response
  | .established => tcpReceiveEstablished socket segment response
  | .finWait1 => tcpReceiveFinWait1 socket segment response
  | .finWait2 => tcpReceiveFinWait2 socket segment response
  | .closing => tcpReceiveClosing socket segment response
  | .lastAck => tcpReceiveLastAck socket segment response
  | .timeWait => tcpAbsorb socket response
  -- CLOSE_WAIT takes no acknowledgements either
  | .closed | .closeWait => tcpIgnore socket response

/-- `tcp_socket_receive_segment`. -/
def tcpSocketReceiveSegment (socket : TcpSocket) (segment : TcpSegment) (srcIp dstIp : IpAddress)
    (response : TcpSegment) : TcpReceive :=
  if tcpValidateChecksum segment srcIp dstIp then
    tcpReceiveByState socket segment srcIp dstIp response
  else
    tcpIgnore socket response

/-! ## Segments of the application calls -/

/-- The SYN `magi_connect` sends for a connected socket. -/
def tcpSynSegment (socket : TcpSocket) : TcpSegment :=
  tcpStoreChecksum
    { tcpInit with
      srcPort := socket.localPort
      dstPort := socket.remotePort
      seqNum := socket.sendSeq
      flags := tcpFlagSyn
      window := tcpWindowSize }
    tcpHeaderSize socket.localIp socket.remoteIp

/-- The data segment `magi_send` sends. -/
def tcpDataSegment (socket : TcpSocket) (data : List UInt8) : TcpSegment :=
  tcpStoreChecksum
    { tcpInit with
      srcPort := socket.localPort
      dstPort := socket.remotePort
      seqNum := socket.sendSeq
      ackNum := socket.recvSeq
      flags := tcpFlagAck ||| tcpFlagPsh
      window := tcpWindowSize
      payload := data }
    (tcpHeaderSize + tcpMaxPayload) socket.localIp socket.remoteIp

/-- The FIN `magi_close` sends. -/
def tcpFinSegment (socket : TcpSocket) : TcpSegment :=
  tcpStoreChecksum
    { tcpInit with
      srcPort := socket.localPort
      dstPort := socket.remotePort
      seqNum := socket.sendSeq
      ackNum := socket.recvSeq
      flags := tcpFlagFin ||| tcpFlagAck
      window := tcpWindowSize }
    tcpHeaderSize socket.localIp socket.remoteIp

/-- The TCP part of `magi_send`: the socket after it and the segment sent; `none` when it fails. -/
def magiSendTcp (socket : TcpSocket) (data : List UInt8) : Option (TcpSocket × TcpSegment) :=
  if data.isEmpty || tcpMaxPayload < data.length then
    none
  else
    (tcpSocketSend socket data).map fun socket =>
      ({ socket with sendSeq := socket.sendSeq + UInt32.ofNat data.length },
        tcpDataSegment socket data)

/-- The TCP part of `magi_close`: the socket after it and the FIN sent, if any. -/
def magiCloseTcp (socket : TcpSocket) : TcpSocket × Option TcpSegment :=
  match socket.state with
  | .established | .closeWait =>
      let closed := (tcpSocketClose socket).2
      ({ closed with sendSeq := closed.sendSeq + 1 }, some (tcpFinSegment socket))
  | .closed | .listen | .synSent | .synReceived => (tcpSocketFree, none)
  | _ => (socket, none)

/-! ## Successful sends -/

/-- What a successful `tcp_socket_send` does. -/
theorem tcpSocketSend_eq_some {socket socket' : TcpSocket} {data : List UInt8}
    (h : tcpSocketSend socket data = some socket') :
    socket.state = .established ∧
      socket.sendBuffer.data.length + data.length ≤ tcpSocketBufferSize ∧
      socket' = { socket with
        sendBuffer :=
          { data := socket.sendBuffer.data ++ data
            startSeq :=
              if socket.sendBuffer.data.isEmpty then socket.sendSeq
              else socket.sendBuffer.startSeq } } := by
  rw [tcpSocketSend] at h
  split at h
  · cases h
  · split at h
    · cases h
    · rename_i hstate
      split at h
      · cases h
      · rename_i hroom
        exact ⟨not_not.mp hstate, not_lt.mp hroom, (Option.some.inj h).symm⟩

theorem magiSendTcp_eq_some {socket socket' : TcpSocket} {data : List UInt8}
    {segment : TcpSegment} (h : magiSendTcp socket data = some (socket', segment)) :
    socket.state = .established ∧
      ∃ sendBuffer,
        socket' =
            { socket with
              sendBuffer := sendBuffer
              sendSeq := socket.sendSeq + UInt32.ofNat data.length } ∧
          segment = tcpDataSegment { socket with sendBuffer := sendBuffer } data := by
  rw [magiSendTcp] at h
  split at h
  · cases h
  · obtain ⟨buffered, hsend, heq⟩ := Option.map_eq_some_iff.1 h
    obtain ⟨hstate, -, rfl⟩ := tcpSocketSend_eq_some hsend
    cases heq
    exact ⟨hstate, _, rfl, rfl⟩

/-! ## Fields of the segments sent -/

theorem tcpStoreChecksum_frame (segment : TcpSegment) (outSize : Nat) (srcIp dstIp : IpAddress) :
    ∃ checksum, tcpStoreChecksum segment outSize srcIp dstIp =
      { segment with checksum := checksum } := by
  rw [tcpStoreChecksum]
  split
  · exact ⟨segment.checksum, rfl⟩
  · exact ⟨_, rfl⟩

@[simp] theorem tcpStoreChecksum_seqNum (segment : TcpSegment) (outSize : Nat)
    (srcIp dstIp : IpAddress) :
    (tcpStoreChecksum segment outSize srcIp dstIp).seqNum = segment.seqNum := by
  obtain ⟨_, h⟩ := tcpStoreChecksum_frame segment outSize srcIp dstIp
  rw [h]

@[simp] theorem tcpStoreChecksum_ackNum (segment : TcpSegment) (outSize : Nat)
    (srcIp dstIp : IpAddress) :
    (tcpStoreChecksum segment outSize srcIp dstIp).ackNum = segment.ackNum := by
  obtain ⟨_, h⟩ := tcpStoreChecksum_frame segment outSize srcIp dstIp
  rw [h]

@[simp] theorem tcpStoreChecksum_payload (segment : TcpSegment) (outSize : Nat)
    (srcIp dstIp : IpAddress) :
    (tcpStoreChecksum segment outSize srcIp dstIp).payload = segment.payload := by
  obtain ⟨_, h⟩ := tcpStoreChecksum_frame segment outSize srcIp dstIp
  rw [h]

@[simp] theorem tcpStoreChecksum_hasFlag (segment : TcpSegment) (outSize : Nat)
    (srcIp dstIp : IpAddress) (mask : UInt8) :
    (tcpStoreChecksum segment outSize srcIp dstIp).hasFlag mask = segment.hasFlag mask := by
  obtain ⟨_, h⟩ := tcpStoreChecksum_frame segment outSize srcIp dstIp
  rw [h]
  rfl

end MagiStack
