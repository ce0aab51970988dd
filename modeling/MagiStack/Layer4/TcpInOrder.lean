import MagiStack.Layer4.TcpPreserve
import MagiStack.Layer4.TcpReset
import MagiStack.Layer4.TcpWindow

/-!
# TcpInOrder — the next segment of the peer

What `tcp_socket_receive_segment` does about a segment that is the next one of its sender, in the states in which a
connection takes data: the payload moves behind the bytes that are ready, a FIN is consumed, and everything that
takes a sequence number is acknowledged at once.  An answer is always lighter than the segment that it answers, so
that two sockets cannot go on answering each other.
-/

namespace MagiStack

/-! ## Segments -/

/-- The sequence numbers that a segment takes, its SYN not counted. -/
def TcpSegment.span (segment : TcpSegment) : Nat :=
  segment.payload.length + if segment.hasFlag tcpFlagFin then 1 else 0

theorem TcpSegment.span_pos_of_payload {segment : TcpSegment} (h : segment.payload ≠ []) : 0 < segment.span :=
  Nat.add_pos_left (List.length_pos_iff.mpr h) _

theorem TcpSegment.span_eq_zero_iff {segment : TcpSegment} :
    segment.span = 0 ↔ segment.payload = [] ∧ segment.hasFlag tcpFlagFin = false := by
  rw [span, Nat.add_eq_zero_iff, List.length_eq_zero_iff]
  refine and_congr_right fun _ => ?_
  cases segment.hasFlag tcpFlagFin
  all_goals decide

/-- The segment is the next one of its sender, and there is room for what it carries. -/
structure Next (socket : TcpSocket) (segment : TcpSegment) : Prop where
  seqNum : 0 < segment.span → segment.seqNum = socket.recvSeq
  fin : segment.hasFlag tcpFlagFin = true → segment.payload = []
  room : socket.recvBuffer.data.length + segment.payload.length ≤ tcpSocketBufferSize

/-- The states in which a connection takes data. -/
def TcpState.receiving : TcpState → Bool
  | .established | .finWait1 | .finWait2 => true
  | _ => false

/-- The state after the next segment, by its FIN and by whether it acknowledges the socket's own FIN. -/
def TcpState.afterNext (state : TcpState) (fin finAcked : Bool) : TcpState :=
  match state with
  | .established => if fin then .closeWait else .established
  | .finWait1 => if fin then if finAcked then .timeWait else .closing else if finAcked then .finWait2 else .finWait1
  | .finWait2 => if fin then .timeWait else .finWait2
  | state => state

/-! ## Sockets -/

/-- The connection of a socket stays the same. -/
structure SameTuple (socket socket' : TcpSocket) : Prop where
  inUse : socket'.inUse = socket.inUse
  localIp : socket'.localIp = socket.localIp
  localPort : socket'.localPort = socket.localPort
  remoteIp : socket'.remoteIp = socket.remoteIp
  remotePort : socket'.remotePort = socket.remotePort
  isListening : socket'.isListening = socket.isListening

theorem SameTuple.refl (socket : TcpSocket) : SameTuple socket socket :=
  ⟨rfl, rfl, rfl, rfl, rfl, rfl⟩

theorem SameTuple.trans {socket socket' socket'' : TcpSocket} (h : SameTuple socket socket')
    (h' : SameTuple socket' socket'') : SameTuple socket socket'' :=
  ⟨h'.inUse.trans h.inUse, h'.localIp.trans h.localIp, h'.localPort.trans h.localPort,
    h'.remoteIp.trans h.remoteIp, h'.remotePort.trans h.remotePort, h'.isListening.trans h.isListening⟩

theorem sameTuple_tcpBufferPayload (socket : TcpSocket) (seqNum : UInt32) (payload : List UInt8) :
    SameTuple socket (tcpBufferPayload socket seqNum payload).2 := by
  rcases tcpBufferPayload_frame socket seqNum payload with ⟨recvBuffer, recvSeq, hasData, hframe⟩
  rw [hframe]
  exact ⟨rfl, rfl, rfl, rfl, rfl, rfl⟩

/-- Nothing waits out of order in a socket with the same receive buffer. -/
theorem InOrder.congr {socket socket' : TcpSocket} (h : InOrder socket)
    (hbuffer : socket'.recvBuffer = socket.recvBuffer) (hdata : socket'.hasData = socket.hasData) :
    InOrder socket' := by
  rcases h with ⟨⟨hgap, hinside, hcount, hroom, hhas⟩, hnone⟩
  rw [← hbuffer] at hgap hinside hcount hroom hhas hnone
  rw [← hdata] at hhas
  exact ⟨⟨hgap, hinside, hcount, hroom, hhas⟩, hnone⟩

/-- What a socket is after the next segment. -/
structure Took (socket : TcpSocket) (segment : TcpSegment) (socket' : TcpSocket) : Prop where
  tuple : SameTuple socket socket'
  sendSeq : socket'.sendSeq = socket.sendSeq
  recvSeq : socket'.recvSeq = socket.recvSeq + UInt32.ofNat segment.span
  data : socket'.recvBuffer.data = socket.recvBuffer.data ++ segment.payload
  inOrder : InOrder socket'
  state : socket'.state = socket.state.afterNext (segment.hasFlag tcpFlagFin)
    (segment.hasFlag tcpFlagAck && segment.ackNum == socket.sendSeq)

/-- The payload of the next segment is buffered whole. -/
theorem InOrder.buffered {socket : TcpSocket} (h : InOrder socket) {segment : TcpSegment}
    (hnext : Next socket segment) :
    InOrder (tcpBufferPayload socket segment.seqNum segment.payload).2 ∧
      (tcpBufferPayload socket segment.seqNum segment.payload).2.recvSeq =
        socket.recvSeq + UInt32.ofNat segment.payload.length ∧
      (tcpBufferPayload socket segment.seqNum segment.payload).2.recvBuffer.data =
        socket.recvBuffer.data ++ segment.payload := by
  by_cases hempty : segment.payload = []
  · rw [hempty]
    refine ⟨h, ?_, (List.append_nil _).symm⟩
    exact (UInt32.add_zero socket.recvSeq).symm
  · rw [hnext.seqNum (TcpSegment.span_pos_of_payload hempty)]
    rcases (h.acceptedWhole_iff segment.payload).mpr hnext.room with ⟨-, hseq, hdata⟩
    exact ⟨h.next segment.payload, hseq, hdata⟩

/-! ## The next segment at a connection -/

/-- The acknowledgement of a socket depends on its tuple and its two numbers alone. -/
theorem tcpPrepareAck_congr {socket socket' : TcpSocket} (htuple : SameTuple socket socket')
    (hsend : socket'.sendSeq = socket.sendSeq) (hrecv : socket'.recvSeq = socket.recvSeq) :
    tcpPrepareAck socket' = tcpPrepareAck socket := by
  rw [tcpPrepareAck, tcpPrepareAck, htuple.localIp, htuple.localPort, htuple.remoteIp, htuple.remotePort, hsend,
    hrecv]

theorem tcpPrepareAck_srcPort (socket : TcpSocket) : (tcpPrepareAck socket).srcPort = socket.localPort := by
  rcases tcpStoreChecksum_frame
    { tcpInit with
      srcPort := socket.localPort
      dstPort := socket.remotePort
      seqNum := socket.sendSeq
      ackNum := socket.recvSeq
      flags := tcpFlagAck
      window := tcpWindowSize } tcpHeaderSize socket.localIp socket.remoteIp with ⟨checksum, hframe⟩
  rw [tcpPrepareAck, hframe]

/-- An acknowledgement with a port is sent. -/
theorem tcpReply_ack {socket socket' : TcpSocket} (hport : 0 < socket.localPort) :
    tcpReply { accepted := true, socket := socket', response := tcpPrepareAck socket } =
      some (tcpPrepareAck socket) := by
  have hsend : ((true && (tcpPrepareAck socket).flags != 0 && decide (0 < (tcpPrepareAck socket).srcPort)) : Bool) =
      true := by
    rw [tcpPrepareAck_flags, tcpPrepareAck_srcPort, decide_eq_true hport]
    decide
  exact if_pos hsend

/-- Without a response nothing is sent. -/
theorem tcpReply_init (accepted : Bool) (socket : TcpSocket) :
    tcpReply { accepted := accepted, socket := socket, response := tcpInit } = none := by
  cases accepted
  all_goals rfl

/-- A socket before its payload is buffered: the acknowledgement may have changed its send side. -/
structure Before (socket before : TcpSocket) : Prop where
  tuple : SameTuple socket before
  sendSeq : before.sendSeq = socket.sendSeq
  recvSeq : before.recvSeq = socket.recvSeq
  buffer : before.recvBuffer = socket.recvBuffer
  hasData : before.hasData = socket.hasData
  state : before.state = socket.state

theorem Before.refl (socket : TcpSocket) : Before socket socket :=
  ⟨.refl socket, rfl, rfl, rfl, rfl, rfl⟩

theorem before_acknowledged (socket : TcpSocket) (segment : TcpSegment) :
    Before socket (if segment.hasFlag tcpFlagAck then tcpAcknowledgeData socket segment.ackNum else socket) := by
  split
  · rcases tcpAcknowledgeData_frame socket segment.ackNum with ⟨sendBuffer, sendAck, hframe⟩
    rw [hframe]
    exact ⟨⟨rfl, rfl, rfl, rfl, rfl, rfl⟩, rfl, rfl, rfl, rfl, rfl⟩
  · exact .refl socket

section Receiving

variable {socket before : TcpSocket} (h : InOrder socket) (hbefore : Before socket before) {segment : TcpSegment}
  (hnext : Next socket segment)

include h hbefore hnext

/-- Without a FIN the payload is all that the segment takes; acknowledging the socket's own FIN may change the
state, and `send_ack`. -/
theorem took_payload (hfin : segment.hasFlag tcpFlagFin = false) {next : TcpState} (sendAck : UInt32)
    (hstate : next = socket.state.afterNext false (segment.hasFlag tcpFlagAck && segment.ackNum == socket.sendSeq)) :
    Took socket segment { (tcpBufferPayload before segment.seqNum segment.payload).2 with
      sendAck := sendAck, state := next } := by
  have hnextBefore : Next before segment := by
    refine ⟨fun hspan => ?_, hnext.fin, ?_⟩
    · rw [hbefore.recvSeq]
      exact hnext.seqNum hspan
    · rw [hbefore.buffer]
      exact hnext.room
  rcases (h.congr hbefore.buffer hbefore.hasData).buffered hnextBefore with ⟨horder, hseq, hdata⟩
  have htuple := hbefore.tuple.trans (sameTuple_tcpBufferPayload before segment.seqNum segment.payload)
  have hspan : segment.span = segment.payload.length := by
    rw [TcpSegment.span, hfin]
    rfl
  refine ⟨htuple.trans ⟨rfl, rfl, rfl, rfl, rfl, rfl⟩, ?_, ?_, ?_, horder.congr rfl rfl, ?_⟩
  · exact (tcpBufferPayload_sendSeq before segment.seqNum segment.payload).trans hbefore.sendSeq
  · rw [hspan, ← hbefore.recvSeq]
    exact hseq
  · rw [← hbefore.buffer]
    exact hdata
  · rw [hfin]
    exact hstate

/-- The same when the segment says nothing about the state. -/
theorem took_buffered (hfin : segment.hasFlag tcpFlagFin = false)
    (hstate : socket.state = socket.state.afterNext false
      (segment.hasFlag tcpFlagAck && segment.ackNum == socket.sendSeq)) :
    Took socket segment (tcpBufferPayload before segment.seqNum segment.payload).2 := by
  have hsame : (tcpBufferPayload before segment.seqNum segment.payload).2.state = socket.state :=
    (tcpBufferPayload_state before segment.seqNum segment.payload).trans hbefore.state
  exact took_payload h hbefore hnext hfin _ (hsame.trans hstate)

variable (hport : 0 < socket.localPort)

include hport

/-- A FIN that is in order is consumed, and acknowledged. -/
theorem took_fin (hfin : segment.hasFlag tcpFlagFin = true) {next : TcpState}
    (hstate : next = socket.state.afterNext true (segment.hasFlag tcpFlagAck && segment.ackNum == socket.sendSeq)) :
    let outcome := tcpReceiveFin (tcpBufferPayload before segment.seqNum segment.payload).2 segment next
    Took socket segment outcome.socket ∧ tcpReply outcome = some (tcpPrepareAck outcome.socket) := by
  have hpayload := hnext.fin hfin
  have hspan : segment.span = 1 := by
    rw [TcpSegment.span, hpayload, hfin]
    rfl
  have hnothing : (tcpBufferPayload before segment.seqNum segment.payload).2 = before := by
    rw [hpayload]
    rfl
  have horder : segment.seqNum + UInt32.ofNat segment.payload.length = before.recvSeq := by
    rw [hnext.seqNum (by rw [hspan]; exact Nat.one_pos), hpayload, hbefore.recvSeq]
    exact UInt32.add_zero socket.recvSeq
  have hconsumed : tcpReceiveFin before segment next =
      { accepted := true
        socket := { before with recvSeq := before.recvSeq + 1, state := next }
        response := tcpPrepareAck { before with recvSeq := before.recvSeq + 1 } } := if_neg (not_not.mpr horder)
  rw [hnothing, hconsumed]
  refine ⟨⟨hbefore.tuple.trans ⟨rfl, rfl, rfl, rfl, rfl, rfl⟩, hbefore.sendSeq, ?_, ?_,
    h.congr hbefore.buffer hbefore.hasData, ?_⟩, ?_⟩
  · rw [hspan, ← hbefore.recvSeq]
    rfl
  · rw [hpayload, List.append_nil]
    exact congrArg TcpReceiveBuffer.data hbefore.buffer
  · rw [hfin]
    exact hstate
  · have hack : tcpPrepareAck { before with recvSeq := before.recvSeq + 1, state := next } =
        tcpPrepareAck { before with recvSeq := before.recvSeq + 1 } := rfl
    rw [hack]
    refine tcpReply_ack ?_
    change 0 < before.localPort
    rw [hbefore.tuple.localPort]
    exact hport

end Receiving

/-- A connection has taken a segment, and answers if it takes a sequence number. -/
def Answers (socket : TcpSocket) (segment : TcpSegment) (outcome : TcpReceive) : Prop :=
  Took socket segment outcome.socket ∧
    tcpReply outcome = if segment.span = 0 then none else some (tcpPrepareAck outcome.socket)

section States

variable {socket : TcpSocket} (h : InOrder socket) {segment : TcpSegment} (hnext : Next socket segment)
  (hport : 0 < socket.localPort)

include h hnext hport

theorem answers_fin {before : TcpSocket} (hbefore : Before socket before)
    (hfin : segment.hasFlag tcpFlagFin = true) {next : TcpState}
    (hstate : next = socket.state.afterNext true (segment.hasFlag tcpFlagAck && segment.ackNum == socket.sendSeq)) :
    Answers socket segment
      (tcpReceiveFin (tcpBufferPayload before segment.seqNum segment.payload).2 segment next) := by
  rcases took_fin h hbefore hnext hport hfin hstate with ⟨htook, hreply⟩
  refine ⟨htook, ?_⟩
  have hspan : segment.span ≠ 0 := by
    intro hzero
    have hnone := (TcpSegment.span_eq_zero_iff.mp hzero).2
    rw [hfin] at hnone
    cases hnone
  rw [if_neg hspan]
  exact hreply

omit h hnext in
/-- What a connection that takes the next segment without a FIN answers. -/
theorem answers_payload {socket' : TcpSocket} (hfin : segment.hasFlag tcpFlagFin = false)
    (htook : Took socket segment socket') (accepted : Bool) {response : TcpSegment}
    (hresponse : response = if segment.payload.isEmpty then tcpInit else tcpPrepareAck socket')
    (haccepted : segment.payload ≠ [] → accepted = true) :
    Answers socket segment { accepted := accepted, socket := socket', response := response } := by
  refine ⟨htook, ?_⟩
  by_cases hempty : segment.payload = []
  · have hspan : segment.span = 0 := TcpSegment.span_eq_zero_iff.mpr ⟨hempty, hfin⟩
    rw [if_pos hspan, hresponse, hempty]
    exact tcpReply_init accepted socket'
  · have hspan : segment.span ≠ 0 := by
      intro hzero
      exact hempty (TcpSegment.span_eq_zero_iff.mp hzero).1
    have hnonempty : ¬ segment.payload.isEmpty = true := by
      intro hnone
      exact hempty (List.isEmpty_iff.mp hnone)
    rw [if_neg hspan, hresponse, if_neg hnonempty, haccepted hempty]
    refine tcpReply_ack ?_
    rw [htook.tuple.localPort]
    exact hport

theorem tcpReceiveEstablished_answers (hstate : socket.state = .established) :
    Answers socket segment (tcpReceiveEstablished socket segment tcpInit) := by
  have hbefore := before_acknowledged socket segment
  simp only [tcpReceiveEstablished]
  generalize (if segment.hasFlag tcpFlagAck = true then tcpAcknowledgeData socket segment.ackNum else socket) =
    before at hbefore ⊢
  split
  · rename_i hfin
    exact answers_fin h hnext hport hbefore hfin (by rw [hstate]; rfl)
  rename_i hnoFin
  have hfin : segment.hasFlag tcpFlagFin = false := Bool.eq_false_iff.mpr hnoFin
  have htook := took_buffered h hbefore hnext hfin (by rw [hstate]; rfl)
  split
  · rename_i hdata
    refine answers_payload hport hfin htook true ?_ (fun _ => rfl)
    rw [if_neg (by simpa using hdata)]
  rename_i hnoData
  have hempty : segment.payload = [] := by simpa using hnoData
  split
  · refine answers_payload hport hfin htook true ?_ (fun _ => rfl)
    rw [hempty]
    rfl
  · refine answers_payload hport hfin htook false ?_ (fun hsome => absurd hempty hsome)
    rw [hempty]
    rfl

theorem tcpReceiveFinWait1_answers (hstate : socket.state = .finWait1) :
    Answers socket segment (tcpReceiveFinWait1 socket segment tcpInit) := by
  have hbefore := Before.refl socket
  rw [tcpReceiveFinWait1]
  dsimp only
  split
  · rename_i hfin
    exact answers_fin h hnext hport hbefore hfin (by rw [hstate]; rfl)
  rename_i hnoFin
  have hfin : segment.hasFlag tcpFlagFin = false := Bool.eq_false_iff.mpr hnoFin
  split
  · rename_i hacked
    have htook := took_payload h hbefore hnext hfin segment.ackNum
      (show TcpState.finWait2 = _ by rw [hstate, hacked]; rfl)
    refine answers_payload hport hfin htook true ?_ (fun _ => rfl)
    split
    · rfl
    · exact tcpPrepareAck_congr ⟨rfl, rfl, rfl, rfl, rfl, rfl⟩ rfl rfl
  rename_i hnotAcked
  have htook := took_buffered h hbefore hnext hfin (by rw [hstate, Bool.eq_false_iff.mpr hnotAcked]; rfl)
  split
  · rename_i hdata
    refine answers_payload hport hfin htook true rfl (fun _ => rfl)
  · rename_i hnoData
    have hempty : segment.payload = [] := by simpa using hnoData
    exact answers_payload hport hfin htook false rfl (fun hsome => absurd hempty hsome)

theorem tcpReceiveFinWait2_answers (hstate : socket.state = .finWait2) :
    Answers socket segment (tcpReceiveFinWait2 socket segment tcpInit) := by
  have hbefore := Before.refl socket
  rw [tcpReceiveFinWait2]
  split
  · rename_i hfin
    exact answers_fin h hnext hport hbefore hfin (by rw [hstate]; rfl)
  rename_i hnoFin
  have hfin : segment.hasFlag tcpFlagFin = false := Bool.eq_false_iff.mpr hnoFin
  have htook := took_buffered h hbefore hnext hfin (by rw [hstate]; rfl)
  split
  · rename_i hdata
    refine answers_payload hport hfin htook true ?_ (fun _ => rfl)
    rw [if_neg (by simpa using hdata)]
  · rename_i hnoData
    have hempty : segment.payload = [] := by simpa using hnoData
    refine answers_payload hport hfin htook false ?_ (fun hsome => absurd hempty hsome)
    rw [hempty]
    rfl

/-- The next segment at a connection that takes data. -/
theorem tcpReceiveByState_next (hstate : socket.state.receiving = true) (srcIp dstIp : IpAddress) :
    Answers socket segment (tcpReceiveByState socket segment srcIp dstIp tcpInit) := by
  cases hcase : socket.state with
  | established =>
      rw [tcpReceiveByState, hcase]
      exact tcpReceiveEstablished_answers h hnext hport hcase
  | finWait1 =>
      rw [tcpReceiveByState, hcase]
      exact tcpReceiveFinWait1_answers h hnext hport hcase
  | finWait2 =>
      rw [tcpReceiveByState, hcase]
      exact tcpReceiveFinWait2_answers h hnext hport hcase
  | _ =>
      rw [hcase] at hstate
      cases hstate

end States

/-! ## Answers come to an end -/

/-- How many segments a segment can still cause, itself counted. -/
def TcpSegment.weight (segment : TcpSegment) : Nat :=
  if segment.hasFlag tcpFlagSyn then if segment.hasFlag tcpFlagAck then 2 else 3
  else if segment.span = 0 then 1 else 2

theorem TcpSegment.weight_synAck {segment : TcpSegment} (hsyn : segment.hasFlag tcpFlagSyn = true)
    (hack : segment.hasFlag tcpFlagAck = true) : segment.weight = 2 := by
  rw [weight, if_pos hsyn, if_pos hack]

theorem TcpSegment.weight_of_span {segment : TcpSegment} (h : 0 < segment.span) : 2 ≤ segment.weight := by
  rw [weight]
  split
  · split
    all_goals decide
  · rw [if_neg (Nat.pos_iff_ne_zero.mp h)]

theorem tcpPrepareAck_hasFlag (socket : TcpSocket) (mask : UInt8) :
    (tcpPrepareAck socket).hasFlag mask = (tcpFlagAck &&& mask != 0) := by
  rw [TcpSegment.hasFlag, tcpPrepareAck_flags]

theorem tcpPrepareAck_span (socket : TcpSocket) : (tcpPrepareAck socket).span = 0 := by
  rw [TcpSegment.span_eq_zero_iff, tcpPrepareAck_hasFlag]
  refine ⟨?_, by decide⟩
  rw [tcpPrepareAck, tcpStoreChecksum_payload]
  exact rfl

theorem tcpPrepareAck_weight (socket : TcpSocket) : (tcpPrepareAck socket).weight = 1 := by
  simp only [TcpSegment.weight, tcpPrepareAck_hasFlag, tcpPrepareAck_span]
  decide

/-- An outcome sends nothing, or an acknowledgement. -/
inductive AcksOrNothing (outcome : TcpReceive) : Prop
  | nothing (h : tcpReply outcome = none)
  | ack (socket : TcpSocket) (h : outcome.response = tcpPrepareAck socket)

theorem AcksOrNothing.lighter {outcome : TcpReceive} (h : AcksOrNothing outcome) {reply segment : TcpSegment}
    (hreply : tcpReply outcome = some reply) (hweight : 2 ≤ segment.weight) : reply.weight < segment.weight := by
  cases h with
  | nothing hnone => cases hnone.symm.trans hreply
  | ack socket hack =>
      rw [(tcpReply_eq_some hreply).1, hack, tcpPrepareAck_weight]
      exact hweight

theorem acksOrNothing_fin (socket : TcpSocket) (segment : TcpSegment) (next : TcpState) :
    AcksOrNothing (tcpReceiveFin socket segment next) := by
  rw [tcpReceiveFin]
  split
  · exact .ack socket rfl
  · exact .ack _ rfl

/-- In the states that take data, a segment that takes no sequence number is left without an answer. -/
theorem tcpReply_receiving {socket : TcpSocket} (hstate : socket.state.receiving = true) (segment : TcpSegment)
    (srcIp dstIp : IpAddress) :
    AcksOrNothing (tcpReceiveByState socket segment srcIp dstIp tcpInit) ∧
      (segment.span = 0 → tcpReply (tcpReceiveByState socket segment srcIp dstIp tcpInit) = none) := by
  -- A segment of span 0 has neither a FIN nor data, so that no branch that answers is taken.
  have hspan : segment.span = 0 → segment.hasFlag tcpFlagFin = true → False := by
    intro hzero hfin
    have hnone := (TcpSegment.span_eq_zero_iff.mp hzero).2
    rw [hfin] at hnone
    cases hnone
  have hdata : segment.span = 0 → (!segment.payload.isEmpty) = true → False := by
    intro hzero hsome
    rw [(TcpSegment.span_eq_zero_iff.mp hzero).1] at hsome
    cases hsome
  cases hcase : socket.state with
  | established =>
      rw [tcpReceiveByState, hcase]
      simp only [tcpReceiveEstablished]
      generalize (if segment.hasFlag tcpFlagAck = true then tcpAcknowledgeData socket segment.ackNum else socket) =
        before
      split
      · rename_i hfin
        exact ⟨acksOrNothing_fin _ segment _, fun hzero => (hspan hzero hfin).elim⟩
      split
      · rename_i hsome
        exact ⟨.ack _ rfl, fun hzero => (hdata hzero hsome).elim⟩
      split
      all_goals exact ⟨.nothing (tcpReply_init _ _), fun _ => tcpReply_init _ _⟩
  | finWait1 =>
      rw [tcpReceiveByState, hcase]
      dsimp only
      rw [tcpReceiveFinWait1]
      dsimp only
      split
      · rename_i hfin
        exact ⟨acksOrNothing_fin _ segment _, fun hzero => (hspan hzero hfin).elim⟩
      split
      · by_cases hempty : segment.payload.isEmpty = true
        · rw [if_pos hempty]
          exact ⟨.nothing (tcpReply_init _ _), fun _ => tcpReply_init _ _⟩
        · rw [if_neg hempty]
          exact ⟨.ack _ rfl, fun hzero => (hdata hzero (by simpa using hempty)).elim⟩
      split
      · rename_i hsome
        rw [if_neg (by simpa using hsome)]
        exact ⟨.ack _ rfl, fun hzero => (hdata hzero hsome).elim⟩
      · rename_i hnone
        rw [if_pos (by simpa using hnone)]
        exact ⟨.nothing (tcpReply_init _ _), fun _ => tcpReply_init _ _⟩
  | finWait2 =>
      rw [tcpReceiveByState, hcase]
      dsimp only
      rw [tcpReceiveFinWait2]
      split
      · rename_i hfin
        exact ⟨acksOrNothing_fin _ segment _, fun hzero => (hspan hzero hfin).elim⟩
      split
      · rename_i hsome
        exact ⟨.ack _ rfl, fun hzero => (hdata hzero hsome).elim⟩
      · exact ⟨.nothing (tcpReply_init _ _), fun _ => tcpReply_init _ _⟩
  | _ =>
      rw [hcase] at hstate
      cases hstate

/-- The answer to a segment is lighter than the segment, at every socket. -/
theorem tcpReply_lighter {socket : TcpSocket} {segment reply : TcpSegment} {srcIp dstIp : IpAddress}
    (hreply : tcpReply (tcpSocketReceiveSegment socket segment srcIp dstIp tcpInit) = some reply) :
    reply.weight < segment.weight := by
  have hignored : ∀ {socket' : TcpSocket} {accepted : Bool},
      tcpReply { accepted := accepted, socket := socket', response := tcpInit } = some reply → False := by
    intro socket' accepted hsome
    rw [tcpReply_init] at hsome
    cases hsome
  rw [tcpSocketReceiveSegment] at hreply
  split at hreply
  swap
  · exact (hignored hreply).elim
  cases hreceiving : socket.state.receiving with
  | true =>
      rcases tcpReply_receiving hreceiving segment srcIp dstIp with ⟨hacks, hnone⟩
      refine hacks.lighter hreply (TcpSegment.weight_of_span (Nat.pos_of_ne_zero fun hzero => ?_))
      cases (hnone hzero).symm.trans hreply
  | false =>
      rw [tcpReceiveByState] at hreply
      cases hcase : socket.state with
      | listen =>
          rw [hcase] at hreply
          dsimp only at hreply
          rw [tcpReceiveListen] at hreply
          split at hreply
          · rename_i hopening
            -- the SYN weighs three, its answer two
            rw [tcpIsOpeningSyn, Bool.and_eq_true] at hopening
            have hnotAck : segment.hasFlag tcpFlagAck = false := by
              refine Bool.eq_false_iff.mpr fun hack => ?_
              have hmask : segment.hasFlag (tcpFlagAck ||| tcpFlagFin ||| tcpFlagRst) = true :=
                segment.hasFlag_of_submask (by decide) hack
              rw [hmask] at hopening
              cases hopening.2
            have hsyn : segment.weight = 3 := by
              rw [TcpSegment.weight, if_pos hopening.1, hnotAck]
              rfl
            rw [(tcpReply_eq_some hreply).1, hsyn, TcpSegment.weight_synAck]
            · exact Nat.lt_succ_self 2
            · dsimp only
              rw [tcpStoreChecksum_hasFlag]
              exact (by decide : (tcpFlagSynAck &&& tcpFlagSyn != 0) = true)
            · dsimp only
              rw [tcpStoreChecksum_hasFlag]
              exact (by decide : (tcpFlagSynAck &&& tcpFlagAck != 0) = true)
          · exact (hignored hreply).elim
      | synSent =>
          rw [hcase] at hreply
          dsimp only at hreply
          rw [tcpReceiveSynSent] at hreply
          split at hreply
          · rename_i hsynAck
            simp only [Bool.and_eq_true] at hsynAck
            have hweight := TcpSegment.weight_synAck hsynAck.1.1.1 hsynAck.1.1.2
            exact AcksOrNothing.lighter (.ack _ rfl) hreply hweight.ge
          · exact (hignored hreply).elim
      | synReceived =>
          rw [hcase] at hreply
          dsimp only at hreply
          rw [tcpReceiveSynReceived] at hreply
          split at hreply
          · split at hreply
            · exact (hignored hreply).elim
            · rename_i hsome
              refine AcksOrNothing.lighter (.ack _ rfl) hreply (TcpSegment.weight_of_span ?_)
              exact TcpSegment.span_pos_of_payload fun hempty => hsome (List.isEmpty_iff.mpr hempty)
          · exact (hignored hreply).elim
      | closing =>
          rw [hcase] at hreply
          dsimp only at hreply
          rw [tcpReceiveClosing] at hreply
          split at hreply
          all_goals exact (hignored hreply).elim
      | lastAck =>
          rw [hcase] at hreply
          dsimp only at hreply
          rw [tcpReceiveLastAck] at hreply
          split at hreply
          all_goals exact (hignored hreply).elim
      | timeWait =>
          rw [hcase] at hreply
          exact (hignored hreply).elim
      | closed =>
          rw [hcase] at hreply
          exact (hignored hreply).elim
      | closeWait =>
          rw [hcase] at hreply
          exact (hignored hreply).elim
      | _ =>
          rw [hcase] at hreceiving
          cases hreceiving

end MagiStack
