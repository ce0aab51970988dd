import MagiStack.Layer4.TcpLink

/-!
# TcpDelivery — a link that keeps the order delivers everything

Over a `TcpLink` no sequence number is left out and none comes twice, and so every segment is the next one of the
socket that it arrives at.  The invariant says this of the segments in flight, and that an acknowledgement of a FIN
is on its way as soon as the FIN is consumed.  When nothing is left in flight, both applications have got all that
was sent, and the states of the two sockets follow from who has closed.
-/

namespace MagiStack

/-! ## Segments in sequence -/

/-- The sequence numbers that an end has used behind its SYN. -/
def TcpEnd.sendCount (e : TcpEnd) : Nat :=
  e.sent.length + if e.finSent then 1 else 0

theorem TcpEnd.recvCount_congr {e e' : TcpEnd} (hentered : e'.entered = e.entered)
    (hconsumed : e'.finConsumed = e.finConsumed) : e'.recvCount = e.recvCount := by
  rw [recvCount, recvCount, hentered, hconsumed]

/-- The segments take the numbers of a stream one behind the other, from place `n` to place `m`. -/
def InSequence (iss : UInt32) : Nat → List TcpSegment → Nat → Prop
  | n, [], m => n = m
  | n, segment :: rest, m =>
      (0 < segment.span → segment.seqNum = streamSeq iss n) ∧
        (segment.hasFlag tcpFlagFin = true → segment.payload = []) ∧ InSequence iss (n + segment.span) rest m

namespace InSequence

variable {iss : UInt32} {n m : Nat}

theorem append {before after : List TcpSegment} {k : Nat} (h : InSequence iss n before m)
    (hafter : InSequence iss m after k) : InSequence iss n (before ++ after) k := by
  induction before generalizing n with
  | nil =>
      cases h
      exact hafter
  | cons segment rest ih => exact ⟨h.1, h.2.1, ih h.2.2⟩

theorem le {queue : List TcpSegment} (h : InSequence iss n queue m) : n ≤ m := by
  induction queue generalizing n with
  | nil => exact Nat.le_of_eq h
  | cons segment rest ih => exact (Nat.le_add_right _ _).trans (ih h.2.2)

/-- Segments that take no number are always in sequence. -/
theorem of_span {queue : List TcpSegment} (h : ∀ segment ∈ queue, segment.span = 0) : InSequence iss n queue n := by
  induction queue with
  | nil => rfl
  | cons segment rest ih =>
      have hspan := h segment List.mem_cons_self
      refine ⟨fun hpos => ?_, fun _ => (TcpSegment.span_eq_zero_iff.mp hspan).1, ?_⟩
      · rw [hspan] at hpos
        cases hpos
      · rw [hspan, Nat.add_zero]
        exact ih fun other hother => h other (List.mem_cons_of_mem segment hother)

/-- Behind the end of the stream no segment takes a number. -/
theorem span_eq_zero {segment : TcpSegment} {rest : List TcpSegment} (h : InSequence iss n (segment :: rest) m)
    (hend : m ≤ n) : segment.span = 0 := by
  have hle := h.2.2.le
  omega

theorem singleton {segment : TcpSegment} (hseq : 0 < segment.span → segment.seqNum = streamSeq iss n)
    (hfin : segment.hasFlag tcpFlagFin = true → segment.payload = []) (hend : n + segment.span = m) :
    InSequence iss n [segment] m :=
  ⟨hseq, hfin, hend⟩

end InSequence

/-! ## One direction of a connection -/

/-- The FIN is sent, and not known to have arrived. -/
def TcpState.awaitsFinAck : TcpState → Bool
  | .finWait1 | .closing | .lastAck => true
  | _ => false

/-- A segment acknowledges everything that a socket has sent. -/
def TcpSegment.AcksAll (segment : TcpSegment) (socket : TcpSocket) : Prop :=
  (segment.hasFlag tcpFlagAck && segment.ackNum == socket.sendSeq) = true

/-- The last segment of the handshake, at the socket that waits for it. -/
structure EndsHandshake (socket : TcpSocket) (segment : TcpSegment) : Prop where
  ack : segment.hasFlag tcpFlagAck = true
  others : segment.hasFlag (tcpFlagSyn ||| tcpFlagFin ||| tcpFlagRst) = false
  ackNum : segment.ackNum = socket.sendSeq + 1
  seqNum : segment.seqNum = socket.recvSeq
  payload : segment.payload = []

/-- How far an end of an open connection is: it waits for the end of the handshake, which comes next, it is
connected, or it has closed in both directions. -/
inductive Stage (e : TcpEnd) (queue : List TcpSegment) : Prop
  | waiting (huse : e.socket.inUse = true) (hstate : e.socket.state = .synReceived) {segment : TcpSegment}
      {rest : List TcpSegment} (hqueue : queue = segment :: rest) (hends : EndsHandshake e.socket segment)
  | connected (huse : e.socket.inUse = true) (hpast : e.socket.state.pastHandshake = true)
  | freed (huse : e.socket.inUse = false) (hconsumed : e.finConsumed = true) (hsent : e.finSent = true)

/-- What is on its way to `e` from its peer. -/
structure Direction (e peer : TcpEnd) (queue : List TcpSegment) : Prop where
  stage : Stage e queue
  inSequence : ∀ iss, peer.iss = some iss → InSequence iss e.recvCount queue peer.sendCount
  finAcked : e.socket.state.awaitsFinAck = true →
    peer.finConsumed = false ∨ ∃ segment ∈ queue, segment.AcksAll e.socket

/-- The peer sends more. -/
theorem Direction.sends {e peer peer' : TcpEnd} {queue out : List TcpSegment} (h : Direction e peer queue)
    (hiss : peer'.iss = peer.iss)
    (hout : ∀ iss, peer.iss = some iss → InSequence iss peer.sendCount out peer'.sendCount)
    (hfin : e.socket.state.awaitsFinAck = true → peer'.finConsumed = true →
      peer.finConsumed = true ∨ ∃ segment ∈ out, segment.AcksAll e.socket) :
    Direction e peer' (queue ++ out) := by
  refine ⟨?_, fun iss hsome => ?_, fun hawaits => ?_⟩
  · rcases h.stage with ⟨huse, hstate, rfl, hends⟩ | ⟨huse, hpast⟩ | ⟨huse, hconsumed, hsent⟩
    · exact .waiting huse hstate (List.cons_append ..) hends
    · exact .connected huse hpast
    · exact .freed huse hconsumed hsent
  · rw [hiss] at hsome
    exact (h.inSequence iss hsome).append (hout iss hsome)
  · cases hconsumed : peer'.finConsumed with
    | false => exact Or.inl rfl
    | true =>
        refine Or.inr ?_
        rcases hfin hawaits hconsumed with hbefore | ⟨segment, hsegment, hacks⟩
        · rcases h.finAcked hawaits with hnot | ⟨segment, hsegment, hacks⟩
          · cases hbefore.symm.trans hnot
          · exact ⟨segment, List.mem_append_left out hsegment, hacks⟩
        · exact ⟨segment, List.mem_append_right queue hsegment, hacks⟩

/-! ## Calls of an application -/

/-- What a call does to its end, and what it sends. -/
structure TcpCall (addresses : TcpAddresses) (side : TcpSide) (e e' : TcpEnd) (out : List TcpSegment) : Prop where
  idle : e.socket.inUse = false → e' = e ∧ out = []
  opening : e.socket.state.pastHandshake = false →
    e'.socket.state = e.socket.state ∧ e'.socket.sendSeq = e.socket.sendSeq ∧ out = []
  past : e.socket.state.pastHandshake = true → e'.socket.state.pastHandshake = true
  awaits : e'.socket.state.awaitsFinAck = true →
    e.finSent = false ∨ e.socket.state.awaitsFinAck = true ∧ e'.socket.sendSeq = e.socket.sendSeq
  tuple : SameTuple e.socket e'.socket
  recvSeq : e'.socket.recvSeq = e.socket.recvSeq
  inOrder : InOrder e.socket → InOrder e'.socket
  iss : e'.iss = e.iss
  recvCount : e'.recvCount = e.recvCount
  finConsumed : e'.finConsumed = e.finConsumed
  inSequence : ∀ iss, e.iss = some iss → InSequence iss e.sendCount out e'.sendCount
  addressed : Owns addresses side e.socket → ∀ segment ∈ out, Addressed addresses side segment

theorem TcpCall.refl (addresses : TcpAddresses) (side : TcpSide) (e : TcpEnd) : TcpCall addresses side e e [] where
  idle _ := ⟨rfl, rfl⟩
  opening _ := ⟨rfl, rfl, rfl⟩
  past h := h
  awaits h := Or.inr ⟨h, rfl⟩
  tuple := .refl e.socket
  recvSeq := rfl
  inOrder h := h
  iss := rfl
  recvCount := rfl
  finConsumed := rfl
  inSequence _ _ := rfl
  addressed _ _ h := absurd h List.not_mem_nil

/-- What has entered a socket in use was delivered or is ready. -/
theorem ReceiverOk.entered_eq {e peer : TcpEnd} (hr : ReceiverOk e peer) (huse : e.socket.inUse = true) :
    e.entered = e.delivered ++ e.socket.recvBuffer.data ∧ e.freedFrom = none := by
  cases hirs : e.irs with
  | none =>
      have hold := hr.unheard hirs
      rw [hold.entered, hold.delivered, hold.data]
      exact ⟨rfl, (hold.state huse).2⟩
  | some irs =>
      rcases (hr.hearing irs hirs).stream huse with ⟨-, hfreed, hentered, -⟩
      exact ⟨hentered, hfreed⟩

theorem SenderOk.idle {e : TcpEnd} (hs : SenderOk e) {state : TcpState} (hstate : e.socket.state = state)
    (hclosed : state ≠ .closed) : e.socket.inUse = true := by
  cases huse : e.socket.inUse with
  | true => rfl
  | false =>
      rw [hs.free huse] at hstate
      exact absurd hstate.symm hclosed

theorem SenderOk.iss_of_finSent {e : TcpEnd} (hs : SenderOk e) (hsent : e.finSent = true) :
    ∃ iss, e.iss = some iss := by
  cases hcase : e.iss with
  | some iss => exact ⟨iss, rfl⟩
  | none =>
      rw [hs.absent hcase] at hsent
      cases hsent

/-- An end whose handshake is not over has sent its SYN and nothing else. -/
theorem SenderOk.opening {e : TcpEnd} (hs : SenderOk e) (hopening : e.socket.state.pastHandshake = false) :
    e.socket.inUse = true ∧ e.iss = some e.socket.sendSeq ∧ e.sendCount = 0 := by
  have huse : e.socket.inUse = true := by
    refine hs.idle rfl fun hclosed => ?_
    rw [hclosed] at hopening
    cases hopening
  rcases hs.seqOk huse with ⟨iss, hiss, -, hseq⟩
  refine ⟨huse, ?_⟩
  cases hcase : e.socket.state with
  | synSent | synReceived =>
      simp only [SendSeqOk, hcase] at hseq
      rw [TcpEnd.sendCount, hseq.1, hseq.2.1, hseq.2.2]
      exact ⟨hiss, rfl⟩
  | listen => simp [SendSeqOk, hcase] at hseq
  | _ =>
      rw [hcase] at hopening
      cases hopening

/-- No end receives more than was sent. -/
theorem ReceiverOk.recvCount_le_sendCount {e peer : TcpEnd} (hs : SenderOk e) (hr : ReceiverOk e peer) :
    e.recvCount ≤ peer.sendCount := by
  have hle := hr.entered_prefix.length_le
  rw [TcpEnd.recvCount, TcpEnd.sendCount]
  split
  · rename_i hconsumed
    rw [if_pos (hr.finConsumed hs hconsumed).1]
    exact Nat.add_le_add_right hle 1
  · exact Nat.le_add_right_of_le hle

section Calls

variable (addresses : TcpAddresses) (side : TcpSide) {e peer : TcpEnd} (hs : SenderOk e) (hr : ReceiverOk e peer)

include hs hr

theorem call_send {data : List UInt8} {socket : TcpSocket} {segment : TcpSegment}
    (h : magiSendTcp e.socket data = some (socket, segment)) :
    TcpCall addresses side e (e.afterSend socket data) [segment] := by
  have hdata : data.length ≤ tcpMaxPayload := by
    rw [magiSendTcp] at h
    split at h
    · cases h
    · rename_i hfits
      simp only [Bool.or_eq_true, decide_eq_true_eq, not_or] at hfits
      exact Nat.not_lt.mp hfits.2
  rcases magiSendTcp_eq_some h with ⟨hstate, sendBuffer, rfl, rfl⟩
  have huse := hs.idle hstate (by decide)
  rcases hr.entered_eq huse with ⟨hentered, hfreed⟩
  have hfin : e.finSent = false ∧ ∀ iss, e.iss = some iss → e.socket.sendSeq = streamSeq iss e.sent.length := by
    rcases hs.seqOk huse with ⟨iss, hiss, -, hseq⟩
    simp only [SendSeqOk, hstate] at hseq
    refine ⟨hseq.2, fun iss' hiss' => ?_⟩
    cases hiss.symm.trans hiss'
    exact hseq.1
  generalize hsocket : ({ e.socket with
      sendBuffer := sendBuffer
      sendSeq := e.socket.sendSeq + UInt32.ofNat data.length } : TcpSocket) = socket
  have hstate' : socket.state = .established := by rw [← hsocket, hstate]
  have huse' : socket.inUse = true := by rw [← hsocket, huse]
  have hbuffer : socket.recvBuffer = e.socket.recvBuffer := by rw [← hsocket]
  -- only the send side of the socket changes, and what was sent
  have hafter : e.afterSend socket data = { e with socket := socket, sent := e.sent ++ data } := by
    simp only [TcpEnd.afterSend, TcpEnd.withSocket, huse, huse', if_true, hbuffer, ← hentered]
    rfl
  have hconsumed : { e with socket := socket, sent := e.sent ++ data }.finConsumed = e.finConsumed := by
    rw [TcpEnd.finConsumed, TcpEnd.finConsumed, hstate', hstate]
  rw [hafter]
  refine ⟨?_, ?_, ?_, ?_, ?_, ?_, ?_, rfl, ?_, ?_, ?_, ?_⟩
  · intro hidle
    cases huse.symm.trans hidle
  · intro hopening
    rw [hstate] at hopening
    cases hopening
  · intro _
    rw [hstate']
    rfl
  · intro hawaits
    rw [hstate'] at hawaits
    cases hawaits
  · rw [← hsocket]
    exact ⟨rfl, rfl, rfl, rfl, rfl, rfl⟩
  · rw [← hsocket]
  · intro horder
    rw [← hsocket]
    exact horder.congr rfl rfl
  · exact TcpEnd.recvCount_congr rfl hconsumed
  · exact hconsumed
  · intro iss hiss
    refine .singleton (fun _ => ?_) (fun hflag => ?_) ?_
    · rw [tcpDataSegment, tcpStoreChecksum_seqNum, TcpEnd.sendCount, hfin.1]
      exact hfin.2 iss hiss
    · rw [tcpDataSegment_hasFlag] at hflag
      exact absurd hflag (by decide)
    · simp only [TcpEnd.sendCount, hfin.1, tcpDataSegment_span, List.length_append, Bool.false_eq_true, if_false, Nat.add_zero]
  · intro howns segment hsegment
    rw [List.mem_singleton.mp hsegment]
    exact Owns.addressed_data ⟨howns.localIp, howns.localPort, howns.remoteIp, howns.remotePort,
      howns.isListening⟩ hdata

theorem call_recv (maxLen : Nat) : TcpCall addresses side e (e.afterRecv maxLen) [] := by
  by_cases huse : e.socket.inUse = true
  swap
  · rw [afterRecv_free hs (by simpa using huse)]
    exact .refl addresses side e
  rcases tcpSocketRecv_frame e.socket maxLen with ⟨rest, hasData, hsocket, hdata⟩
  have hentered := (hr.entered_eq huse).1
  -- what is read was received before, so that the history stays
  have hafter : e.afterRecv maxLen =
      { e with
        delivered := e.delivered ++ (tcpSocketRecv e.socket maxLen).1
        socket := (tcpSocketRecv e.socket maxLen).2 } := by
    simp only [TcpEnd.afterRecv, hsocket, TcpEnd.withSocket, huse, if_true, List.append_assoc, hdata, ← hentered]
    rfl
  have hframe : (tcpSocketRecv e.socket maxLen).2.state = e.socket.state ∧
      (tcpSocketRecv e.socket maxLen).2.sendSeq = e.socket.sendSeq ∧
      (tcpSocketRecv e.socket maxLen).2.recvSeq = e.socket.recvSeq ∧
      SameTuple e.socket (tcpSocketRecv e.socket maxLen).2 := by
    rw [hsocket]
    exact ⟨rfl, rfl, rfl, ⟨rfl, rfl, rfl, rfl, rfl, rfl⟩⟩
  rcases hframe with ⟨hstate, hsend, hrecv, htuple⟩
  rw [hafter]
  have hconsumed : { e with
      delivered := e.delivered ++ (tcpSocketRecv e.socket maxLen).1
      socket := (tcpSocketRecv e.socket maxLen).2 }.finConsumed = e.finConsumed := by
    rw [TcpEnd.finConsumed, TcpEnd.finConsumed, hstate]
  refine ⟨?_, fun _ => ⟨hstate, hsend, rfl⟩, ?_, ?_, htuple, hrecv, fun horder => horder.recv maxLen, rfl, ?_, ?_,
    fun _ _ => rfl, fun _ _ h => absurd h List.not_mem_nil⟩
  · intro hidle
    cases huse.symm.trans hidle
  · intro hpast
    rw [← hpast]
    exact congrArg TcpState.pastHandshake hstate
  · intro hawaits
    rw [← hawaits]
    exact Or.inr ⟨(congrArg TcpState.awaitsFinAck hstate).symm, hsend⟩
  · exact TcpEnd.recvCount_congr rfl hconsumed
  · exact hconsumed

/-- `magi_close` on a connection whose FIN is not sent. -/
theorem call_fin (hstate : e.socket.state = .established ∨ e.socket.state = .closeWait) :
    TcpCall addresses side e e.afterClose (magiCloseTcp e.socket).2.toList := by
  have huse : e.socket.inUse = true := by
    rcases hstate with hcase | hcase
    · exact hs.idle hcase (by decide)
    · exact hs.idle hcase (by decide)
  rcases hr.entered_eq huse with ⟨hentered, hfreed⟩
  -- No FIN has been sent so far, and the next number is that of the next byte of the stream.
  have hfin : e.finSent = false ∧ ∀ iss, e.iss = some iss → e.socket.sendSeq = streamSeq iss e.sent.length := by
    rcases hs.seqOk huse with ⟨iss, hiss, -, hseq⟩
    have hopen : e.socket.sendSeq = streamSeq iss e.sent.length ∧ e.finSent = false := by
      rcases hstate with hcase | hcase
      all_goals
        simp only [SendSeqOk, hcase] at hseq
        exact hseq
    refine ⟨hopen.2, fun iss' hiss' => ?_⟩
    cases hiss.symm.trans hiss'
    exact hopen.1
  rcases magiCloseTcp_fin hstate with ⟨next, hnext, hconsumed, hclose⟩
  generalize hsocket : ({ e.socket with state := next, sendSeq := e.socket.sendSeq + 1 } : TcpSocket) = socket
    at hclose
  have hstate' : socket.state = next := by rw [← hsocket]
  have huse' : socket.inUse = true := by rw [← hsocket, huse]
  have hbuffer : socket.recvBuffer = e.socket.recvBuffer := by rw [← hsocket]
  have hafter : e.afterClose = { e with socket := socket, finSent := true } := by
    simp only [TcpEnd.afterClose, hclose, TcpEnd.withSocket, huse', if_true, hbuffer, ← hentered,
      Option.isSome_some, Bool.or_true]
    simp [hfreed]
  have hconsumed' : { e with socket := socket, finSent := true }.finConsumed = e.finConsumed := by
    rw [TcpEnd.finConsumed, TcpEnd.finConsumed, hstate', hconsumed]
  rw [hafter, hclose]
  refine ⟨?_, ?_, ?_, fun _ => Or.inl hfin.1, ?_, ?_, ?_, rfl, ?_, ?_, ?_, ?_⟩
  · intro hidle
    cases huse.symm.trans hidle
  · intro hopening
    rcases hstate with hcase | hcase
    all_goals
      rw [hcase] at hopening
      cases hopening
  · intro _
    rw [hstate']
    rcases hnext with rfl | rfl
    all_goals rfl
  · rw [← hsocket]
    exact ⟨rfl, rfl, rfl, rfl, rfl, rfl⟩
  · rw [← hsocket]
  · intro horder
    rw [← hsocket]
    exact horder.congr rfl rfl
  · exact TcpEnd.recvCount_congr rfl hconsumed'
  · exact hconsumed'
  · intro iss hiss
    refine .singleton (fun _ => ?_) (fun _ => tcpFinSegment_payload e.socket) ?_
    · rw [tcpFinSegment, tcpStoreChecksum_seqNum, TcpEnd.sendCount, hfin.1]
      exact hfin.2 iss hiss
    · simp only [TcpEnd.sendCount, hfin.1, tcpFinSegment_span, Bool.false_eq_true, if_false, if_true, Nat.add_zero]
  · intro howns segment hsegment
    rw [Option.toList_some, List.mem_singleton] at hsegment
    rw [hsegment]
    exact howns.addressed_fin

theorem call_close (hsynSent : e.socket.state ≠ .synSent) (hsynReceived : e.socket.state ≠ .synReceived) :
    TcpCall addresses side e e.afterClose (magiCloseTcp e.socket).2.toList := by
  have hsame : magiCloseTcp e.socket = (e.socket, none) → e.withSocket e.socket = e →
      TcpCall addresses side e e.afterClose (magiCloseTcp e.socket).2.toList := by
    intro hclose hwith
    rw [afterClose_unchanged hclose hwith, hclose]
    exact .refl addresses side e
  by_cases huse : e.socket.inUse = true
  · rcases hs.seqOk huse with ⟨iss, -, -, hseq⟩
    have hwith := hr.withSocket_self huse
    cases hstate : e.socket.state with
    | closed => simp [SendSeqOk, hstate] at hseq
    | listen => simp [SendSeqOk, hstate] at hseq
    | synSent => exact absurd hstate hsynSent
    | synReceived => exact absurd hstate hsynReceived
    | established => exact call_fin addresses side hs hr (Or.inl hstate)
    | closeWait => exact call_fin addresses side hs hr (Or.inr hstate)
    -- the FIN is sent already
    | _ => exact hsame (by simp only [magiCloseTcp, hstate]) hwith
  · have hfree := hs.free (by simpa using huse)
    have hwith := withSocket_free hs (by simpa using huse)
    rw [← hfree] at hwith
    refine hsame ?_ hwith
    rw [hfree]
    rfl

end Calls

/-- A call leaves what is on its way to its end in order. -/
theorem Direction.called {addresses : TcpAddresses} {side : TcpSide} {e e' peer : TcpEnd}
    {queue out : List TcpSegment} (h : Direction e peer queue) (hcall : TcpCall addresses side e e' out)
    (hs : SenderOk peer) (hr : ReceiverOk peer e) : Direction e' peer queue := by
  refine ⟨?_, fun iss hiss => ?_, fun hawaits => ?_⟩
  · rcases h.stage with ⟨huse, hstate, rfl, hack, hothers, hackNum, hseqNum, hpayload⟩ | ⟨huse, hpast⟩ |
      ⟨huse, hconsumed, hsent⟩
    · rcases hcall.opening (by rw [hstate]; rfl) with ⟨hstate', hsend, -⟩
      rw [← hsend] at hackNum
      rw [← hcall.recvSeq] at hseqNum
      exact .waiting (hcall.tuple.inUse.trans huse) (hstate'.trans hstate) rfl
        ⟨hack, hothers, hackNum, hseqNum, hpayload⟩
    · exact .connected (hcall.tuple.inUse.trans huse) (hcall.past hpast)
    · rw [(hcall.idle huse).1]
      exact .freed huse hconsumed hsent
  · rw [hcall.recvCount]
    exact h.inSequence iss hiss
  · rcases hcall.awaits hawaits with hunsent | ⟨hbefore, hsend⟩
    -- nobody has consumed a FIN that was not sent
    · refine Or.inl (Bool.eq_false_iff.mpr fun hconsumed => ?_)
      cases hunsent.symm.trans (hr.finConsumed hs hconsumed).1
    · refine (h.finAcked hbefore).imp_right ?_
      rintro ⟨segment, hsegment, hacks⟩
      refine ⟨segment, hsegment, ?_⟩
      rw [TcpSegment.AcksAll, hsend]
      exact hacks

theorem Direction.called_peer {addresses : TcpAddresses} {side : TcpSide} {e peer peer' : TcpEnd}
    {queue out : List TcpSegment} (h : Direction e peer queue) (hcall : TcpCall addresses side peer peer' out) :
    Direction e peer' (queue ++ out) := by
  refine h.sends hcall.iss hcall.inSequence fun _ hconsumed => ?_
  rw [hcall.finConsumed] at hconsumed
  exact Or.inl hconsumed

/-! ## Arrivals -/

/-- What a segment that arrives does to its end, and what is answered. -/
structure Taken (addresses : TcpAddresses) (side : TcpSide) (e e' : TcpEnd) (segment : TcpSegment)
    (out : List TcpSegment) : Prop where
  iss : e'.iss = e.iss
  sendCount : e'.sendCount = e.sendCount
  recvCount : e'.recvCount = e.recvCount + segment.span
  stage : ∀ rest, Stage e' rest
  awaits : e'.socket.state.awaitsFinAck = true →
    e.socket.state.awaitsFinAck = true ∧ e'.socket.sendSeq = e.socket.sendSeq ∧ ¬ segment.AcksAll e.socket
  bare : ∀ answer ∈ out, answer.span = 0
  acked : e'.finConsumed = true →
    e.finConsumed = true ∨ e'.socket.inUse = true ∧
      ∃ answer ∈ out, answer.hasFlag tcpFlagAck = true ∧ answer.ackNum = e'.socket.recvSeq
  inOrder : InOrder e'.socket
  tuple : e'.socket.inUse = true → SameTuple e.socket e'.socket
  addressed : (e.socket.inUse = true → Owns addresses side e.socket) →
    ∀ answer ∈ out, Addressed addresses side answer

theorem Direction.taken {addresses : TcpAddresses} {side : TcpSide} {e e' peer : TcpEnd} {segment : TcpSegment}
    {rest out : List TcpSegment} (h : Direction e peer (segment :: rest))
    (htaken : Taken addresses side e e' segment out) : Direction e' peer rest := by
  refine ⟨htaken.stage rest, fun iss hiss => ?_, fun hawaits => ?_⟩
  · rw [htaken.recvCount]
    exact (h.inSequence iss hiss).2.2
  · rcases htaken.awaits hawaits with ⟨hbefore, hseq, hnot⟩
    refine (h.finAcked hbefore).imp_right ?_
    rintro ⟨other, hother, hacks⟩
    -- the segment that arrived is not the one that acknowledges everything
    rcases List.mem_cons.mp hother with rfl | hrest
    · exact absurd hacks hnot
    · refine ⟨other, hrest, ?_⟩
      rw [TcpSegment.AcksAll, hseq]
      exact hacks

theorem Direction.answered {addresses : TcpAddresses} {side : TcpSide} {e e' peer : TcpEnd} {segment : TcpSegment}
    {queue out : List TcpSegment} (h : Direction peer e queue) (htaken : Taken addresses side e e' segment out)
    (hnumbers : peer.socket.state.awaitsFinAck = true → e'.finConsumed = true → e'.socket.inUse = true →
      e'.socket.recvSeq = peer.socket.sendSeq) : Direction peer e' (queue ++ out) := by
  refine h.sends htaken.iss (fun iss _ => ?_) (fun hawaits hconsumed => ?_)
  · rw [htaken.sendCount]
    exact .of_span htaken.bare
  · refine (htaken.acked hconsumed).imp_right ?_
    rintro ⟨huse, answer, hanswer, hack, hnum⟩
    refine ⟨answer, hanswer, ?_⟩
    rw [TcpSegment.AcksAll, hack, hnum, hnumbers hawaits hconsumed huse, beq_self_eq_true]
    rfl

/-- After a FIN is consumed, `recv_seq` is the number that its sender waits for. -/
theorem TcpWorld.Ok.recvSeq_eq_sendSeq {w : TcpWorld} (h : w.Ok) {side : TcpSide}
    (hconsumed : (w.ends side).finConsumed = true) (huse : (w.ends side).socket.inUse = true)
    (hawaits : (w.ends side.peer).socket.state.awaitsFinAck = true) :
    (w.ends side).socket.recvSeq = (w.ends side.peer).socket.sendSeq := by
  have hr := h.receiver side
  have hstate : (w.ends side).socket.state ≠ .synSent := by
    intro hsyn
    rw [TcpEnd.finConsumed, (hr.entered_eq huse).2, hsyn] at hconsumed
    cases hconsumed
  rcases hr.hearing_of_state huse hstate with ⟨irs, hirs, hear⟩
  have hcount : (w.ends side).recvCount = (w.ends side.peer).sent.length + 1 := by
    rw [TcpEnd.recvCount, if_pos hconsumed, (hr.finConsumed (h.sender side) hconsumed).2]
  have hpeerUse : (w.ends side.peer).socket.inUse = true := by
    refine (h.sender side.peer).idle rfl fun hclosed => ?_
    rw [hclosed] at hawaits
    cases hawaits
  rcases (h.sender side.peer).seqOk hpeerUse with ⟨iss, hiss, -, hseq⟩
  cases hear.peer_iss.symm.trans hiss
  rw [hear.recvSeq_eq huse, hcount, eq_comm]
  cases hcase : (w.ends side.peer).socket.state with
  | finWait1 | closing | lastAck =>
      simp only [SendSeqOk, hcase] at hseq
      exact hseq.1
  | _ =>
      rw [hcase] at hawaits
      cases hawaits

/-! ## What an open end does about a segment -/

theorem TcpState.afterNext_of_receiving {state : TcpState} (h : state.receiving = true) (fin acked : Bool) :
    (state.afterNext fin acked).pastHandshake = true ∧ (state.afterNext fin acked).finConsumed = fin ∧
      ((state.afterNext fin acked).awaitsFinAck = true → state.awaitsFinAck = true ∧ acked = false) := by
  cases state
  all_goals cases h
  all_goals
    cases fin
    all_goals
      cases acked
      all_goals decide

section Taken

variable (addresses : TcpAddresses) (side : TcpSide) {e peer : TcpEnd} (hr : ReceiverOk e peer)
  (huse : e.socket.inUse = true) (horder : InOrder e.socket) {segment : TcpSegment}

include hr huse horder

/-- A segment that takes no number, and changes only the state and the send side. -/
theorem taken_quiet {socket : TcpSocket} (hspan : segment.span = 0) (htuple : SameTuple e.socket socket)
    (hbuffer : socket.recvBuffer = e.socket.recvBuffer) (hdata : socket.hasData = e.socket.hasData)
    (hconsumed : socket.state.finConsumed = e.socket.state.finConsumed)
    (hpast : socket.state.pastHandshake = true)
    (hawaits : socket.state.awaitsFinAck = true →
      e.socket.state.awaitsFinAck = true ∧ socket.sendSeq = e.socket.sendSeq ∧ ¬ segment.AcksAll e.socket) :
    Taken addresses side e (e.withSocket socket) segment [] := by
  rcases hr.entered_eq huse with ⟨hentered, hfreed⟩
  have huse' : socket.inUse = true := htuple.inUse.trans huse
  have hsame : (e.withSocket socket).entered = e.entered := by
    simp only [TcpEnd.withSocket, huse', if_true, hbuffer, hentered]
  have hfreed' : (e.withSocket socket).freedFrom = none := by
    simp only [TcpEnd.withSocket, huse', hfreed, Bool.not_true, Bool.and_false, Bool.false_eq_true, if_false]
  have hfin : (e.withSocket socket).finConsumed = e.finConsumed := by
    rw [TcpEnd.finConsumed, TcpEnd.finConsumed, hfreed, hfreed', TcpEnd.withSocket_socket, hconsumed]
  refine ⟨rfl, rfl, ?_, fun rest => .connected huse' hpast, hawaits, fun _ h => absurd h List.not_mem_nil, ?_,
    horder.congr hbuffer hdata, fun _ => htuple, fun _ _ h => absurd h List.not_mem_nil⟩
  · rw [hspan]
    exact TcpEnd.recvCount_congr hsame hfin
  · intro h
    rw [hfin] at h
    exact Or.inl h

theorem taken_unchanged (hspan : segment.span = 0) (hpast : e.socket.state.pastHandshake = true)
    (hawaits : e.socket.state.awaitsFinAck = true → ¬ segment.AcksAll e.socket) :
    Taken addresses side e (e.withSocket e.socket) segment [] :=
  taken_quiet addresses side hr huse horder hspan (.refl _) rfl rfl rfl hpast fun h => ⟨h, rfl, hawaits h⟩

/-- The next segment at a connection that takes data. -/
theorem taken_next (hport : 0 < addresses.port side) (howns : Owns addresses side e.socket)
    (hstate : e.socket.state.receiving = true) (hnext : Next e.socket segment) (srcIp dstIp : IpAddress) :
    let outcome := tcpReceiveByState e.socket segment srcIp dstIp tcpInit
    Taken addresses side e (e.withSocket outcome.socket) segment (tcpReply outcome).toList := by
  intro outcome
  rcases tcpReceiveByState_next horder hnext (howns.localPort ▸ hport) hstate srcIp dstIp with ⟨htook, hreply⟩
  change Took e.socket segment outcome.socket at htook
  change tcpReply outcome = _ at hreply
  rcases hr.entered_eq huse with ⟨hentered, hfreed⟩
  have huse' : outcome.socket.inUse = true := htook.tuple.inUse.trans huse
  -- A receiving state consumes a FIN exactly when the segment bears one.
  rcases TcpState.afterNext_of_receiving hstate (segment.hasFlag tcpFlagFin)
    (segment.hasFlag tcpFlagAck && segment.ackNum == e.socket.sendSeq) with ⟨hpast, hconsumed, hawaits⟩
  rw [← htook.state] at hpast hconsumed hawaits
  have hentered' : (e.withSocket outcome.socket).entered = e.entered ++ segment.payload := by
    simp only [TcpEnd.withSocket, huse', if_true, htook.data, hentered, List.append_assoc]
  have hfreed' : (e.withSocket outcome.socket).freedFrom = none := by
    simp only [TcpEnd.withSocket, huse', hfreed, Bool.not_true, Bool.and_false, Bool.false_eq_true, if_false]
  have hopen : e.finConsumed = false := by
    rw [TcpEnd.finConsumed, hfreed]
    cases hcase : e.socket.state with
    | established | finWait1 | finWait2 => rfl
    | _ =>
        rw [hcase] at hstate
        cases hstate
  have hfin : (e.withSocket outcome.socket).finConsumed = segment.hasFlag tcpFlagFin := by
    rw [TcpEnd.finConsumed, hfreed', TcpEnd.withSocket_socket, hconsumed]
    exact Bool.or_false _
  have hanswer : ∀ answer ∈ (tcpReply outcome).toList, answer = tcpPrepareAck outcome.socket := by
    intro answer hanswer
    rw [hreply] at hanswer
    split at hanswer
    · cases hanswer
    · exact List.mem_singleton.mp hanswer
  refine ⟨rfl, rfl, ?_, fun rest => .connected huse' hpast, ?_, ?_, ?_, htook.inOrder, fun _ => htook.tuple, ?_⟩
  · rw [TcpEnd.recvCount, TcpEnd.recvCount, hfin, hopen, hentered', List.length_append, TcpSegment.span]
    simp only [Bool.false_eq_true, if_false, Nat.add_zero, Nat.add_assoc]
  · intro hafter
    rcases hawaits hafter with ⟨hbefore, hacked⟩
    refine ⟨hbefore, htook.sendSeq, ?_⟩
    rw [TcpSegment.AcksAll, hacked]
    exact Bool.false_ne_true
  · intro answer hmem
    rw [hanswer answer hmem]
    exact tcpPrepareAck_span outcome.socket
  · intro hafter
    rw [hfin] at hafter
    have hspan : segment.span ≠ 0 := by
      intro hzero
      cases hafter.symm.trans (TcpSegment.span_eq_zero_iff.mp hzero).2
    rw [hreply, if_neg hspan]
    refine Or.inr ⟨huse', _, List.mem_singleton_self _, ?_, tcpStoreChecksum_ackNum ..⟩
    rw [TcpSegment.hasFlag, tcpPrepareAck_flags]
    decide
  · intro _ answer hmem
    rw [hanswer answer hmem]
    exact (howns.congr htook.tuple).addressed_ack

/-- The last segment of the handshake, at the socket that waits for it. -/
theorem taken_handshake (hstate : e.socket.state = .synReceived) (hends : EndsHandshake e.socket segment)
    (srcIp dstIp : IpAddress) :
    let outcome := tcpReceiveByState e.socket segment srcIp dstIp tcpInit
    Taken addresses side e (e.withSocket outcome.socket) segment (tcpReply outcome).toList := by
  have hfin : segment.hasFlag tcpFlagFin = false := by
    refine Bool.eq_false_iff.mpr fun hflag => ?_
    have hmask : segment.hasFlag (tcpFlagSyn ||| tcpFlagFin ||| tcpFlagRst) = true :=
      segment.hasFlag_of_submask (by decide) hflag
    cases hmask.symm.trans hends.others
  have houtcome : tcpReceiveByState e.socket segment srcIp dstIp tcpInit =
      tcpAbsorb
        { e.socket with
          sendAck := segment.ackNum
          sendSeq := segment.ackNum
          state := .established } tcpInit := by
    rw [tcpReceiveByState, hstate]
    simp only [tcpReceiveSynReceived, hends.ack, hends.others, hends.ackNum, hends.seqNum, hends.payload,
      Bool.not_false, Bool.and_self, beq_self_eq_true, if_true, List.isEmpty_nil]
  intro outcome
  change Taken addresses side e (e.withSocket (tcpReceiveByState e.socket segment srcIp dstIp tcpInit).socket) segment
    (tcpReply (tcpReceiveByState e.socket segment srcIp dstIp tcpInit)).toList
  rw [houtcome]
  refine taken_quiet addresses side hr huse horder ?_ ⟨rfl, rfl, rfl, rfl, rfl, rfl⟩ rfl rfl ?_ rfl ?_
  · exact TcpSegment.span_eq_zero_iff.mpr ⟨hends.payload, hfin⟩
  · rw [hstate]
    rfl
  · intro hawaits
    cases hawaits

omit hr horder in
/-- The socket is freed when the last FIN is acknowledged. -/
theorem taken_freed (hs : SenderOk e) (hspan : segment.span = 0) (hstate : e.socket.state = .lastAck) :
    Taken addresses side e (e.withSocket tcpSocketFree) segment [] := by
  have hsent : e.finSent = true := by
    rcases hs.seqOk huse with ⟨iss, -, -, hseq⟩
    simp only [SendSeqOk, hstate] at hseq
    exact hseq.2
  have hconsumed : e.finConsumed = true := by
    rw [TcpEnd.finConsumed, hstate]
    rfl
  have hconsumed' : (e.withSocket tcpSocketFree).finConsumed = true := by
    simp only [TcpEnd.finConsumed, TcpEnd.withSocket, huse, hstate]
    rfl
  refine ⟨rfl, rfl, ?_, fun rest => .freed rfl hconsumed' hsent, fun h => absurd h Bool.false_ne_true,
    fun _ h => absurd h List.not_mem_nil, fun _ => Or.inl hconsumed, .of_empty rfl rfl,
    fun h => absurd h Bool.false_ne_true, fun _ _ h => absurd h List.not_mem_nil⟩
  rw [hspan]
  exact TcpEnd.recvCount_congr rfl (hconsumed'.trans hconsumed.symm)

/-- A segment at a connection that has consumed its peer's FIN. -/
theorem taken_finished (hs : SenderOk e) (hspan : segment.span = 0) (hstate : e.socket.state.finConsumed = true)
    (srcIp dstIp : IpAddress) :
    let outcome := tcpReceiveByState e.socket segment srcIp dstIp tcpInit
    Taken addresses side e (e.withSocket outcome.socket) segment (tcpReply outcome).toList := by
  have hpast : e.socket.state.pastHandshake = true := by
    cases hcase : e.socket.state with
    | closeWait | lastAck | closing | timeWait => rfl
    | _ =>
        rw [hcase] at hstate
        cases hstate
  -- A segment that does not acknowledge everything changes nothing in these states.
  have hnot : (segment.hasFlag tcpFlagAck && segment.ackNum == e.socket.sendSeq) ≠ true →
      Taken addresses side e (e.withSocket e.socket) segment [] :=
    fun h => taken_unchanged addresses side hr huse horder hspan hpast fun _ => h
  intro outcome
  change Taken addresses side e (e.withSocket (tcpReceiveByState e.socket segment srcIp dstIp tcpInit).socket) segment
    (tcpReply (tcpReceiveByState e.socket segment srcIp dstIp tcpInit)).toList
  cases hcase : e.socket.state with
  | closeWait | timeWait =>
      rw [tcpReceiveByState, hcase]
      refine taken_unchanged addresses side hr huse horder hspan hpast fun hawaits => ?_
      rw [hcase] at hawaits
      cases hawaits
  | closing =>
      rw [tcpReceiveByState, hcase]
      simp only [tcpReceiveClosing]
      split
      · refine taken_quiet addresses side hr huse horder hspan ⟨rfl, rfl, rfl, rfl, rfl, rfl⟩ rfl rfl ?_ rfl ?_
        · rw [hcase]
          rfl
        · intro hawaits
          cases hawaits
      · rename_i hnone
        exact hnot hnone
  | lastAck =>
      rw [tcpReceiveByState, hcase]
      simp only [tcpReceiveLastAck]
      split
      · exact taken_freed addresses side huse hs hspan hcase
      · rename_i hnone
        exact hnot hnone
  | _ =>
      rw [hcase] at hstate
      cases hstate

end Taken

/-- The state of an end in use whose handshake is over. -/
theorem TcpState.receiving_or_finConsumed {state : TcpState} (hpast : state.pastHandshake = true)
    (hclosed : state ≠ .closed) : state.receiving = true ∨ state.finConsumed = true := by
  cases state with
  | closed => exact absurd rfl hclosed
  | established | finWait1 | finWait2 => exact Or.inl rfl
  | closing | timeWait | closeWait | lastAck => exact Or.inr rfl
  | _ => cases hpast

end MagiStack
