import MagiStack.Layer4.TcpInvariant

/-!
# TcpPreserve — one step keeps the facts

Each call of an application and each state of `tcp_socket_receive_segment` is shown to lead to a
later version of its end for which the facts of `TcpInvariant` hold again, and to send only segments
for which they hold.
-/

namespace MagiStack

open Reassembly

/-! ## Fields of the segments sent -/

theorem tcpReply_eq_some {outcome : TcpReceive} {segment : TcpSegment}
    (h : tcpReply outcome = some segment) :
    segment = outcome.response ∧ outcome.response.flags ≠ 0 := by
  rw [tcpReply] at h
  split at h
  · rename_i hcond
    cases h
    simp only [Bool.and_eq_true, bne_iff_ne] at hcond
    exact ⟨rfl, hcond.1.2⟩
  · cases h

/-! ## One end -/

/-- A step of one end: its next version, and the segments it sends. -/
structure EndStep (e peer e' : TcpEnd) (out : List TcpSegment) : Prop where
  later : Later e e'
  sender : SenderOk e'
  receiver : ReceiverOk e' peer
  out : ∀ segment ∈ out, ∃ iss, SegmentOk e' peer iss segment

theorem Later.refl (e : TcpEnd) : Later e e :=
  ⟨fun _ h => h, List.prefix_refl e.sent, fun h => ⟨h, rfl⟩, le_refl _⟩

theorem EndStep.refl {e peer : TcpEnd} (hs : SenderOk e) (hr : ReceiverOk e peer) :
    EndStep e peer e [] :=
  ⟨Later.refl e, hs, hr, fun _ h => absurd h List.not_mem_nil⟩

theorem SenderOk.iss_of_inUse {e : TcpEnd} (h : SenderOk e) (huse : e.socket.inUse = true) :
    ∃ iss, e.iss = some iss := by
  cases hiss : e.iss with
  | some iss => exact ⟨iss, rfl⟩
  | none =>
      rw [h.absent hiss] at huse
      cases huse

theorem SenderOk.seqOk {e : TcpEnd} (h : SenderOk e) (huse : e.socket.inUse = true) :
    ∃ iss, e.iss = some iss ∧ iss.toNat ≤ 67535 ∧ SendSeqOk e iss := by
  obtain ⟨iss, hiss⟩ := h.iss_of_inUse huse
  exact ⟨iss, hiss, h.iss_le iss hiss, h.sendSeq iss hiss huse⟩

/-- An end in use whose socket is past SYN_SENT knows its peer's number. -/
theorem ReceiverOk.hearing_of_state {e peer : TcpEnd} (h : ReceiverOk e peer)
    (huse : e.socket.inUse = true) (hstate : e.socket.state ≠ .synSent) :
    ∃ irs, e.irs = some irs ∧ Hearing e peer irs := by
  cases hirs : e.irs with
  | some irs => exact ⟨irs, rfl, h.hearing irs hirs⟩
  | none => exact absurd ((h.unheard hirs).state huse).1 hstate

/-! An end whose socket is in use meets its invariants when the live half of each holds. -/

theorem SenderOk.of_inUse {e : TcpEnd} {iss : UInt32} (huse : e.socket.inUse = true)
    (hiss : e.iss = some iss) (hle : iss.toNat ≤ 67535) (hseq : SendSeqOk e iss) : SenderOk e where
  absent hnone := by
    cases hiss.symm.trans hnone
  iss_le iss' hiss' := by
    cases hiss.symm.trans hiss'
    exact hle
  sendSeq iss' hiss' _ := by
    cases hiss.symm.trans hiss'
    exact hseq
  free hfree := by
    cases huse.symm.trans hfree

theorem Hearing.of_inUse {e peer : TcpEnd} {irs : UInt32} (huse : e.socket.inUse = true)
    (hpeer : peer.iss = some irs) (hstate : e.socket.state ≠ .synSent) (hfreed : e.freedFrom = none)
    (hentered : e.entered = e.delivered ++ e.socket.recvBuffer.data)
    (hstream : StreamOk peer irs e.delivered e.socket) : Hearing e peer irs where
  peer_iss := hpeer
  stream _ := ⟨hstate, hfreed, hentered, hstream⟩
  freed hfree := by
    cases huse.symm.trans hfree

theorem Hearing.receiverOk {e peer : TcpEnd} {irs : UInt32} (h : Hearing e peer irs)
    (hirs : e.irs = some irs) : ReceiverOk e peer where
  unheard hnone := by
    cases hirs.symm.trans hnone
  hearing irs' hirs' := by
    cases hirs.symm.trans hirs'
    exact h

/-- A socket in use that hears its peer may be replaced by one that still does. -/
theorem endStep_withSocket {e peer : TcpEnd} {irs : UInt32} {socket : TcpSocket}
    (hs : SenderOk e) (hirs : e.irs = some irs) (hear : Hearing e peer irs)
    (huse : e.socket.inUse = true) (huse' : socket.inUse = true)
    (hstate : socket.state ≠ .synSent)
    (hseq : ∀ iss, e.iss = some iss → SendSeqOk (e.withSocket socket) iss)
    (hstream : StreamOk peer irs e.delivered socket)
    (hdata : e.socket.recvBuffer.data.length ≤ socket.recvBuffer.data.length)
    (hfin : e.socket.state.finConsumed = true → socket.state.finConsumed = true) :
    EndStep e peer (e.withSocket socket) [] := by
  obtain ⟨-, hfreed, hentered, -⟩ := hear.stream huse
  have hfreed' : (e.withSocket socket).freedFrom = none := by
    simp [TcpEnd.withSocket, huse', hfreed]
  have hentered' : (e.withSocket socket).entered = e.delivered ++ socket.recvBuffer.data := by
    simp [TcpEnd.withSocket, huse']
  refine ⟨⟨fun _ h => h, List.prefix_refl _, fun h => ⟨h, rfl⟩, ?_⟩, ?_, ?_, ?_⟩
  -- The count of what was received grows with the buffer and with the FIN.
  · have hlen : e.entered.length ≤ (e.withSocket socket).entered.length := by
      rw [hentered, hentered', List.length_append, List.length_append]
      omega
    have hconsumed : e.finConsumed = true → (e.withSocket socket).finConsumed = true := by
      rw [TcpEnd.finConsumed, TcpEnd.finConsumed, hfreed, hfreed', TcpEnd.withSocket_socket]
      simpa using hfin
    rw [TcpEnd.recvCount, TcpEnd.recvCount]
    split
    · rename_i hold
      rw [if_pos (hconsumed hold)]
      omega
    · omega
  · obtain ⟨iss, hiss⟩ := hs.iss_of_inUse huse
    exact SenderOk.of_inUse huse' hiss (hs.iss_le iss hiss) (hseq iss hiss)
  · have hear' : Hearing (e.withSocket socket) peer irs :=
      Hearing.of_inUse huse' hear.peer_iss hstate hfreed' hentered' hstream
    exact hear'.receiverOk hirs
  · intro segment h
    cases h

theorem EndStep.with_out {e peer e' : TcpEnd} {out : List TcpSegment} (h : EndStep e peer e' [])
    (hout : ∀ segment ∈ out, ∃ iss, SegmentOk e' peer iss segment) : EndStep e peer e' out :=
  ⟨h.later, h.sender, h.receiver, hout⟩

/-- A segment that acknowledges the socket's `recv_seq`, sets no SYN, and whose payload and FIN are
in place. -/
theorem segmentOk_ack {e peer : TcpEnd} {iss irs : UInt32} {segment : TcpSegment}
    (hiss : e.iss = some iss) (hear : Hearing e peer irs) (huse : e.socket.inUse = true)
    (hack : segment.ackNum = e.socket.recvSeq) (hsyn : segment.hasFlag tcpFlagSyn = false)
    (hslice : segment.payload ≠ [] → IsSlice e.sent iss segment.seqNum segment.payload)
    (hfin : segment.hasFlag tcpFlagFin = true →
      segment.payload = [] ∧ e.finSent = true ∧ segment.seqNum = streamSeq iss e.sent.length) :
    SegmentOk e peer iss segment := by
  refine ⟨hiss, ?_, hslice, hfin, ?_⟩
  · intro h
    rw [hsyn] at h
    cases h
  · intro _
    exact ⟨irs, e.recvCount, hear.peer_iss, le_refl _, by rw [hack, hear.recvSeq_eq huse]⟩

theorem segmentOk_tcpPrepareAck {e peer : TcpEnd} {iss irs : UInt32} {socket : TcpSocket}
    (hiss : e.iss = some iss) (hear : Hearing e peer irs) (huse : e.socket.inUse = true)
    (hseq : socket.recvSeq = e.socket.recvSeq) :
    SegmentOk e peer iss (tcpPrepareAck socket) := by
  refine segmentOk_ack hiss hear huse ?_ ?_ ?_ ?_
  · simp only [tcpPrepareAck, tcpStoreChecksum_ackNum, hseq]
  · rw [tcpPrepareAck, tcpStoreChecksum_hasFlag]
    change (tcpFlagAck &&& tcpFlagSyn != 0) = false
    decide
  · intro hne
    simp [tcpPrepareAck, tcpInit] at hne
  · intro hflag
    rw [tcpPrepareAck, tcpStoreChecksum_hasFlag] at hflag
    change (tcpFlagAck &&& tcpFlagFin != 0) = true at hflag
    exact absurd hflag (by decide)

/-! ## The receive side of one socket -/

theorem StreamOk.congr {peer : TcpEnd} {irs : UInt32} {delivered : List UInt8}
    {socket socket' : TcpSocket} (h : StreamOk peer irs delivered socket)
    (hstate : socket'.state.finConsumed = socket.state.finConsumed)
    (hbuffer : socket'.recvBuffer = socket.recvBuffer) (hseq : socket'.recvSeq = socket.recvSeq) :
    StreamOk peer irs delivered socket' := by
  cases hcase : socket.state.finConsumed with
  | true =>
      rw [streamOk_finished hcase] at h
      rw [streamOk_finished (hstate.trans hcase), hbuffer, hseq]
      exact h
  | false =>
      rw [streamOk_open hcase] at h
      rw [streamOk_open (hstate.trans hcase), hbuffer]
      obtain ⟨n, hat, hdata⟩ := h
      exact ⟨n, ⟨hseq.trans hat.recvSeq_eq, hat.le_length, by rw [hbuffer]; exact hat.agrees⟩, hdata⟩

theorem StreamOk.buffer {peer : TcpEnd} {irs seqNum : UInt32} {delivered payload : List UInt8}
    {socket : TcpSocket} (h : StreamOk peer irs delivered socket)
    (hopen : socket.state.finConsumed = false)
    (hbound : irs.toNat + 1 + peer.sent.length < 2 ^ 32)
    (hslice : payload ≠ [] → IsSlice peer.sent irs seqNum payload) :
    StreamOk peer irs delivered (tcpBufferPayload socket seqNum payload).2 ∧
      socket.recvBuffer.data.length ≤
        (tcpBufferPayload socket seqNum payload).2.recvBuffer.data.length := by
  rw [streamOk_open hopen] at h
  obtain ⟨n, hat, hdata⟩ := h
  obtain ⟨m, hstep⟩ := tcpBufferPayload_streamStep hat hbound hslice
  have hdata' := hstep.data_eq delivered hdata
  constructor
  · rw [streamOk_open (by rw [tcpBufferPayload_state, hopen])]
    exact ⟨m, hstep.streamAt, hdata'⟩
  · have hlen := congrArg List.length hdata
    have hlen' := congrArg List.length hdata'
    have hle := hstep.le
    simp only [List.length_append, List.length_take] at hlen hlen'
    omega

/-- A FIN in order ends the stream. -/
theorem StreamOk.fin {peer : TcpEnd} {irs : UInt32} {delivered : List UInt8} {socket : TcpSocket}
    {next : TcpState} (h : StreamOk peer irs delivered socket)
    (hopen : socket.state.finConsumed = false)
    (hbound : irs.toNat + 1 + peer.sent.length < 2 ^ 32) (hsent : peer.finSent = true)
    (hseq : socket.recvSeq = streamSeq irs peer.sent.length)
    (hnext : next.finConsumed = true) :
    StreamOk peer irs delivered
      { socket with recvSeq := socket.recvSeq + 1, state := next } := by
  rw [streamOk_open hopen] at h
  obtain ⟨n, hat, hdata⟩ := h
  have hle := hat.le_length
  have hn : n = peer.sent.length :=
    streamSeq_inj (by omega) hbound (hat.recvSeq_eq.symm.trans hseq)
  rw [streamOk_finished hnext]
  refine ⟨hsent, ?_, ?_⟩
  · rw [hdata, hn, List.take_length]
  · simp only [hseq, streamSeq_succ]

/-! ## Arriving segments -/

/-- What a segment leaves behind at a socket in use that hears its peer. -/
structure OutcomeOk (e peer : TcpEnd) (irs : UInt32) (outcome : TcpReceive) : Prop where
  inUse : outcome.socket.inUse = true
  state : outcome.socket.state ≠ .synSent
  sendSeq : ∀ iss, e.iss = some iss → SendSeqOk (e.withSocket outcome.socket) iss
  stream : StreamOk peer irs e.delivered outcome.socket
  data : e.socket.recvBuffer.data.length ≤ outcome.socket.recvBuffer.data.length
  fin : e.socket.state.finConsumed = true → outcome.socket.state.finConsumed = true
  response : outcome.response.flags = 0 ∨
    ∃ socket, socket.recvSeq = outcome.socket.recvSeq ∧ outcome.response = tcpPrepareAck socket

/-- The end that receives a segment, and the segment. -/
structure Arrival (e peer : TcpEnd) (irs : UInt32) (segment : TcpSegment) : Prop where
  sender : SenderOk e
  irs_eq : e.irs = some irs
  hearing : Hearing e peer irs
  inUse : e.socket.inUse = true
  bound : irs.toNat + 1 + peer.sent.length < 2 ^ 32
  segment : SegmentOk peer e irs segment

theorem Arrival.stream {e peer : TcpEnd} {irs : UInt32} {segment : TcpSegment}
    (h : Arrival e peer irs segment) : StreamOk peer irs e.delivered e.socket :=
  (h.hearing.stream h.inUse).2.2.2

theorem Arrival.endStep {e peer : TcpEnd} {irs : UInt32} {segment : TcpSegment}
    {outcome : TcpReceive} (h : Arrival e peer irs segment) (hlisten : e.socket.state ≠ .listen)
    (hout : OutcomeOk e peer irs outcome) :
    EndStep e peer (e.afterReceive segment outcome) (tcpReply outcome).toList := by
  have hstate := (h.hearing.stream h.inUse).1
  rw [TcpEnd.afterReceive_eq_withSocket (Or.inr ⟨hlisten, hstate⟩)]
  have hstep := endStep_withSocket h.sender h.irs_eq h.hearing h.inUse hout.inUse hout.state
    hout.sendSeq hout.stream hout.data hout.fin
  refine hstep.with_out ?_
  intro reply hreply
  obtain ⟨rfl, hflags⟩ := tcpReply_eq_some (Option.mem_toList.1 hreply)
  obtain ⟨iss, hiss⟩ := h.sender.iss_of_inUse h.inUse
  obtain hzero | ⟨socket, hseq, heq⟩ := hout.response
  · exact absurd hzero hflags
  · rw [heq]
    exact ⟨iss, segmentOk_tcpPrepareAck hiss
      (hstep.receiver.hearing irs h.irs_eq) hout.inUse hseq⟩

/-- A socket that keeps its state, its `send_seq` and its place in the stream. -/
theorem Arrival.unchanged {e peer : TcpEnd} {irs : UInt32} {segment : TcpSegment}
    (h : Arrival e peer irs segment) (accepted : Bool) :
    OutcomeOk e peer irs { accepted := accepted, socket := e.socket, response := tcpInit } := by
  refine ⟨h.inUse, (h.hearing.stream h.inUse).1, ?_, h.stream, le_refl _, fun hfin => hfin,
    Or.inl rfl⟩
  intro iss hiss
  exact h.sender.sendSeq iss hiss h.inUse

/-- The segment's payload is buffered; the socket keeps its state and its `send_seq`. -/
theorem Arrival.buffer {e peer : TcpEnd} {irs : UInt32} {segment : TcpSegment}
    (h : Arrival e peer irs segment) {socket : TcpSocket}
    (hopen : socket.state.finConsumed = false) (hstream : StreamOk peer irs e.delivered socket) :
    StreamOk peer irs e.delivered (tcpBufferPayload socket segment.seqNum segment.payload).2 ∧
      socket.recvBuffer.data.length ≤
        (tcpBufferPayload socket segment.seqNum segment.payload).2.recvBuffer.data.length :=
  hstream.buffer hopen h.bound h.segment.slice

/-- The FIN branch at a socket that has not consumed a FIN. -/
theorem Arrival.fin {e peer : TcpEnd} {irs : UInt32} {segment : TcpSegment}
    (h : Arrival e peer irs segment) {socket : TcpSocket} {next : TcpState}
    (hstream : StreamOk peer irs e.delivered socket) (huse : socket.inUse = true)
    (hopen : socket.state.finConsumed = false) (hstate : socket.state ≠ .synSent)
    (hdata : e.socket.recvBuffer.data.length ≤ socket.recvBuffer.data.length)
    (heopen : e.socket.state.finConsumed = false)
    (hflag : segment.hasFlag tcpFlagFin = true) (hnext : next.finConsumed = true)
    (hseq : ∀ iss, e.iss = some iss → SendSeqOk (e.withSocket socket) iss)
    (hseq' : ∀ iss recvSeq, e.iss = some iss →
      SendSeqOk (e.withSocket { socket with recvSeq := recvSeq, state := next }) iss) :
    OutcomeOk e peer irs (tcpReceiveFin socket segment next) := by
  rw [tcpReceiveFin]
  split
  · -- A FIN out of order is only answered.
    exact ⟨huse, hstate, hseq, hstream, hdata, by simp [heopen],
      Or.inr ⟨socket, rfl, rfl⟩⟩
  · rename_i horder
    -- In order, it stands at the end of all that the peer has sent.
    obtain ⟨hpayload, hsent, hnum⟩ := h.segment.fin hflag
    have hrecv : socket.recvSeq = streamSeq irs peer.sent.length := by
      rw [← hnum]
      have heq := not_not.1 horder
      rw [hpayload] at heq
      simpa using heq.symm
    refine ⟨huse, ?_, fun iss hiss => hseq' iss _ hiss,
      hstream.fin hopen h.bound hsent hrecv hnext, hdata, by simp [heopen],
      Or.inr ⟨_, rfl, rfl⟩⟩
    intro hbad
    simp only at hbad
    rw [hbad] at hnext
    cases hnext

/-- `send_seq` of an end with a known number, in the state it is in. -/
theorem Arrival.seqOk {e peer : TcpEnd} {irs : UInt32} {segment : TcpSegment}
    (h : Arrival e peer irs segment) {iss : UInt32} (hiss : e.iss = some iss) :
    SendSeqOk e iss :=
  h.sender.sendSeq iss hiss h.inUse

theorem SendSeqOk.congr {e : TcpEnd} {iss : UInt32} {socket : TcpSocket} (h : SendSeqOk e iss)
    (hstate : socket.state = e.socket.state) (hseq : socket.sendSeq = e.socket.sendSeq) :
    SendSeqOk (e.withSocket socket) iss := by
  rw [SendSeqOk, TcpEnd.withSocket_socket, TcpEnd.withSocket_sent, TcpEnd.withSocket_finSent,
    hstate, hseq]
  exact h

/-- The socket of the end with the payload of the segment buffered, and no FIN looked at yet. -/
structure Buffered (e peer : TcpEnd) (irs : UInt32) (socket : TcpSocket) : Prop where
  inUse : socket.inUse = true
  state : socket.state = e.socket.state
  sendSeq : socket.sendSeq = e.socket.sendSeq
  stream : StreamOk peer irs e.delivered socket
  data : e.socket.recvBuffer.data.length ≤ socket.recvBuffer.data.length

/-- Buffering the payload does so, whatever an acknowledgement has done to the send buffer before. -/
theorem Arrival.buffered {e peer : TcpEnd} {irs : UInt32} {segment : TcpSegment}
    (h : Arrival e peer irs segment) (hopen : e.socket.state.finConsumed = false)
    (sendBuffer : TcpSendBuffer) (sendAck : UInt32) :
    Buffered e peer irs
      (tcpBufferPayload { e.socket with sendBuffer := sendBuffer, sendAck := sendAck } segment.seqNum
        segment.payload).2 := by
  generalize hbefore : ({ e.socket with sendBuffer := sendBuffer, sendAck := sendAck } : TcpSocket) = socket
  have hstate : socket.state = e.socket.state := by rw [← hbefore]
  have hstream : StreamOk peer irs e.delivered socket :=
    h.stream.congr (by rw [hstate]) (by rw [← hbefore]) (by rw [← hbefore])
  obtain ⟨hbuffered, hdata⟩ := h.buffer (by rw [hstate, hopen]) hstream
  rw [← hbefore] at hdata
  exact
    { inUse := by rw [tcpBufferPayload_inUse, ← hbefore, ← h.inUse]
      state := by rw [tcpBufferPayload_state, hstate]
      sendSeq := by rw [tcpBufferPayload_sendSeq, ← hbefore]
      stream := hbuffered
      data := hbefore ▸ hdata }

section Buffered

variable {e peer : TcpEnd} {irs : UInt32} {segment : TcpSegment} {socket : TcpSocket}

theorem Buffered.seqOk (hb : Buffered e peer irs socket) (h : Arrival e peer irs segment)
    {iss : UInt32} (hiss : e.iss = some iss) : SendSeqOk (e.withSocket socket) iss :=
  (h.seqOk hiss).congr hb.state hb.sendSeq

/-- Without a FIN, the socket is left as it is now, and is acknowledged or not. -/
theorem Buffered.outcomeOk (hb : Buffered e peer irs socket) (h : Arrival e peer irs segment)
    {accepted : Bool} {response : TcpSegment}
    (hresponse : response.flags = 0 ∨
      ∃ answered, answered.recvSeq = socket.recvSeq ∧ response = tcpPrepareAck answered) :
    OutcomeOk e peer irs { accepted := accepted, socket := socket, response := response } where
  inUse := hb.inUse
  state := by
    rw [hb.state]
    exact (h.hearing.stream h.inUse).1
  sendSeq := fun _ hiss => hb.seqOk h hiss
  stream := hb.stream
  data := hb.data
  fin := fun hfin => by rwa [hb.state]
  response := hresponse

/-- With a FIN, the socket goes to the next state, with a `send_seq` that is right for that state. -/
theorem Buffered.fin (hb : Buffered e peer irs socket) (h : Arrival e peer irs segment)
    {next : TcpState} (hopen : e.socket.state.finConsumed = false)
    (hflag : segment.hasFlag tcpFlagFin = true) (hnext : next.finConsumed = true)
    (hseq : ∀ iss recvSeq, e.iss = some iss →
      SendSeqOk (e.withSocket { socket with recvSeq := recvSeq, state := next }) iss) :
    OutcomeOk e peer irs (tcpReceiveFin socket segment next) := by
  have hstate : socket.state ≠ .synSent := by
    rw [hb.state]
    exact (h.hearing.stream h.inUse).1
  exact h.fin hb.stream hb.inUse (by rw [hb.state, hopen]) hstate hb.data hopen hflag hnext
    (fun _ hiss => hb.seqOk h hiss) hseq

end Buffered

theorem outcomeOk_established {e peer : TcpEnd} {irs : UInt32} {segment : TcpSegment}
    (h : Arrival e peer irs segment) (hstate : e.socket.state = .established) :
    OutcomeOk e peer irs (tcpReceiveEstablished e.socket segment tcpInit) := by
  obtain ⟨sendBuffer, sendAck, hframe⟩ :
      ∃ sendBuffer sendAck,
        (if segment.hasFlag tcpFlagAck then tcpAcknowledgeData e.socket segment.ackNum
          else e.socket) =
          { e.socket with sendBuffer := sendBuffer, sendAck := sendAck } := by
    split
    · exact tcpAcknowledgeData_frame e.socket segment.ackNum
    · exact ⟨_, _, rfl⟩
  have hopen : e.socket.state.finConsumed = false := by rw [hstate]; rfl
  simp only [tcpReceiveEstablished, hframe]
  -- First the acknowledgement, then the payload; neither changes what the end has sent.
  have hb := h.buffered hopen sendBuffer sendAck
  generalize (tcpBufferPayload { e.socket with sendBuffer := sendBuffer, sendAck := sendAck }
    segment.seqNum segment.payload).2 = socket at hb ⊢
  split
  · rename_i hflag
    refine hb.fin h hopen hflag rfl ?_
    intro iss recvSeq hiss
    have hold := h.seqOk hiss
    simp only [SendSeqOk, hstate] at hold
    simpa only [SendSeqOk, TcpEnd.withSocket_socket, TcpEnd.withSocket_sent,
      TcpEnd.withSocket_finSent, hb.sendSeq] using hold
  · split
    · exact hb.outcomeOk h (Or.inr ⟨socket, rfl, rfl⟩)
    · split
      · exact hb.outcomeOk h (Or.inl rfl)
      · exact hb.outcomeOk h (Or.inl rfl)

theorem outcomeOk_finWait1 {e peer : TcpEnd} {irs : UInt32} {segment : TcpSegment}
    (h : Arrival e peer irs segment) (hstate : e.socket.state = .finWait1) :
    OutcomeOk e peer irs (tcpReceiveFinWait1 e.socket segment tcpInit) := by
  have hopen : e.socket.state.finConsumed = false := by rw [hstate]; rfl
  have hb := h.buffered hopen e.socket.sendBuffer e.socket.sendAck
  simp only [tcpReceiveFinWait1]
  generalize (tcpBufferPayload e.socket segment.seqNum segment.payload).2 = socket at hb ⊢
  -- Every state after FIN_WAIT_1 has the same `send_seq`.
  have hold : ∀ iss, e.iss = some iss →
      e.socket.sendSeq = streamSeq iss (e.sent.length + 1) ∧ e.finSent = true := by
    intro iss hiss
    have hok := h.seqOk hiss
    simp only [SendSeqOk, hstate] at hok
    exact hok
  split
  · rename_i hflag
    refine hb.fin h hopen hflag (by split <;> rfl) ?_
    intro iss recvSeq hiss
    have hiss' := hold iss hiss
    split
    all_goals
      simpa only [SendSeqOk, TcpEnd.withSocket_socket, TcpEnd.withSocket_sent,
        TcpEnd.withSocket_finSent, hb.sendSeq] using hiss'
  · split
    · refine ⟨hb.inUse, by simp [tcpAbsorb], ?_, ?_, hb.data, by simp [hopen], ?_⟩
      · intro iss hiss
        simpa only [SendSeqOk, tcpAbsorb, TcpEnd.withSocket_socket, TcpEnd.withSocket_sent,
          TcpEnd.withSocket_finSent, hb.sendSeq] using hold iss hiss
      · exact hb.stream.congr (by rw [hb.state, hstate]; rfl) rfl rfl
      · simp only [tcpAbsorb]
        split
        · exact Or.inl rfl
        · exact Or.inr ⟨socket, rfl, rfl⟩
    · split
      · refine hb.outcomeOk h ?_
        split
        · exact Or.inl rfl
        · exact Or.inr ⟨socket, rfl, rfl⟩
      · rename_i hempty
        refine hb.outcomeOk h (Or.inl ?_)
        rw [if_pos (by simpa using hempty)]
        rfl

theorem outcomeOk_finWait2 {e peer : TcpEnd} {irs : UInt32} {segment : TcpSegment}
    (h : Arrival e peer irs segment) (hstate : e.socket.state = .finWait2) :
    OutcomeOk e peer irs (tcpReceiveFinWait2 e.socket segment tcpInit) := by
  have hopen : e.socket.state.finConsumed = false := by rw [hstate]; rfl
  have hb := h.buffered hopen e.socket.sendBuffer e.socket.sendAck
  simp only [tcpReceiveFinWait2]
  generalize (tcpBufferPayload e.socket segment.seqNum segment.payload).2 = socket at hb ⊢
  split
  · rename_i hflag
    refine hb.fin h hopen hflag rfl ?_
    intro iss recvSeq hiss
    have hold := h.seqOk hiss
    simp only [SendSeqOk, hstate] at hold
    simpa only [SendSeqOk, TcpEnd.withSocket_socket, TcpEnd.withSocket_sent,
      TcpEnd.withSocket_finSent, hb.sendSeq] using hold
  · split
    · exact hb.outcomeOk h (Or.inr ⟨socket, rfl, rfl⟩)
    · exact hb.outcomeOk h (Or.inl rfl)

theorem outcomeOk_closing {e peer : TcpEnd} {irs : UInt32} {segment : TcpSegment}
    (h : Arrival e peer irs segment) (hstate : e.socket.state = .closing) :
    OutcomeOk e peer irs (tcpReceiveClosing e.socket segment tcpInit) := by
  rw [tcpReceiveClosing]
  split
  · refine ⟨h.inUse, by simp [tcpAbsorb], ?_, ?_, le_refl _, fun _ => rfl, Or.inl rfl⟩
    · intro iss hiss
      have hold := h.seqOk hiss
      simp only [SendSeqOk, hstate] at hold
      simpa only [SendSeqOk, tcpAbsorb, TcpEnd.withSocket_socket, TcpEnd.withSocket_sent,
        TcpEnd.withSocket_finSent] using hold
    · exact h.stream.congr (by rw [hstate]; rfl) rfl rfl
  · exact h.unchanged false

theorem outcomeOk_synReceived {e peer : TcpEnd} {irs : UInt32} {segment : TcpSegment}
    (h : Arrival e peer irs segment) (hstate : e.socket.state = .synReceived) :
    OutcomeOk e peer irs (tcpReceiveSynReceived e.socket segment tcpInit) := by
  have hopen : e.socket.state.finConsumed = false := by rw [hstate]; rfl
  rw [tcpReceiveSynReceived]
  split
  · rename_i hcond
    simp only [Bool.and_eq_true, beq_iff_eq] at hcond
    obtain ⟨⟨-, hack⟩, -⟩ := hcond
    generalize hs1 :
      ({ e.socket with
          sendAck := segment.ackNum, sendSeq := segment.ackNum, state := .established } :
        TcpSocket) = s1
    have hstream1 : StreamOk peer irs e.delivered s1 :=
      h.stream.congr (by rw [← hs1, hopen]; rfl) (by rw [← hs1]) (by rw [← hs1])
    have hopen1 : s1.state.finConsumed = false := by rw [← hs1]; rfl
    have hstate1 : s1.state = .established := by rw [← hs1]
    have huse1 : s1.inUse = true := by rw [← hs1, ← h.inUse]
    -- The acknowledgement of the SYN puts `send_seq` at the start of the stream.
    have hseq : ∀ iss socket, e.iss = some iss → socket.state = .established →
        socket.sendSeq = s1.sendSeq → SendSeqOk (e.withSocket socket) iss := by
      intro iss socket hiss hsocket hsend
      have hold := h.seqOk hiss
      simp only [SendSeqOk, hstate] at hold
      obtain ⟨hold, hsent, hfin⟩ := hold
      simp only [SendSeqOk, TcpEnd.withSocket_socket, hsocket, hsend, TcpEnd.withSocket_sent,
        TcpEnd.withSocket_finSent, hsent, List.length_nil, streamSeq_zero, hfin, and_true]
      rw [← hs1, hack, hold]
    simp only
    split
    · refine ⟨huse1, by rw [tcpAbsorb, hstate1]; decide, ?_, hstream1, ?_, by simp [hopen],
        Or.inl rfl⟩
      · exact fun iss hiss => hseq iss s1 hiss hstate1 rfl
      · rw [tcpAbsorb, ← hs1]
    · obtain ⟨hstream, hdata⟩ := h.buffer hopen1 hstream1
      refine ⟨?_, ?_, ?_, hstream, ?_, by simp [hopen], Or.inr ⟨_, rfl, rfl⟩⟩
      · rw [tcpAnswer, tcpBufferPayload_inUse, huse1]
      · rw [tcpAnswer, tcpBufferPayload_state, hstate1]
        decide
      · exact fun iss hiss => hseq iss _ hiss (by rw [tcpAnswer, tcpBufferPayload_state, hstate1])
          (by rw [tcpAnswer, tcpBufferPayload_sendSeq])
      · rw [← hs1] at hdata ⊢
        exact hdata
  · exact h.unchanged false

/-! ## Freeing a socket -/

/-- A socket that is freed leaves its history; only LAST_ACK is left after a received FIN. -/
theorem endStep_free {e peer : TcpEnd} (hs : SenderOk e) (hr : ReceiverOk e peer)
    (huse : e.socket.inUse = true)
    (hlast : e.socket.state.finConsumed = true → e.socket.state = .lastAck) :
    EndStep e peer (e.withSocket tcpSocketFree) [] := by
  have hentered : (e.withSocket tcpSocketFree).entered = e.entered := by
    simp [TcpEnd.withSocket, tcpSocketFree]
  have hfreed : (e.withSocket tcpSocketFree).freedFrom = some e.socket.state := by
    simp [TcpEnd.withSocket, huse, tcpSocketFree]
  have hfreedFrom : e.freedFrom = none := by
    cases hirs : e.irs with
    | none => exact ((hr.unheard hirs).state huse).2
    | some irs => exact ((hr.hearing irs hirs).stream huse).2.1
  refine ⟨⟨fun _ h => h, List.prefix_refl _, fun h => ⟨h, rfl⟩, ?_⟩, ?_, ?_, ?_⟩
  · rw [TcpEnd.recvCount, TcpEnd.recvCount, hentered, TcpEnd.finConsumed, TcpEnd.finConsumed,
      hfreed, hfreedFrom]
    -- Freed in LAST_ACK, the end still counts the FIN it received.
    cases hcase : e.socket.state.finConsumed with
    | false => simp
    | true => simp [hlast hcase]
  · refine ⟨?_, hs.iss_le, ?_, fun _ => rfl⟩
    · intro hnone
      obtain ⟨iss, hiss⟩ := hs.iss_of_inUse huse
      rw [TcpEnd.withSocket_iss, hiss] at hnone
      cases hnone
    · intro iss _ hbad
      cases hbad
  · refine ⟨?_, ?_⟩
    · intro hirs
      -- Nothing was heard, so that nothing was in the buffer that is lost.
      have hold := hr.unheard hirs
      refine ⟨by rw [hentered, hold.entered], hold.delivered, rfl, fun _ => rfl, ?_, ?_⟩
      · intro hbad
        cases hbad
      · rw [hfreed, (hold.state huse).1]
        decide
    · intro irs hirs
      have hear := hr.hearing irs hirs
      obtain ⟨-, -, heq, hstream⟩ := hear.stream huse
      refine ⟨hear.peer_iss, fun hbad => (by cases hbad), fun _ => ⟨?_, ?_, ?_⟩⟩
      · rw [hentered, heq]
        exact List.prefix_append _ _
      · rw [hentered]
        exact hr.entered_prefix
      · intro hcase
        rw [hfreed, Option.some.injEq] at hcase
        rw [streamOk_finished (by rw [hcase]; rfl)] at hstream
        exact ⟨hstream.1, by rw [hentered, heq, hstream.2.1]⟩
  · intro segment h
    cases h

theorem endStep_lastAck {e peer : TcpEnd} {irs : UInt32} {segment : TcpSegment}
    (h : Arrival e peer irs segment) (hr : ReceiverOk e peer)
    (hstate : e.socket.state = .lastAck) :
    EndStep e peer (e.afterReceive segment (tcpReceiveLastAck e.socket segment tcpInit))
      (tcpReply (tcpReceiveLastAck e.socket segment tcpInit)).toList := by
  have hlisten : e.socket.state ≠ .listen := by
    rw [hstate]
    decide
  rw [tcpReceiveLastAck]
  split
  · have hreply : tcpReply (tcpAbsorb tcpSocketFree tcpInit) = none := by
      simp [tcpReply, tcpAbsorb, tcpInit]
    rw [TcpEnd.afterReceive_eq_withSocket
      (Or.inr ⟨hlisten, (h.hearing.stream h.inUse).1⟩), hreply]
    exact endStep_free h.sender hr h.inUse fun _ => hstate
  · exact h.endStep hlisten (h.unchanged false)

/-! ## Opening the connection -/

theorem streamAt_zero {stream : List UInt8} {iss : UInt32} {socket : TcpSocket}
    (hseq : socket.recvSeq = iss + 1)
    (hpending : ∀ i, socket.recvBuffer.pendingValid i = false) : StreamAt stream iss socket 0 := by
  refine ⟨by rw [hseq, streamSeq_zero], Nat.zero_le _, ?_⟩
  intro i hi
  rw [hpending i] at hi
  cases hi

theorem endStep_synSent {e peer : TcpEnd} {iss : UInt32} {segment : TcpSegment}
    (hs : SenderOk e) (hr : ReceiverOk e peer) (huse : e.socket.inUse = true)
    (hirs : e.irs = none) (hstate : e.socket.state = .synSent)
    (hsegment : SegmentOk peer e iss segment) :
    EndStep e peer (e.afterReceive segment (tcpReceiveSynSent e.socket segment tcpInit))
      (tcpReply (tcpReceiveSynSent e.socket segment tcpInit)).toList := by
  have hold := hr.unheard hirs
  rw [tcpReceiveSynSent]
  split
  · rename_i hcond
    simp only [Bool.and_eq_true, beq_iff_eq] at hcond
    obtain ⟨⟨⟨hsyn, -⟩, -⟩, hack⟩ := hcond
    have hnum := hsegment.syn hsyn
    generalize hs1 :
      ({ e.socket with
          recvSeq := segment.seqNum + 1, sendAck := segment.ackNum,
          sendSeq := segment.ackNum, state := .established } : TcpSocket) = s1
    have hafter : e.afterReceive segment (tcpAnswer s1) =
        { e.withSocket s1 with irs := some iss } := by
      simp only [TcpEnd.afterReceive, tcpAnswer, hstate, hnum]
      rfl
    have huse1 : s1.inUse = true := by rw [← hs1, ← huse]
    have hdata1 : s1.recvBuffer.data = [] := by rw [← hs1, ← hold.data]
    have hstate1 : s1.state = .established := by rw [← hs1]
    have hentered : (e.withSocket s1).entered = [] := by
      simp [TcpEnd.withSocket, huse1, hold.delivered, hdata1]
    have hfreed : (e.withSocket s1).freedFrom = none := by
      simp [TcpEnd.withSocket, huse1, (hold.state huse).2]
    have hear : Hearing { e.withSocket s1 with irs := some iss } peer iss := by
      refine Hearing.of_inUse huse1 hsegment.iss_eq ?_ hfreed ?_ ?_
      · rw [TcpEnd.withSocket_socket, hstate1]
        decide
      · rw [hentered, TcpEnd.withSocket_delivered, hold.delivered, TcpEnd.withSocket_socket,
          hdata1]
        rfl
      -- The SYN is consumed, and nothing of the stream.
      · rw [TcpEnd.withSocket_socket, TcpEnd.withSocket_delivered,
          streamOk_open (by rw [hstate1]; rfl)]
        refine ⟨0, streamAt_zero (by rw [← hs1, hnum]) ?_, ?_⟩
        · intro i
          rw [← hs1]
          exact hold.pendingValid i
        · rw [hold.delivered, hdata1, List.take_zero]
          rfl
    rw [hafter]
    obtain ⟨iss', hiss', hle, hseq⟩ := hs.seqOk huse
    refine ⟨⟨fun _ h => h, List.prefix_refl _, fun h => ⟨h, rfl⟩, ?_⟩, ?_, ?_, ?_⟩
    · have hcount : e.recvCount = 0 := by
        rw [TcpEnd.recvCount, hold.entered, TcpEnd.finConsumed, hstate, (hold.state huse).2]
        rfl
      rw [hcount]
      exact Nat.zero_le _
    · refine SenderOk.of_inUse huse1 hiss' hle ?_
      simp only [SendSeqOk, hstate] at hseq
      obtain ⟨hsend, hsent, hfin⟩ := hseq
      simp only [SendSeqOk, TcpEnd.withSocket_socket, hstate1, TcpEnd.withSocket_sent,
        TcpEnd.withSocket_finSent, hsent, hfin, List.length_nil, streamSeq_zero, and_true]
      rw [← hs1, hack, hsend]
    · exact hear.receiverOk rfl
    · intro reply hreply
      obtain ⟨rfl, -⟩ := tcpReply_eq_some (Option.mem_toList.1 hreply)
      exact ⟨iss', segmentOk_tcpPrepareAck hiss' hear huse1 rfl⟩
  -- Any other segment is ignored.
  · have hafter : e.afterReceive segment (tcpIgnore e.socket tcpInit) = e := by
      have hentered : e.entered = e.delivered ++ e.socket.recvBuffer.data := by
        rw [hold.entered, hold.delivered, hold.data]
        rfl
      rw [TcpEnd.afterReceive_eq_withSocket (Or.inl rfl)]
      exact TcpEnd.withSocket_self huse hentered
    have hreply : tcpReply (tcpIgnore e.socket tcpInit) = none := by
      simp [tcpReply, tcpIgnore]
    rw [hafter, hreply]
    exact EndStep.refl hs hr

/-- The child socket of the listener takes the number of the SYN and chooses its own. -/
theorem endStep_listen {peer : TcpEnd} {iss : UInt32} {segment : TcpSegment} {child : TcpSocket}
    {srcIp dstIp : IpAddress} (hstate : child.state = .listen) (huse : child.inUse = true)
    (hbuffer : child.recvBuffer = tcpSocketFree.recvBuffer)
    (hsegment : SegmentOk peer TcpEnd.absent iss segment)
    (hsyn : tcpIsOpeningSyn segment = true) :
    EndStep TcpEnd.absent peer
      ({ TcpEnd.absent with socket := child }.afterReceive segment
        (tcpReceiveListen child segment srcIp dstIp tcpInit))
      (tcpReply (tcpReceiveListen child segment srcIp dstIp tcpInit)).toList := by
  have hflag : segment.hasFlag tcpFlagSyn = true := by
    rw [tcpIsOpeningSyn, Bool.and_eq_true] at hsyn
    exact hsyn.1
  have hnum := hsegment.syn hflag
  rw [tcpReceiveListen, if_pos hsyn]
  simp only
  generalize hs1 :
    ({ child with
        recvSeq := segment.seqNum + 1, sendSeq := 2000 + segment.srcPort.toUInt32,
        state := .synReceived } : TcpSocket) = s1
  have huse1 : s1.inUse = true := by rw [← hs1, ← huse]
  have hstate1 : s1.state = .synReceived := by rw [← hs1]
  have hbuffer1 : s1.recvBuffer = tcpSocketFree.recvBuffer := by rw [← hs1, ← hbuffer]
  have hsend1 : s1.sendSeq = 2000 + segment.srcPort.toUInt32 := by rw [← hs1]
  have hseq1 : s1.recvSeq = iss + 1 := by rw [← hs1, hnum]
  generalize hresponse : tcpStoreChecksum _ tcpHeaderSize dstIp srcIp = response
  have hafter : { TcpEnd.absent with socket := child }.afterReceive segment
      { accepted := true, socket := s1, response := response } =
        { TcpEnd.absent with socket := s1, iss := some s1.sendSeq, irs := some iss } := by
    simp only [TcpEnd.afterReceive, TcpEnd.withSocket, TcpEnd.absent, huse, huse1, hstate, hnum,
      hbuffer1]
    rfl
  rw [hafter]
  have hear : Hearing
      { TcpEnd.absent with socket := s1, iss := some s1.sendSeq, irs := some iss } peer iss := by
    refine Hearing.of_inUse huse1 hsegment.iss_eq ?_ rfl ?_ ?_
    · rw [hstate1]
      decide
    · rw [hbuffer1]
      rfl
    · rw [streamOk_open (by rw [hstate1]; rfl)]
      refine ⟨0, streamAt_zero hseq1 (fun i => ?_), ?_⟩
      · rw [hbuffer1]
        rfl
      · rw [hbuffer1]
        rfl
  refine ⟨⟨fun _ h => (by cases h), List.nil_prefix, fun h => (by cases h), Nat.zero_le _⟩,
    SenderOk.of_inUse huse1 rfl ?_ ?_, hear.receiverOk rfl, ?_⟩
  -- The listener's own number is 2000 and the port, so that it never wraps.
  · have hport := segment.srcPort.toNat_lt
    have htwo : (2000 : UInt32).toNat = 2000 := rfl
    rw [hsend1, UInt32.toNat_add, UInt16.toNat_toUInt32, htwo]
    omega
  · simp only [SendSeqOk, hstate1]
    exact ⟨trivial, rfl, rfl⟩
  · intro reply hreply
    obtain ⟨rfl, -⟩ := tcpReply_eq_some (Option.mem_toList.1 hreply)
    refine ⟨s1.sendSeq, rfl, ?_, ?_, ?_, ?_⟩
    · intro _
      rw [← hresponse, tcpStoreChecksum_seqNum, hsend1]
    · intro hne
      rw [← hresponse, tcpStoreChecksum_payload] at hne
      exact absurd rfl hne
    · intro hfin
      rw [← hresponse, tcpStoreChecksum_hasFlag] at hfin
      change (tcpFlagSynAck &&& tcpFlagFin != 0) = true at hfin
      exact absurd hfin (by decide)
    · intro _
      refine ⟨iss, 0, hsegment.iss_eq, Nat.zero_le _, ?_⟩
      rw [← hresponse, tcpStoreChecksum_ackNum, streamSeq_zero, hnum]

/-! ## One step of an end -/

/-- `tcp_socket_receive_segment` on a segment the peer sent. -/
theorem endStep_receive {e peer : TcpEnd} {iss : UInt32} {segment : TcpSegment}
    {srcIp dstIp : IpAddress} (hs : SenderOk e) (hp : SenderOk peer) (hr : ReceiverOk e peer)
    (huse : e.socket.inUse = true) (hbound : peer.sent.length < 2 ^ 31)
    (hsegment : SegmentOk peer e iss segment) :
    EndStep e peer
      (e.afterReceive segment (tcpReceiveByState e.socket segment srcIp dstIp tcpInit))
      (tcpReply (tcpReceiveByState e.socket segment srcIp dstIp tcpInit)).toList := by
  obtain ⟨own, -, -, hseq⟩ := hs.seqOk huse
  -- Only in SYN_SENT is the number of the peer not known yet.
  by_cases hsyn : e.socket.state = .synSent
  · have hirs : e.irs = none := by
      cases hcase : e.irs with
      | none => rfl
      | some irs => exact absurd hsyn ((hr.hearing irs hcase).stream huse).1
    rw [tcpReceiveByState, hsyn]
    exact endStep_synSent hs hr huse hirs hsyn hsegment
  · obtain ⟨irs, hirs, hear⟩ := hr.hearing_of_state huse hsyn
    have heq : irs = iss := Option.some.inj (hear.peer_iss.symm.trans hsegment.iss_eq)
    have hiss := hp.iss_le iss hsegment.iss_eq
    subst heq
    have harrival : Arrival e peer irs segment :=
      ⟨hs, hirs, hear, huse, by omega, hsegment⟩
    cases hstate : e.socket.state with
    | closed => simp [SendSeqOk, hstate] at hseq
    | listen => simp [SendSeqOk, hstate] at hseq
    | synSent => exact absurd hstate hsyn
    | synReceived =>
        rw [tcpReceiveByState, hstate]
        exact harrival.endStep (by rw [hstate]; decide) (outcomeOk_synReceived harrival hstate)
    | established =>
        rw [tcpReceiveByState, hstate]
        exact harrival.endStep (by rw [hstate]; decide) (outcomeOk_established harrival hstate)
    | finWait1 =>
        rw [tcpReceiveByState, hstate]
        exact harrival.endStep (by rw [hstate]; decide) (outcomeOk_finWait1 harrival hstate)
    | finWait2 =>
        rw [tcpReceiveByState, hstate]
        exact harrival.endStep (by rw [hstate]; decide) (outcomeOk_finWait2 harrival hstate)
    | closing =>
        rw [tcpReceiveByState, hstate]
        exact harrival.endStep (by rw [hstate]; decide) (outcomeOk_closing harrival hstate)
    | timeWait =>
        rw [tcpReceiveByState, hstate]
        exact harrival.endStep (by rw [hstate]; decide) (harrival.unchanged true)
    | closeWait =>
        rw [tcpReceiveByState, hstate]
        exact harrival.endStep (by rw [hstate]; decide) (harrival.unchanged false)
    | lastAck =>
        rw [tcpReceiveByState, hstate]
        exact endStep_lastAck harrival hr hstate

/-- An end whose socket is free is not changed by the calls on it. -/
theorem withSocket_free {e : TcpEnd} (hs : SenderOk e) (huse : e.socket.inUse = false) :
    e.withSocket tcpSocketFree = e := by
  have hfree := hs.free huse
  obtain ⟨socket, iss, irs, sent, delivered, entered, finSent, freedFrom⟩ := e
  simp only at hfree
  subst hfree
  rfl

/-- A successful send extends the stream by the data and numbers the segment at its old end. -/
theorem endStep_send {e peer : TcpEnd} {socket : TcpSocket} {data : List UInt8}
    {segment : TcpSegment} (hs : SenderOk e) (hr : ReceiverOk e peer)
    (h : magiSendTcp e.socket data = some (socket, segment)) :
    EndStep e peer (e.afterSend socket data) [segment] := by
  obtain ⟨hstate, sendBuffer, rfl, rfl⟩ := magiSendTcp_eq_some h
  have huse : e.socket.inUse = true := by
    cases hcase : e.socket.inUse with
    | true => rfl
    | false =>
        rw [hs.free hcase] at hstate
        cases hstate
  obtain ⟨iss, hiss, hle, hseq⟩ := hs.seqOk huse
  obtain ⟨irs, hirs, hear⟩ := hr.hearing_of_state huse (by rw [hstate]; decide)
  obtain ⟨hsyn, hfreed, hentered, hstream⟩ := hear.stream huse
  simp only [SendSeqOk, hstate] at hseq
  obtain ⟨hsend, hfin⟩ := hseq
  -- Only the socket's send side and the bytes sent change.
  have hafter : e.afterSend
      { e.socket with
        sendBuffer := sendBuffer
        sendSeq := e.socket.sendSeq + UInt32.ofNat data.length } data =
      { e with
        socket :=
          { e.socket with
            sendBuffer := sendBuffer
            sendSeq := e.socket.sendSeq + UInt32.ofNat data.length }
        sent := e.sent ++ data } := by
    simp only [TcpEnd.afterSend, TcpEnd.withSocket, huse, if_true, ← hentered]
    rfl
  rw [hafter]
  have hear' : Hearing
      { e with
        socket :=
          { e.socket with
            sendBuffer := sendBuffer
            sendSeq := e.socket.sendSeq + UInt32.ofNat data.length }
        sent := e.sent ++ data } peer irs :=
    Hearing.of_inUse huse hear.peer_iss hsyn hfreed hentered (hstream.congr rfl rfl rfl)
  refine ⟨⟨fun _ h => h, List.prefix_append _ _, ?_, le_refl _⟩,
    SenderOk.of_inUse huse hiss hle ?_, hear'.receiverOk hirs, ?_⟩
  · intro hbad
    rw [hfin] at hbad
    cases hbad
  · simp only [SendSeqOk, hstate, hfin, and_true, List.length_append]
    rw [hsend, streamSeq_add]
  · intro sent hmem
    rw [List.mem_singleton] at hmem
    subst hmem
    refine ⟨iss, segmentOk_ack hiss hear' huse ?_ ?_ ?_ ?_⟩
    · rw [tcpDataSegment, tcpStoreChecksum_ackNum]
    · rw [tcpDataSegment, tcpStoreChecksum_hasFlag]
      change ((tcpFlagAck ||| tcpFlagPsh) &&& tcpFlagSyn != 0) = false
      decide
    · intro _
      refine ⟨e.sent.length, ?_, ?_⟩
      · rw [tcpDataSegment, tcpStoreChecksum_seqNum, ← hsend]
      · rw [tcpDataSegment, tcpStoreChecksum_payload, List.drop_left]
    · intro hflag
      rw [tcpDataSegment, tcpStoreChecksum_hasFlag] at hflag
      change ((tcpFlagAck ||| tcpFlagPsh) &&& tcpFlagFin != 0) = true at hflag
      exact absurd hflag (by decide)

theorem tcpSocketRecv_frame (socket : TcpSocket) (maxLen : Nat) :
    ∃ rest hasData,
      (tcpSocketRecv socket maxLen).2 =
          { socket with
            recvBuffer := { socket.recvBuffer with data := rest }
            hasData := hasData } ∧
        (tcpSocketRecv socket maxLen).1 ++ rest = socket.recvBuffer.data := by
  rw [tcpSocketRecv]
  split
  · exact ⟨socket.recvBuffer.data, socket.hasData, rfl, rfl⟩
  · exact ⟨_, _, rfl, List.take_append_drop _ _⟩

theorem afterRecv_free {e : TcpEnd} (hs : SenderOk e) (huse : e.socket.inUse = false)
    (maxLen : Nat) : e.afterRecv maxLen = e := by
  have hrecv : tcpSocketRecv e.socket maxLen = ([], tcpSocketFree) := by
    rw [hs.free huse]
    exact if_pos (Or.inr (Or.inl rfl))
  rw [TcpEnd.afterRecv, hrecv]
  simp only [List.append_nil]
  exact withSocket_free hs huse

theorem StreamOk.recv {peer : TcpEnd} {irs : UInt32} {delivered out rest : List UInt8}
    {socket : TcpSocket} (h : StreamOk peer irs delivered socket)
    (hdata : out ++ rest = socket.recvBuffer.data) (hasData : Bool) :
    StreamOk peer irs (delivered ++ out)
      { socket with
        recvBuffer := { socket.recvBuffer with data := rest }
        hasData := hasData } := by
  -- What is read out and what stays are together what the buffer held.
  cases hstate : socket.state.finConsumed with
  | true =>
      obtain ⟨hfin, hall, hseq⟩ := (streamOk_finished hstate).1 h
      refine (streamOk_finished (by exact hstate)).2 ⟨hfin, ?_, hseq⟩
      rw [List.append_assoc, hdata, hall]
  | false =>
      obtain ⟨n, hat, htake⟩ := (streamOk_open hstate).1 h
      refine (streamOk_open (by exact hstate)).2
        ⟨n, ⟨hat.recvSeq_eq, hat.le_length, hat.agrees⟩, ?_⟩
      rw [List.append_assoc, hdata, htake]

/-- Reading moves bytes from the buffer to the application; the stream stays where it is. -/
theorem endStep_recv {e peer : TcpEnd} (hs : SenderOk e) (hr : ReceiverOk e peer) (maxLen : Nat) :
    EndStep e peer (e.afterRecv maxLen) [] := by
  by_cases huse : e.socket.inUse = true
  · obtain ⟨rest, hasData, hsocket, hdata⟩ := tcpSocketRecv_frame e.socket maxLen
    obtain ⟨iss, hiss, hle, hseq⟩ := hs.seqOk huse
    have hentered : e.entered = e.delivered ++ e.socket.recvBuffer.data := by
      cases hirs : e.irs with
      | none =>
          have hold := hr.unheard hirs
          rw [hold.entered, hold.delivered, hold.data]
          rfl
      | some irs => exact ((hr.hearing irs hirs).stream huse).2.2.1
    have hafter : e.afterRecv maxLen =
        { e with
          delivered := e.delivered ++ (tcpSocketRecv e.socket maxLen).1
          socket :=
            { e.socket with
              recvBuffer := { e.socket.recvBuffer with data := rest }
              hasData := hasData } } := by
      simp only [TcpEnd.afterRecv, hsocket, TcpEnd.withSocket, huse, if_true, List.append_assoc,
        hdata, ← hentered]
      rfl
    rw [hafter]
    generalize (tcpSocketRecv e.socket maxLen).1 = out at hdata ⊢
    refine ⟨⟨fun _ h => h, List.prefix_refl _, fun h => ⟨h, rfl⟩, le_refl _⟩,
      SenderOk.of_inUse huse hiss hle hseq, ⟨?_, ?_⟩, fun _ h => absurd h List.not_mem_nil⟩
    -- Before the peer is heard the buffer is empty, and so is what is read from it.
    · intro hirs
      have hold := hr.unheard hirs
      rw [hold.data, List.append_eq_nil_iff] at hdata
      obtain ⟨rfl, rfl⟩ := hdata
      exact ⟨hold.entered, by rw [hold.delivered]; rfl, rfl, hold.pendingValid, hold.state,
        hold.freedFrom⟩
    · intro irs hirs
      have hear := hr.hearing irs hirs
      obtain ⟨hsyn, hfreed, -, hstream⟩ := hear.stream huse
      refine Hearing.of_inUse huse hear.peer_iss hsyn hfreed ?_ (hstream.recv hdata hasData)
      rw [hentered, List.append_assoc, hdata]
  · rw [afterRecv_free hs (by simpa using huse)]
    exact EndStep.refl hs hr

/-- `magi_close` on a socket that can send its FIN. -/
theorem magiCloseTcp_fin {socket : TcpSocket} (hstate : socket.state = .established ∨
    socket.state = .closeWait) :
    ∃ next, (next = .finWait1 ∨ next = .lastAck) ∧
      next.finConsumed = socket.state.finConsumed ∧
      magiCloseTcp socket =
        ({ socket with state := next, sendSeq := socket.sendSeq + 1 },
          some (tcpFinSegment socket)) := by
  obtain hstate | hstate := hstate
  · refine ⟨.finWait1, Or.inl rfl, by rw [hstate]; rfl, ?_⟩
    simp only [magiCloseTcp, tcpSocketClose, hstate]
  · refine ⟨.lastAck, Or.inr rfl, by rw [hstate]; rfl, ?_⟩
    simp only [magiCloseTcp, tcpSocketClose, hstate]

/-- The FIN takes the number after the last byte sent. -/
theorem endStep_fin {e peer : TcpEnd} (hs : SenderOk e) (hr : ReceiverOk e peer)
    (huse : e.socket.inUse = true)
    (hstate : e.socket.state = .established ∨ e.socket.state = .closeWait) :
    EndStep e peer e.afterClose (magiCloseTcp e.socket).2.toList := by
  obtain ⟨next, hnext, hconsumed, hclose⟩ := magiCloseTcp_fin hstate
  obtain ⟨iss, hiss, hle, hseq⟩ := hs.seqOk huse
  obtain ⟨hsend, hfin⟩ : e.socket.sendSeq = streamSeq iss e.sent.length ∧ e.finSent = false := by
    obtain hcase | hcase := hstate
    all_goals
      simp only [SendSeqOk, hcase] at hseq
      exact hseq
  have hsyn : e.socket.state ≠ .synSent := by
    obtain hcase | hcase := hstate
    all_goals
      rw [hcase]
      decide
  obtain ⟨irs, hirs, hear⟩ := hr.hearing_of_state huse hsyn
  obtain ⟨-, hfreed, hentered, hstream⟩ := hear.stream huse
  generalize hs1 : ({ e.socket with state := next, sendSeq := e.socket.sendSeq + 1 } : TcpSocket) =
    s1 at hclose
  have hstate1 : s1.state = next := by rw [← hs1]
  have huse1 : s1.inUse = true := by rw [← hs1, ← huse]
  have hbuffer1 : s1.recvBuffer = e.socket.recvBuffer := by rw [← hs1]
  have hrecv1 : s1.recvSeq = e.socket.recvSeq := by rw [← hs1]
  have hsend1 : s1.sendSeq = streamSeq iss (e.sent.length + 1) := by
    rw [← hs1, ← streamSeq_succ, hsend]
  -- Only the state and the number of the next byte change, and the FIN is sent.
  have hafter : e.afterClose = { e with socket := s1, finSent := true } := by
    simp only [TcpEnd.afterClose, hclose, TcpEnd.withSocket, huse1, if_true, hbuffer1, ← hentered,
      Option.isSome_some, Bool.or_true]
    simp [hfreed]
  have hsyn1 : next ≠ .synSent := by
    obtain rfl | rfl := hnext
    all_goals decide
  have hconsumed1 : s1.state.finConsumed = e.socket.state.finConsumed := by
    rw [hstate1, hconsumed]
  have hear' : Hearing { e with socket := s1, finSent := true } peer irs := by
    refine Hearing.of_inUse huse1 hear.peer_iss ?_ hfreed ?_ ?_
    · rw [hstate1]
      exact hsyn1
    · rw [hentered, hbuffer1]
    · exact hstream.congr hconsumed1 hbuffer1 hrecv1
  rw [hafter, hclose]
  refine ⟨⟨fun _ h => h, List.prefix_refl _, fun _ => ⟨rfl, rfl⟩, ?_⟩,
    SenderOk.of_inUse huse1 hiss hle ?_, hear'.receiverOk hirs, ?_⟩
  · rw [TcpEnd.recvCount, TcpEnd.recvCount, TcpEnd.finConsumed, TcpEnd.finConsumed, hconsumed1]
  -- The FIN is the last thing numbered, in both states it leads to.
  · obtain rfl | rfl := hnext
    all_goals
      simp only [SendSeqOk, hstate1]
      exact ⟨hsend1, trivial⟩
  · intro segment hmem
    simp only [Option.toList_some, List.mem_singleton] at hmem
    subst hmem
    refine ⟨iss, segmentOk_ack hiss hear' huse1 ?_ ?_ ?_ ?_⟩
    · rw [tcpFinSegment, tcpStoreChecksum_ackNum, hrecv1]
    · rw [tcpFinSegment, tcpStoreChecksum_hasFlag]
      change ((tcpFlagFin ||| tcpFlagAck) &&& tcpFlagSyn != 0) = false
      decide
    · intro hne
      rw [tcpFinSegment, tcpStoreChecksum_payload] at hne
      exact absurd rfl hne
    · intro _
      refine ⟨?_, rfl, ?_⟩
      · rw [tcpFinSegment, tcpStoreChecksum_payload]
        rfl
      · rw [tcpFinSegment, tcpStoreChecksum_seqNum, hsend]

/-- `magi_close` in a state where it sends no FIN and frees nothing. -/
theorem afterClose_unchanged {e : TcpEnd} (h : magiCloseTcp e.socket = (e.socket, none))
    (hwith : e.withSocket e.socket = e) : e.afterClose = e := by
  simp only [TcpEnd.afterClose, h, hwith, Option.isSome_none, Bool.or_false]

theorem ReceiverOk.withSocket_self {e peer : TcpEnd} (hr : ReceiverOk e peer)
    (huse : e.socket.inUse = true) : e.withSocket e.socket = e := by
  refine TcpEnd.withSocket_self huse ?_
  cases hirs : e.irs with
  | none =>
      have hold := hr.unheard hirs
      rw [hold.entered, hold.delivered, hold.data]
      rfl
  | some irs => exact ((hr.hearing irs hirs).stream huse).2.2.1

theorem endStep_close {e peer : TcpEnd} (hs : SenderOk e) (hr : ReceiverOk e peer) :
    EndStep e peer e.afterClose (magiCloseTcp e.socket).2.toList := by
  by_cases huse : e.socket.inUse = true
  · obtain ⟨iss, hiss, -, hseq⟩ := hs.seqOk huse
    have hfree : magiCloseTcp e.socket = (tcpSocketFree, none) →
        e.socket.state.finConsumed = false →
          EndStep e peer e.afterClose (magiCloseTcp e.socket).2.toList := by
      intro hclose hopen
      have hafter : e.afterClose = e.withSocket tcpSocketFree := by
        simp only [TcpEnd.afterClose, hclose, Option.isSome_none, Bool.or_false]
        rfl
      rw [hafter, hclose]
      exact endStep_free hs hr huse fun h => by rw [hopen] at h; cases h
    have hsame : magiCloseTcp e.socket = (e.socket, none) →
        EndStep e peer e.afterClose (magiCloseTcp e.socket).2.toList := by
      intro hclose
      rw [afterClose_unchanged hclose (hr.withSocket_self huse), hclose]
      exact EndStep.refl hs hr
    -- Before the handshake the socket is freed; with a FIN sent nothing is done.
    cases hstate : e.socket.state with
    | closed => simp [SendSeqOk, hstate] at hseq
    | listen => simp [SendSeqOk, hstate] at hseq
    | synSent => exact hfree (by simp only [magiCloseTcp, hstate]) (by rw [hstate]; rfl)
    | synReceived => exact hfree (by simp only [magiCloseTcp, hstate]) (by rw [hstate]; rfl)
    | established => exact endStep_fin hs hr huse (Or.inl hstate)
    | closeWait => exact endStep_fin hs hr huse (Or.inr hstate)
    | finWait1 => exact hsame (by simp only [magiCloseTcp, hstate])
    | finWait2 => exact hsame (by simp only [magiCloseTcp, hstate])
    | closing => exact hsame (by simp only [magiCloseTcp, hstate])
    | timeWait => exact hsame (by simp only [magiCloseTcp, hstate])
    | lastAck => exact hsame (by simp only [magiCloseTcp, hstate])
  -- A call on a socket that is free finds it closed.
  · have hfree := hs.free (by simpa using huse)
    have hclose : magiCloseTcp e.socket = (e.socket, none) := by
      rw [hfree]
      rfl
    have hwith : e.withSocket e.socket = e := by
      have heq := withSocket_free hs (by simpa using huse)
      rwa [← hfree] at heq
    rw [afterClose_unchanged hclose hwith, hclose]
    exact EndStep.refl hs hr

end MagiStack
