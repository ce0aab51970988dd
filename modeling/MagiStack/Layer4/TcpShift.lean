import MagiStack.Layer4.TcpPreserve

/-!
# TcpShift — sequence numbers modulo `2^32`

Adding one offset to the receive-side numbers and one to the send-side numbers of a socket and of a
segment should not change what `tcp_socket_receive_segment` does.  Every comparison it makes is an
equality, a difference or a sum, and so independent of the offsets, except two: `seq_num < recv_seq`
in `tcp_buffer_payload` and the window test of `tcp_acknowledge_data` compare plain unsigned numbers.
This file proves that exactly these two decide whether the shift is seen.
-/

namespace MagiStack

/-! ## Shifted sockets, segments and results -/

namespace TcpSocket

/-- `recv_seq` moved by `d`; `send_seq`, `send_ack` and `send_buffer.start_seq` moved by `e`. -/
def shiftNumbers (d e : UInt32) (socket : TcpSocket) : TcpSocket :=
  { socket with
    recvSeq := socket.recvSeq + d
    sendSeq := socket.sendSeq + e
    sendAck := socket.sendAck + e
    sendBuffer := { socket.sendBuffer with startSeq := socket.sendBuffer.startSeq + e } }

/-- The shift of a socket; a closed one has no numbers. -/
def shift (d e : UInt32) (socket : TcpSocket) : TcpSocket :=
  if socket.state = .closed then socket else socket.shiftNumbers d e

theorem shift_of_open {socket : TcpSocket} (h : socket.state ≠ .closed) (d e : UInt32) :
    socket.shift d e = socket.shiftNumbers d e :=
  if_neg h

@[simp] theorem shiftNumbers_state (d e : UInt32) (socket : TcpSocket) :
    (socket.shiftNumbers d e).state = socket.state := rfl

@[simp] theorem shiftNumbers_recvBuffer (d e : UInt32) (socket : TcpSocket) :
    (socket.shiftNumbers d e).recvBuffer = socket.recvBuffer := rfl

@[simp] theorem shiftNumbers_recvSeq (d e : UInt32) (socket : TcpSocket) :
    (socket.shiftNumbers d e).recvSeq = socket.recvSeq + d := rfl

@[simp] theorem shiftNumbers_sendSeq (d e : UInt32) (socket : TcpSocket) :
    (socket.shiftNumbers d e).sendSeq = socket.sendSeq + e := rfl

@[simp] theorem shiftNumbers_sendAck (d e : UInt32) (socket : TcpSocket) :
    (socket.shiftNumbers d e).sendAck = socket.sendAck + e := rfl

theorem shiftNumbers_injective (d e : UInt32) : Function.Injective (shiftNumbers d e) := by
  intro a b h
  obtain ⟨inUse, state, localIp, localPort, remoteIp, remotePort, sendSeq, recvSeq, sendAck, recvAck,
    ⟨data, startSeq⟩, recvBuffer, isListening, parent, hasData⟩ := a
  obtain ⟨inUse', state', localIp', localPort', remoteIp', remotePort', sendSeq', recvSeq', sendAck',
    recvAck', ⟨data', startSeq'⟩, recvBuffer', isListening', parent', hasData'⟩ := b
  simp only [shiftNumbers, TcpSocket.mk.injEq, TcpSendBuffer.mk.injEq, UInt32.add_left_inj] at h ⊢
  exact h

end TcpSocket

/-- An arriving segment moved by the offsets, with the checksum its sender then stores. -/
def TcpSegment.shift (d e : UInt32) (checksum : UInt16) (segment : TcpSegment) : TcpSegment :=
  { segment with
    seqNum := segment.seqNum + d
    ackNum := segment.ackNum + e
    checksum := checksum }

/-- A response moved by the offsets; one that was not set has no numbers. -/
def TcpSegment.shiftReply (d e : UInt32) (response : TcpSegment) : TcpSegment :=
  if response.flags = 0 then
    response
  else
    { response with seqNum := response.seqNum + e, ackNum := response.ackNum + d }

/-- A segment without its checksum. -/
def TcpSegment.unsigned (segment : TcpSegment) : TcpSegment :=
  { segment with checksum := 0 }

/-- `shifted` is `outcome` with every number moved: the same result, the same socket otherwise, and
the same response up to its checksum. -/
structure TcpReceive.IsShift (d e : UInt32) (outcome shifted : TcpReceive) : Prop where
  accepted : shifted.accepted = outcome.accepted
  socket : shifted.socket = outcome.socket.shift d e
  response : shifted.response.unsigned = (outcome.response.shiftReply d e).unsigned

/-! ## The two comparisons -/

/-- `tcp_acknowledge_data` takes the acknowledgement. -/
def tcpTakesAck (socket : TcpSocket) (ackNum : UInt32) : Prop :=
  socket.sendAck < ackNum ∧ ackNum ≤ socket.sendSeq

/-- `tcp_buffer_payload` would change the socket on `len` bytes at `offset`: they fit the window and
the buffer, and some place is new or the buffer is not settled. -/
def tcpTakesBytes (socket : TcpSocket) (offset len : Nat) : Prop :=
  offset < tcpSocketBufferSize ∧ len ≤ tcpSocketBufferSize - offset ∧
    socket.recvBuffer.data.length + socket.recvBuffer.pendingCount +
        socket.recvBuffer.newCount offset len ≤ tcpSocketBufferSize ∧
      (0 < socket.recvBuffer.newCount offset len ∨ socket.recvBuffer.pendingValid 0 = true ∨
        socket.hasData = socket.recvBuffer.data.isEmpty)

/-- The payload at `seqNum`, read as bytes from `recv_seq` on. -/
def tcpTakesAhead (socket : TcpSocket) (seqNum : UInt32) (len : Nat) : Prop :=
  tcpTakesBytes socket (seqNum - socket.recvSeq).toNat len

/-- The payload at `seqNum`, read as bytes that begin before `recv_seq`. -/
def tcpTakesBehind (socket : TcpSocket) (seqNum : UInt32) (len : Nat) : Prop :=
  (socket.recvSeq - seqNum).toNat < len ∧
    tcpTakesBytes socket 0 (len - (socket.recvSeq - seqNum).toNat)

/-- The offset `e` does not change the answer of the acknowledgement test. -/
def AckTestKept (e : UInt32) (socket : TcpSocket) (ackNum : UInt32) : Prop :=
  tcpTakesAck socket ackNum ↔
    socket.sendAck + e < ackNum + e ∧ ackNum + e ≤ socket.sendSeq + e

/-- The offset `d` does not change the answer of `seq_num < recv_seq`, or the payload is taken under
neither answer. -/
def SeqTestKept (d : UInt32) (socket : TcpSocket) (segment : TcpSegment) : Prop :=
  (segment.seqNum < socket.recvSeq ↔ segment.seqNum + d < socket.recvSeq + d) ∨
    (¬ tcpTakesAhead socket segment.seqNum segment.payload.length ∧
      ¬ tcpTakesBehind socket segment.seqNum segment.payload.length)

/-- The states in which payload is buffered by plain comparison. -/
def TcpState.buffers : TcpState → Bool
  | .established | .finWait1 | .finWait2 => true
  | _ => false

/-- The comparisons the segment reaches keep their answers. -/
def TestsKept (d e : UInt32) (socket : TcpSocket) (segment : TcpSegment) : Prop :=
  (socket.state = .established → segment.hasFlag tcpFlagAck = true →
      AckTestKept e socket segment.ackNum) ∧
    (socket.state.buffers = true → segment.payload ≠ [] → SeqTestKept d socket segment)

/-! ## What buffering changes -/

namespace TcpReceiveBuffer

theorem store_of_newCount_eq_zero {buffer : TcpReceiveBuffer} {payload : List UInt8} :
    ∀ {pos : Nat}, buffer.newCount pos payload.length = 0 → buffer.store pos payload = buffer := by
  induction payload with
  | nil => exact fun _ => rfl
  | cons byte rest ih =>
      intro pos h
      rw [List.length_cons, newCount_succ] at h
      cases hvalid : buffer.pendingValid pos with
      | true =>
          rw [store, if_pos hvalid]
          exact ih (by omega)
      | false =>
          rw [hvalid] at h
          simp at h

/-- A new place becomes valid. -/
theorem exists_gained {buffer : TcpReceiveBuffer} {payload : List UInt8} :
    ∀ {pos : Nat}, 0 < buffer.newCount pos payload.length →
      ∃ i, buffer.pendingValid i = false ∧ (buffer.store pos payload).pendingValid i = true := by
  induction payload with
  | nil =>
      intro pos h
      simp [newCount] at h
  | cons byte rest ih =>
      intro pos h
      rw [List.length_cons, newCount_succ] at h
      cases hvalid : buffer.pendingValid pos with
      | true =>
          rw [store, if_pos hvalid]
          rw [hvalid, if_pos rfl, Nat.zero_add] at h
          exact ih h
      | false =>
          refine ⟨pos, hvalid, ?_⟩
          rw [store, if_neg (by simp [hvalid])]
          exact store_pendingValid_of_valid (by simp)

end TcpReceiveBuffer

/-- The part of `tcp_buffer_payload` after the trim: `payload` at `offset` from `recv_seq`. -/
def tcpBufferAt (socket : TcpSocket) (offset : Nat) (payload : List UInt8) : TcpSocket :=
  if tcpSocketBufferSize ≤ offset ∨ tcpSocketBufferSize - offset < payload.length then
    socket
  else if tcpSocketBufferSize < socket.recvBuffer.data.length + socket.recvBuffer.pendingCount +
      socket.recvBuffer.newCount offset payload.length then
    socket
  else
    tcpDeliverReady socket (socket.recvBuffer.store offset payload)

/-- `tcp_buffer_payload` with the answer of `seq_num < recv_seq` given. -/
def tcpBufferReading (past : Bool) (socket : TcpSocket) (seqNum : UInt32)
    (payload : List UInt8) : TcpSocket :=
  if past then
    if payload.length ≤ (socket.recvSeq - seqNum).toNat then
      socket
    else
      tcpBufferAt socket 0 (payload.drop (socket.recvSeq - seqNum).toNat)
  else
    tcpBufferAt socket (seqNum - socket.recvSeq).toNat payload

theorem tcpBufferPayload_eq_reading (socket : TcpSocket) (seqNum : UInt32) {payload : List UInt8}
    (h : payload ≠ []) :
    (tcpBufferPayload socket seqNum payload).2 =
      tcpBufferReading (decide (seqNum < socket.recvSeq)) socket seqNum payload := by
  have hat : ∀ offset (rest : List UInt8),
      (if tcpSocketBufferSize ≤ offset ∨ tcpSocketBufferSize - offset < rest.length then
          (false, socket)
        else if tcpSocketBufferSize < socket.recvBuffer.data.length +
            socket.recvBuffer.pendingCount + socket.recvBuffer.newCount offset rest.length then
          (false, socket)
        else
          (true, tcpDeliverReady socket (socket.recvBuffer.store offset rest))).2 =
        tcpBufferAt socket offset rest := by
    intro offset rest
    rw [tcpBufferAt]
    split
    · rfl
    · split
      · rfl
      · rfl
  rw [tcpBufferPayload, if_neg (by simpa using h), tcpTrimPayload, tcpBufferReading]
  -- Bytes are trimmed only where the plain comparison calls the segment old.
  by_cases hlt : seqNum < socket.recvSeq
  · have hzero : (seqNum + (socket.recvSeq - seqNum) - socket.recvSeq).toNat = 0 := by
      rw [show seqNum + (socket.recvSeq - seqNum) - socket.recvSeq = 0 by grind]
      rfl
    simp only [hlt, if_true, decide_true]
    split
    · rename_i htrim
      split at htrim
      · rename_i hle
        rw [if_pos hle]
      · cases htrim
    · rename_i seqNum' rest htrim
      split at htrim
      · cases htrim
      · rename_i hle
        cases htrim
        rw [if_neg hle]
        simp only [hzero]
        exact hat 0 _
  · simp only [hlt, if_false, decide_false, Bool.false_eq_true]
    exact hat _ payload

/-! ## Both readings move with the numbers -/

theorem tcpBufferAt_shift (d e : UInt32) (socket : TcpSocket) (offset : Nat)
    (payload : List UInt8) :
    tcpBufferAt (socket.shiftNumbers d e) offset payload =
      (tcpBufferAt socket offset payload).shiftNumbers d e := by
  rw [tcpBufferAt, tcpBufferAt]
  by_cases hfits : tcpSocketBufferSize ≤ offset ∨ tcpSocketBufferSize - offset < payload.length
  · rw [if_pos hfits, if_pos hfits]
  · rw [if_neg hfits, if_neg hfits]
    by_cases hroom : tcpSocketBufferSize < socket.recvBuffer.data.length +
        socket.recvBuffer.pendingCount + socket.recvBuffer.newCount offset payload.length
    · rw [if_pos hroom]
      exact if_pos hroom
    · rw [if_neg hroom]
      refine (if_neg hroom).trans ?_
      simp only [tcpDeliverReady, TcpSocket.shiftNumbers]
      rw [UInt32.add_assoc, UInt32.add_comm d, ← UInt32.add_assoc]
      rfl

theorem add_sub_add_right (a b d : UInt32) : a + d - (b + d) = a - b := by
  grind

theorem tcpBufferReading_shift (past : Bool) (d e : UInt32) (socket : TcpSocket)
    (seqNum : UInt32) (payload : List UInt8) :
    tcpBufferReading past (socket.shiftNumbers d e) (seqNum + d) payload =
      (tcpBufferReading past socket seqNum payload).shiftNumbers d e := by
  simp only [tcpBufferReading, TcpSocket.shiftNumbers_recvSeq, add_sub_add_right,
    tcpBufferAt_shift]
  split
  · split
    · rfl
    · rfl
  · rfl

theorem tcpDeliverReady_eq_self_iff (socket : TcpSocket) (offset : Nat) (payload : List UInt8) :
    tcpDeliverReady socket (socket.recvBuffer.store offset payload) = socket ↔
      socket.recvBuffer.newCount offset payload.length = 0 ∧
        socket.recvBuffer.pendingValid 0 = false ∧
          socket.hasData = !socket.recvBuffer.data.isEmpty := by
  constructor
  · intro h
    -- `recv_seq` stays where it is only if nothing is ready.
    have hseq := congrArg TcpSocket.recvSeq h
    have hready : (socket.recvBuffer.store offset payload).ready = 0 := by
      have hle := (socket.recvBuffer.store offset payload).ready_le
      simp only [tcpDeliverReady] at hseq
      have hzero : UInt32.ofNat (socket.recvBuffer.store offset payload).ready = 0 := by
        grind
      have htoNat := congrArg UInt32.toNat hzero
      rw [UInt32.toNat_ofNat', tcpSocketBufferSize] at *
      simp only [UInt32.toNat_zero] at htoNat
      omega
    have hbuffer := congrArg TcpSocket.recvBuffer h
    have hdata := congrArg TcpSocket.hasData h
    simp only [tcpDeliverReady, hready, Nat.lt_irrefl, if_false,
      TcpReceiveBuffer.store_data] at hbuffer hdata
    refine ⟨?_, ?_, hdata.symm⟩
    · by_contra hnew
      obtain ⟨i, hold, hgained⟩ :=
        TcpReceiveBuffer.exists_gained (Nat.pos_of_ne_zero hnew)
      rw [hbuffer, hold] at hgained
      cases hgained
    · rw [hbuffer] at hready
      exact (TcpReceiveBuffer.ready_eq_zero_iff _).1 hready
  · rintro ⟨hnew, hvalid, hdata⟩
    have hready := (TcpReceiveBuffer.ready_eq_zero_iff socket.recvBuffer).2 hvalid
    have hzero : socket.recvSeq + UInt32.ofNat 0 = socket.recvSeq := UInt32.add_zero _
    rw [TcpReceiveBuffer.store_of_newCount_eq_zero hnew]
    simp only [tcpDeliverReady, hready, Nat.lt_irrefl, if_false, ← hdata, hzero]

theorem tcpBufferAt_eq_self_iff (socket : TcpSocket) (offset : Nat) (payload : List UInt8) :
    tcpBufferAt socket offset payload = socket ↔
      ¬ tcpTakesBytes socket offset payload.length := by
  rw [tcpBufferAt, tcpTakesBytes]
  split
  · simp only [true_iff]
    omega
  · rename_i hfits
    split
    · simp only [true_iff]
      omega
    · rename_i hroom
      rw [tcpDeliverReady_eq_self_iff]
      cases hhas : socket.hasData <;> cases hempty : socket.recvBuffer.data.isEmpty <;>
        cases hvalid : socket.recvBuffer.pendingValid 0 <;> simp <;> omega

theorem tcpBufferReading_false_eq_self_iff (socket : TcpSocket) (seqNum : UInt32)
    (payload : List UInt8) :
    tcpBufferReading false socket seqNum payload = socket ↔
      ¬ tcpTakesAhead socket seqNum payload.length :=
  tcpBufferAt_eq_self_iff socket _ payload

theorem tcpBufferReading_true_eq_self_iff (socket : TcpSocket) (seqNum : UInt32)
    (payload : List UInt8) :
    tcpBufferReading true socket seqNum payload = socket ↔
      ¬ tcpTakesBehind socket seqNum payload.length := by
  rw [tcpBufferReading, if_pos rfl, tcpTakesBehind]
  split
  · simp only [true_iff]
    omega
  · rename_i hle
    rw [tcpBufferAt_eq_self_iff, List.length_drop]
    simp only [not_and, Nat.lt_of_not_le hle, true_imp_iff]

/-- Away from `recv_seq` the two readings agree only when neither takes a byte. -/
theorem tcpBufferReading_agree_iff {socket : TcpSocket} {seqNum : UInt32} {payload : List UInt8}
    (hne : seqNum ≠ socket.recvSeq) :
    tcpBufferReading true socket seqNum payload = tcpBufferReading false socket seqNum payload ↔
      ¬ tcpTakesAhead socket seqNum payload.length ∧
        ¬ tcpTakesBehind socket seqNum payload.length := by
  have hahead := tcpBufferReading_false_eq_self_iff socket seqNum payload
  have hbehind := tcpBufferReading_true_eq_self_iff socket seqNum payload
  -- A payload ahead of `recv_seq` within the window is too far behind to reach it.
  have hexclusive : ¬ (tcpTakesAhead socket seqNum payload.length ∧
      tcpTakesBehind socket seqNum payload.length) := by
    rintro ⟨⟨hoffset, hfits, -, -⟩, hlen, -⟩
    have hsum : (seqNum - socket.recvSeq).toNat + (socket.recvSeq - seqNum).toNat = 2 ^ 32 := by
      rw [UInt32.toNat_sub, UInt32.toNat_sub]
      have h1 := seqNum.toNat_lt
      have h2 := socket.recvSeq.toNat_lt
      have h3 : seqNum.toNat ≠ socket.recvSeq.toNat := fun h => hne (UInt32.toNat_inj.1 h)
      omega
    rw [tcpSocketBufferSize] at hoffset hfits
    omega
  constructor
  · intro heq
    by_contra hnot
    rw [not_and_or, not_not, not_not] at hnot
    obtain htakes | htakes := hnot
    · have hother : ¬ tcpTakesBehind socket seqNum payload.length :=
        fun h => hexclusive ⟨htakes, h⟩
      rw [hbehind.2 hother] at heq
      exact hahead.1 heq.symm htakes
    · have hother : ¬ tcpTakesAhead socket seqNum payload.length :=
        fun h => hexclusive ⟨h, htakes⟩
      rw [hahead.2 hother] at heq
      exact hbehind.1 heq htakes
  · rintro ⟨hno, hno'⟩
    rw [hbehind.2 hno', hahead.2 hno]

/-- Buffering moves with the numbers exactly when the test keeps its answer or does not matter. -/
theorem tcpBufferPayload_shift_iff {socket : TcpSocket} {segment : TcpSegment} (d e : UInt32)
    (h : segment.payload ≠ []) :
    (tcpBufferPayload (socket.shiftNumbers d e) (segment.seqNum + d) segment.payload).2 =
        (tcpBufferPayload socket segment.seqNum segment.payload).2.shiftNumbers d e ↔
      SeqTestKept d socket segment := by
  rw [tcpBufferPayload_eq_reading _ _ h, tcpBufferPayload_eq_reading _ _ h,
    tcpBufferReading_shift, (TcpSocket.shiftNumbers_injective d e).eq_iff, SeqTestKept,
    TcpSocket.shiftNumbers_recvSeq]
  by_cases hbefore : segment.seqNum < socket.recvSeq
  · have hne : segment.seqNum ≠ socket.recvSeq := by
      intro heq
      rw [heq] at hbefore
      exact UInt32.lt_irrefl _ hbefore
    by_cases hafter : segment.seqNum + d < socket.recvSeq + d
    · simp [hbefore, hafter]
    · simp only [hbefore, hafter, decide_true, decide_false, iff_false, not_true_eq_false,
        false_or]
      rw [eq_comm]
      exact tcpBufferReading_agree_iff hne
  · by_cases hafter : segment.seqNum + d < socket.recvSeq + d
    · have hne : segment.seqNum ≠ socket.recvSeq := by
        intro heq
        rw [heq] at hafter
        exact UInt32.lt_irrefl _ hafter
      simp only [hbefore, hafter, decide_true, decide_false, iff_true, false_or]
      exact tcpBufferReading_agree_iff hne
    · simp [hbefore, hafter]

/-! ## Acknowledging -/

theorem tcpAcknowledgeData_of_takes {socket : TcpSocket} {ackNum : UInt32} :
    tcpTakesAck socket ackNum ↔ ¬ (ackNum ≤ socket.sendAck ∨ socket.sendSeq < ackNum) := by
  rw [tcpTakesAck, not_or, UInt32.not_le, UInt32.not_lt]

theorem tcpAcknowledgeData_sendAck (socket : TcpSocket) (ackNum : UInt32) :
    (tcpAcknowledgeData socket ackNum).sendAck = ackNum ∧ tcpTakesAck socket ackNum ∨
      tcpAcknowledgeData socket ackNum = socket ∧ ¬ tcpTakesAck socket ackNum := by
  rw [tcpAcknowledgeData_of_takes, tcpAcknowledgeData]
  split
  · rename_i h
    exact Or.inr ⟨rfl, not_not.2 h⟩
  · rename_i h
    exact Or.inl ⟨rfl, h⟩

/-- The shifted acknowledgement leaves the shifted `send_ack` only when the test keeps its answer. -/
theorem ackTestKept_of_sendAck {socket : TcpSocket} {ackNum d e : UInt32}
    (h : (tcpAcknowledgeData (socket.shiftNumbers d e) (ackNum + e)).sendAck =
      (tcpAcknowledgeData socket ackNum).sendAck + e) : AckTestKept e socket ackNum := by
  have hne : ∀ s : TcpSocket, ∀ a, tcpTakesAck s a → s.sendAck ≠ a := by
    intro s a htakes heq
    rw [tcpTakesAck, heq] at htakes
    exact UInt32.lt_irrefl _ htakes.1
  change tcpTakesAck socket ackNum ↔ tcpTakesAck (socket.shiftNumbers d e) (ackNum + e)
  obtain ⟨hold, htakes⟩ | ⟨hold, htakes⟩ := tcpAcknowledgeData_sendAck socket ackNum
  · obtain ⟨-, htakes'⟩ | ⟨hnew, htakes'⟩ :=
      tcpAcknowledgeData_sendAck (socket.shiftNumbers d e) (ackNum + e)
    · exact iff_of_true htakes htakes'
    · rw [hnew, hold, TcpSocket.shiftNumbers_sendAck, UInt32.add_left_inj] at h
      exact absurd h (hne _ _ htakes)
  · obtain ⟨hnew, htakes'⟩ | ⟨-, htakes'⟩ :=
      tcpAcknowledgeData_sendAck (socket.shiftNumbers d e) (ackNum + e)
    · rw [hnew, hold] at h
      exact absurd h.symm (hne _ _ htakes')
    · exact iff_of_false htakes htakes'

theorem tcpAcknowledgeData_shift {socket : TcpSocket} {ackNum e : UInt32} (d : UInt32)
    (h : AckTestKept e socket ackNum) :
    tcpAcknowledgeData (socket.shiftNumbers d e) (ackNum + e) =
      (tcpAcknowledgeData socket ackNum).shiftNumbers d e := by
  have hiff : tcpTakesAck socket ackNum ↔
      tcpTakesAck (socket.shiftNumbers d e) (ackNum + e) := h
  rw [tcpAcknowledgeData_of_takes, tcpAcknowledgeData_of_takes, not_iff_not] at hiff
  rw [tcpAcknowledgeData, tcpAcknowledgeData]
  by_cases hold : ackNum ≤ socket.sendAck ∨ socket.sendSeq < ackNum
  · rw [if_pos hold, if_pos (hiff.1 hold)]
  · rw [if_neg hold, if_neg fun hnew => hold (hiff.2 hnew)]
    simp only [TcpSocket.shiftNumbers, add_sub_add_right]
    congr 1
    split
    · rfl
    · rfl

/-! ## Results -/

theorem unsigned_tcpStoreChecksum (segment : TcpSegment) (outSize : Nat)
    (srcIp dstIp : IpAddress) :
    (tcpStoreChecksum segment outSize srcIp dstIp).unsigned = segment.unsigned := by
  obtain ⟨_, h⟩ := tcpStoreChecksum_frame segment outSize srcIp dstIp
  rw [h]
  rfl

theorem tcpPrepareAck_flags (socket : TcpSocket) : (tcpPrepareAck socket).flags = tcpFlagAck := by
  obtain ⟨_, h⟩ := tcpStoreChecksum_frame
    { tcpInit with
      srcPort := socket.localPort
      dstPort := socket.remotePort
      seqNum := socket.sendSeq
      ackNum := socket.recvSeq
      flags := tcpFlagAck
      window := tcpWindowSize } tcpHeaderSize socket.localIp socket.remoteIp
  rw [tcpPrepareAck, h]

/-- The acknowledgement of a shifted socket is the shifted acknowledgement. -/
theorem tcpPrepareAck_shift (d e : UInt32) (socket : TcpSocket) :
    (tcpPrepareAck (socket.shiftNumbers d e)).unsigned =
      ((tcpPrepareAck socket).shiftReply d e).unsigned := by
  rw [TcpSegment.shiftReply, if_neg (by rw [tcpPrepareAck_flags]; decide)]
  have hpeel : ∀ segment : TcpSegment,
      ({ segment with
          seqNum := segment.seqNum + e, ackNum := segment.ackNum + d } : TcpSegment).unsigned =
        { segment.unsigned with
          seqNum := segment.unsigned.seqNum + e, ackNum := segment.unsigned.ackNum + d } :=
    fun _ => rfl
  rw [hpeel, tcpPrepareAck, tcpPrepareAck, unsigned_tcpStoreChecksum, unsigned_tcpStoreChecksum]
  rfl

/-- No response in both runs. -/
theorem shiftReply_tcpInit (d e : UInt32) :
    tcpInit.unsigned = (tcpInit.shiftReply d e).unsigned := by
  rw [TcpSegment.shiftReply, if_pos (show tcpInit.flags = 0 from rfl)]

/-- Results with an unset response are shifts when their sockets are. -/
theorem isShift_quiet {d e : UInt32} {socket socket' : TcpSocket} (accepted : Bool)
    (h : socket.state ≠ .closed) :
    TcpReceive.IsShift d e { accepted := accepted, socket := socket, response := tcpInit }
        { accepted := accepted, socket := socket', response := tcpInit } ↔
      socket' = socket.shiftNumbers d e := by
  constructor
  · intro hshift
    rw [← TcpSocket.shift_of_open h]
    exact hshift.socket
  · rintro rfl
    exact ⟨rfl, (TcpSocket.shift_of_open h d e).symm, shiftReply_tcpInit d e⟩

theorem isShift_tcpAnswer {d e : UInt32} {socket socket' : TcpSocket}
    (h : socket.state ≠ .closed) :
    TcpReceive.IsShift d e (tcpAnswer socket) (tcpAnswer socket') ↔
      socket' = socket.shiftNumbers d e := by
  constructor
  · intro hshift
    rw [← TcpSocket.shift_of_open h]
    exact hshift.socket
  · rintro rfl
    exact ⟨rfl, (TcpSocket.shift_of_open h d e).symm, tcpPrepareAck_shift d e socket⟩

theorem shiftNumbers_fin (d e : UInt32) (socket : TcpSocket) (next : TcpState) :
    { socket.shiftNumbers d e with
        recvSeq := (socket.shiftNumbers d e).recvSeq + 1, state := next } =
      TcpSocket.shiftNumbers d e { socket with recvSeq := socket.recvSeq + 1, state := next } := by
  simp only [TcpSocket.shiftNumbers]
  rw [UInt32.add_assoc, UInt32.add_comm d, ← UInt32.add_assoc]

theorem shift_fin {next : TcpState} (hnext : next ≠ .closed) (d e : UInt32) (socket : TcpSocket) :
    TcpSocket.shift d e { socket with recvSeq := socket.recvSeq + 1, state := next } =
      TcpSocket.shiftNumbers d e { socket with recvSeq := socket.recvSeq + 1, state := next } :=
  if_neg hnext

/-- The FIN branch neither hides nor makes a difference between the buffered sockets. -/
theorem isShift_tcpReceiveFin {d e : UInt32} {checksum : UInt16} {socket socket' : TcpSocket}
    {segment : TcpSegment} {next : TcpState} (h : socket.state ≠ .closed)
    (hnext : next ≠ .closed) (hchange : next ≠ socket.state)
    (hstate : socket'.state = socket.state) :
    TcpReceive.IsShift d e (tcpReceiveFin socket segment next)
        (tcpReceiveFin socket' (segment.shift d e checksum) next) ↔
      socket' = socket.shiftNumbers d e := by
  constructor
  · intro hshift
    have hsocket := hshift.socket
    rw [tcpReceiveFin, tcpReceiveFin] at hsocket
    by_cases hold : segment.seqNum + UInt32.ofNat segment.payload.length ≠ socket.recvSeq
    · rw [if_pos hold] at hsocket
      split at hsocket
      · rwa [tcpAnswer, tcpAnswer, TcpSocket.shift_of_open h] at hsocket
      · have hbad := congrArg TcpSocket.state hsocket
        rw [tcpAnswer, TcpSocket.shift_of_open h] at hbad
        exact absurd hbad hchange
    · rw [if_neg hold] at hsocket
      split at hsocket
      · have hbad := congrArg TcpSocket.state hsocket
        simp only [shift_fin hnext] at hbad
        exact absurd (hbad.symm.trans hstate) hchange
      · simp only [shift_fin hnext] at hsocket
        -- The step of `recv_seq` and the new state are the same on both sides.
        obtain ⟨inUse, state, localIp, localPort, remoteIp, remotePort, sendSeq, recvSeq, sendAck,
          recvAck, ⟨data, startSeq⟩, recvBuffer, isListening, parent, hasData⟩ := socket
        obtain ⟨inUse', state', localIp', localPort', remoteIp', remotePort', sendSeq', recvSeq',
          sendAck', recvAck', ⟨data', startSeq'⟩, recvBuffer', isListening', parent',
          hasData'⟩ := socket'
        simp only [TcpSocket.shiftNumbers, TcpSocket.mk.injEq, TcpSendBuffer.mk.injEq] at hsocket hstate ⊢
        refine ⟨hsocket.1, hstate, ?_⟩
        obtain ⟨-, -, h1, h2, h3, h4, h5, hrecv, hrest⟩ := hsocket
        refine ⟨h1, h2, h3, h4, h5, ?_, hrest⟩
        grind
  · rintro rfl
    have hseq : segment.seqNum + d + UInt32.ofNat segment.payload.length =
        segment.seqNum + UInt32.ofNat segment.payload.length + d := by
      grind
    rw [tcpReceiveFin, tcpReceiveFin]
    simp only [TcpSegment.shift, TcpSocket.shiftNumbers_recvSeq, hseq, ne_eq, UInt32.add_left_inj]
    by_cases hold : segment.seqNum + UInt32.ofNat segment.payload.length = socket.recvSeq
    · simp only [hold, not_true_eq_false, if_false]
      have hfin := shiftNumbers_fin d e socket next
      rw [TcpSocket.shiftNumbers_recvSeq] at hfin
      refine ⟨rfl, ?_, ?_⟩
      · rw [shift_fin hnext]
        exact hfin
      · have hack := tcpPrepareAck_shift d e { socket with recvSeq := socket.recvSeq + 1 }
        rw [← hack]
        have hsame : ({ socket.shiftNumbers d e with recvSeq := socket.recvSeq + d + 1 } :
            TcpSocket) =
            TcpSocket.shiftNumbers d e { socket with recvSeq := socket.recvSeq + 1 } :=
          shiftNumbers_fin d e socket socket.state
        rw [hsame]
    · simp only [hold, not_false_eq_true, if_true]
      exact (isShift_tcpAnswer h).2 rfl

/-! ## The states -/

theorem add_beq_add_right (a b d : UInt32) : (a + d == b + d) = (a == b) := by
  rw [Bool.eq_iff_iff, beq_iff_eq, beq_iff_eq, UInt32.add_left_inj]

/-- Buffering in a state that compares plainly, for any payload. -/
theorem tcpBufferPayload_shift_iff' {socket : TcpSocket} {segment : TcpSegment} (d e : UInt32) :
    (tcpBufferPayload (socket.shiftNumbers d e) (segment.seqNum + d) segment.payload).2 =
        (tcpBufferPayload socket segment.seqNum segment.payload).2.shiftNumbers d e ↔
      (segment.payload ≠ [] → SeqTestKept d socket segment) := by
  by_cases h : segment.payload = []
  · simp [tcpBufferPayload, h]
  · simp only [h, ne_eq, not_false_eq_true, true_imp_iff]
    exact tcpBufferPayload_shift_iff d e h

theorem isShift_established {socket : TcpSocket} {segment : TcpSegment} (d e : UInt32)
    (checksum : UInt16) (hstate : socket.state = .established) :
    TcpReceive.IsShift d e (tcpReceiveEstablished socket segment tcpInit)
        (tcpReceiveEstablished (socket.shiftNumbers d e) (segment.shift d e checksum) tcpInit) ↔
      (segment.hasFlag tcpFlagAck = true → AckTestKept e socket segment.ackNum) ∧
        (segment.payload ≠ [] → SeqTestKept d socket segment) := by
  obtain ⟨sendBuffer, sendAck, hframe⟩ := tcpAcknowledgeData_frame socket segment.ackNum
  obtain ⟨sendBuffer', sendAck', hframe'⟩ :=
    tcpAcknowledgeData_frame (socket.shiftNumbers d e) (segment.ackNum + e)
  -- The acknowledged sockets keep what buffering reads.
  generalize hs1 : (if segment.hasFlag tcpFlagAck then tcpAcknowledgeData socket segment.ackNum
    else socket) = s1
  generalize hs1' : (if segment.hasFlag tcpFlagAck then
    tcpAcknowledgeData (socket.shiftNumbers d e) (segment.ackNum + e)
    else socket.shiftNumbers d e) = s1'
  have hstate1 : s1.state = .established := by
    rw [← hs1, hframe]
    split
    all_goals exact hstate
  have hstate1' : s1'.state = .established := by
    rw [← hs1', hframe']
    split
    all_goals exact hstate
  have hseqTest : SeqTestKept d s1 segment ↔ SeqTestKept d socket segment := by
    rw [← hs1, hframe]
    split
    all_goals rfl
  have hkept : s1'.sendAck = s1.sendAck + e →
      segment.hasFlag tcpFlagAck = true → AckTestKept e socket segment.ackNum := by
    intro h hflag
    rw [← hs1, ← hs1', if_pos hflag, if_pos hflag] at h
    exact ackTestKept_of_sendAck h
  have hshift : (segment.hasFlag tcpFlagAck = true → AckTestKept e socket segment.ackNum) →
      s1' = s1.shiftNumbers d e := by
    intro h
    rw [← hs1, ← hs1']
    split
    · rename_i hflag
      exact tcpAcknowledgeData_shift d (h hflag)
    · rfl
  have hbuffered : (tcpBufferPayload s1' (segment.seqNum + d) segment.payload).2 =
        (tcpBufferPayload s1 segment.seqNum segment.payload).2.shiftNumbers d e ↔
      (segment.hasFlag tcpFlagAck = true → AckTestKept e socket segment.ackNum) ∧
        (segment.payload ≠ [] → SeqTestKept d socket segment) := by
    rw [← hseqTest, ← tcpBufferPayload_shift_iff' d e]
    constructor
    · intro h
      have hsend := congrArg TcpSocket.sendAck h
      rw [tcpBufferPayload_sendAck, TcpSocket.shiftNumbers_sendAck, tcpBufferPayload_sendAck]
        at hsend
      have hsame := hshift (hkept hsend)
      exact ⟨hkept hsend, by rw [← hsame]; exact h⟩
    · rintro ⟨hack, h⟩
      rw [hshift hack]
      exact h
  rw [← hbuffered]
  have hopen : (tcpBufferPayload s1 segment.seqNum segment.payload).2.state ≠ .closed := by
    rw [tcpBufferPayload_state, hstate1]
    decide
  have hreceive : tcpReceiveEstablished socket segment tcpInit =
      if segment.hasFlag tcpFlagFin then
        tcpReceiveFin (tcpBufferPayload s1 segment.seqNum segment.payload).2 segment .closeWait
      else if !segment.payload.isEmpty then
        tcpAnswer (tcpBufferPayload s1 segment.seqNum segment.payload).2
      else if segment.hasFlag tcpFlagAck then
        tcpAbsorb (tcpBufferPayload s1 segment.seqNum segment.payload).2 tcpInit
      else
        tcpIgnore (tcpBufferPayload s1 segment.seqNum segment.payload).2 tcpInit := by
    rw [← hs1]
    rfl
  have hreceive' : tcpReceiveEstablished (socket.shiftNumbers d e) (segment.shift d e checksum)
      tcpInit =
      if segment.hasFlag tcpFlagFin then
        tcpReceiveFin (tcpBufferPayload s1' (segment.seqNum + d) segment.payload).2
          (segment.shift d e checksum) .closeWait
      else if !segment.payload.isEmpty then
        tcpAnswer (tcpBufferPayload s1' (segment.seqNum + d) segment.payload).2
      else if segment.hasFlag tcpFlagAck then
        tcpAbsorb (tcpBufferPayload s1' (segment.seqNum + d) segment.payload).2 tcpInit
      else
        tcpIgnore (tcpBufferPayload s1' (segment.seqNum + d) segment.payload).2 tcpInit := by
    rw [← hs1']
    rfl
  rw [hreceive, hreceive']
  split
  · refine isShift_tcpReceiveFin hopen (by decide) ?_ ?_
    · rw [tcpBufferPayload_state, hstate1]
      decide
    · rw [tcpBufferPayload_state, tcpBufferPayload_state, hstate1, hstate1']
  · split
    · exact isShift_tcpAnswer hopen
    · split
      · exact isShift_quiet true hopen
      · exact isShift_quiet false hopen

/-- Results whose response, if any, acknowledges the buffered sockets. -/
theorem isShift_reply {d e : UInt32} {socket socket' after after' : TcpSocket}
    (accepted empty : Bool) (h : after.state ≠ .closed)
    (hafter : after' = after.shiftNumbers d e ↔ socket' = socket.shiftNumbers d e) :
    TcpReceive.IsShift d e
        { accepted := accepted
          socket := after
          response := if empty then tcpInit else tcpPrepareAck socket }
        { accepted := accepted
          socket := after'
          response := if empty then tcpInit else tcpPrepareAck socket' } ↔
      socket' = socket.shiftNumbers d e := by
  constructor
  · intro hshift
    rw [← hafter, ← TcpSocket.shift_of_open h]
    exact hshift.socket
  · intro hsocket
    refine ⟨rfl, ?_, ?_⟩
    · rw [TcpSocket.shift_of_open h]
      exact hafter.2 hsocket
    · rw [hsocket]
      cases empty with
      | true => exact shiftReply_tcpInit d e
      | false => exact tcpPrepareAck_shift d e socket

/-- FIN_WAIT_1 after the payload is buffered. -/
def afterFinWait1 (buffered : TcpSocket) (segment : TcpSegment) (finAcked : Bool) : TcpReceive :=
  if segment.hasFlag tcpFlagFin then
    tcpReceiveFin buffered segment (if finAcked then .timeWait else .closing)
  else
    let response := if segment.payload.isEmpty then tcpInit else tcpPrepareAck buffered
    if finAcked then
      tcpAbsorb { buffered with sendAck := segment.ackNum, state := .finWait2 } response
    else if !segment.payload.isEmpty then
      tcpAbsorb buffered response
    else
      tcpIgnore buffered response

theorem finAcked_shift_iff {d e ackNum : UInt32} {socket socket' : TcpSocket}
    (hstate : socket.state = .finWait1) (hstate' : socket'.state = .finWait1)
    (hsend : socket'.sendAck = socket.sendAck + e) :
    ({ socket' with sendAck := ackNum + e, state := .finWait2 } : TcpSocket) =
        TcpSocket.shiftNumbers d e { socket with sendAck := ackNum, state := .finWait2 } ↔
      socket' = socket.shiftNumbers d e := by
  obtain ⟨inUse, state, localIp, localPort, remoteIp, remotePort, sendSeq, recvSeq, sendAck, recvAck,
    sendBuffer, recvBuffer, isListening, parent, hasData⟩ := socket
  obtain ⟨inUse', state', localIp', localPort', remoteIp', remotePort', sendSeq', recvSeq', sendAck',
    recvAck', sendBuffer', recvBuffer', isListening', parent', hasData'⟩ := socket'
  simp only at hstate hstate' hsend
  subst hstate hstate' hsend
  simp only [TcpSocket.shiftNumbers, TcpSocket.mk.injEq, true_and]

theorem isShift_afterFinWait1 (d e : UInt32) (checksum : UInt16) {socket socket' : TcpSocket}
    (segment : TcpSegment) (hstate : socket.state = .finWait1) (hstate' : socket'.state = .finWait1)
    (hsend : socket'.sendAck = socket.sendAck + e) (finAcked : Bool) :
    TcpReceive.IsShift d e (afterFinWait1 socket segment finAcked)
        (afterFinWait1 socket' (segment.shift d e checksum) finAcked) ↔
      socket' = socket.shiftNumbers d e := by
  have hopen : socket.state ≠ .closed := by
    rw [hstate]
    decide
  have hflag : (segment.shift d e checksum).hasFlag tcpFlagFin = segment.hasFlag tcpFlagFin := rfl
  have hpayload : (segment.shift d e checksum).payload = segment.payload := rfl
  have hackNum : (segment.shift d e checksum).ackNum = segment.ackNum + e := rfl
  rw [afterFinWait1, afterFinWait1, hflag, hpayload, hackNum]
  cases hfin : segment.hasFlag tcpFlagFin with
  | true =>
      refine isShift_tcpReceiveFin hopen ?_ ?_ ?_
      · cases finAcked <;> decide
      · rw [hstate]
        cases finAcked <;> decide
      · rw [hstate, hstate']
  | false =>
      cases finAcked with
      | true =>
          -- The acknowledged FIN overwrites `send_ack`, which buffering left alone.
          exact isShift_reply true segment.payload.isEmpty (fun h => (nomatch h))
            (finAcked_shift_iff hstate hstate' hsend)
      | false =>
          cases hempty : segment.payload.isEmpty with
          | true => exact isShift_reply false true hopen Iff.rfl
          | false => exact isShift_reply true false hopen Iff.rfl

theorem tcpReceiveFinWait1_eq (socket : TcpSocket) (segment : TcpSegment) :
    tcpReceiveFinWait1 socket segment tcpInit =
      afterFinWait1 (tcpBufferPayload socket segment.seqNum segment.payload).2 segment
        (segment.hasFlag tcpFlagAck && segment.ackNum == socket.sendSeq) := rfl

theorem isShift_finWait1 {socket : TcpSocket} {segment : TcpSegment} (d e : UInt32)
    (checksum : UInt16) (hstate : socket.state = .finWait1) :
    TcpReceive.IsShift d e (tcpReceiveFinWait1 socket segment tcpInit)
        (tcpReceiveFinWait1 (socket.shiftNumbers d e) (segment.shift d e checksum) tcpInit) ↔
      (segment.payload ≠ [] → SeqTestKept d socket segment) := by
  have hacked : ((segment.shift d e checksum).hasFlag tcpFlagAck &&
      (segment.shift d e checksum).ackNum == (socket.shiftNumbers d e).sendSeq) =
        (segment.hasFlag tcpFlagAck && segment.ackNum == socket.sendSeq) :=
    congrArg (segment.hasFlag tcpFlagAck && ·) (add_beq_add_right _ _ _)
  have hsend : (tcpBufferPayload (socket.shiftNumbers d e) (segment.seqNum + d)
      segment.payload).2.sendAck =
        (tcpBufferPayload socket segment.seqNum segment.payload).2.sendAck + e := by
    rw [tcpBufferPayload_sendAck, tcpBufferPayload_sendAck, TcpSocket.shiftNumbers_sendAck]
  rw [← tcpBufferPayload_shift_iff' d e, tcpReceiveFinWait1_eq, tcpReceiveFinWait1_eq, hacked]
  exact isShift_afterFinWait1 d e checksum segment
    ((tcpBufferPayload_state socket segment.seqNum segment.payload).trans hstate)
    ((tcpBufferPayload_state (socket.shiftNumbers d e) (segment.seqNum + d)
      segment.payload).trans hstate) hsend _

theorem isShift_finWait2 {socket : TcpSocket} {segment : TcpSegment} (d e : UInt32)
    (checksum : UInt16) (hstate : socket.state = .finWait2) :
    TcpReceive.IsShift d e (tcpReceiveFinWait2 socket segment tcpInit)
        (tcpReceiveFinWait2 (socket.shiftNumbers d e) (segment.shift d e checksum) tcpInit) ↔
      (segment.payload ≠ [] → SeqTestKept d socket segment) := by
  have hopen : (tcpBufferPayload socket segment.seqNum segment.payload).2.state ≠ .closed := by
    rw [tcpBufferPayload_state, hstate]
    decide
  rw [← tcpBufferPayload_shift_iff' d e]
  change TcpReceive.IsShift d e _ (if segment.hasFlag tcpFlagFin then
      tcpReceiveFin (tcpBufferPayload (socket.shiftNumbers d e) (segment.seqNum + d)
        segment.payload).2 (segment.shift d e checksum) .timeWait
    else if !segment.payload.isEmpty then
      tcpAnswer (tcpBufferPayload (socket.shiftNumbers d e) (segment.seqNum + d)
        segment.payload).2
    else
      tcpIgnore (tcpBufferPayload (socket.shiftNumbers d e) (segment.seqNum + d)
        segment.payload).2 tcpInit) ↔ _
  rw [tcpReceiveFinWait2]
  split
  · refine isShift_tcpReceiveFin hopen (by decide) ?_ ?_
    · rw [tcpBufferPayload_state, hstate]
      decide
    · rw [tcpBufferPayload_state, tcpBufferPayload_state, TcpSocket.shiftNumbers_state]
  · split
    · exact isShift_tcpAnswer hopen
    · exact isShift_quiet false hopen

theorem add_one_add (a e : UInt32) : a + e + 1 = a + 1 + e := by
  rw [UInt32.add_assoc, UInt32.add_comm e, ← UInt32.add_assoc]

theorem isShift_synSent {socket : TcpSocket} {segment : TcpSegment} (d e : UInt32)
    (checksum : UInt16) (hstate : socket.state = .synSent) :
    TcpReceive.IsShift d e (tcpReceiveSynSent socket segment tcpInit)
      (tcpReceiveSynSent (socket.shiftNumbers d e) (segment.shift d e checksum) tcpInit) := by
  have hacked : ((segment.shift d e checksum).ackNum ==
      (socket.shiftNumbers d e).sendSeq + 1) = (segment.ackNum == socket.sendSeq + 1) := by
    rw [TcpSocket.shiftNumbers_sendSeq, add_one_add]
    exact add_beq_add_right _ _ _
  have hflag : ∀ mask, (segment.shift d e checksum).hasFlag mask = segment.hasFlag mask :=
    fun _ => rfl
  rw [tcpReceiveSynSent, tcpReceiveSynSent, hacked, hflag, hflag, hflag]
  split
  · refine (isShift_tcpAnswer ?_).2 ?_
    · simp
    · simp only [TcpSocket.shiftNumbers, TcpSegment.shift, add_one_add]
  · refine (isShift_quiet false ?_).2 rfl
    rw [hstate]
    decide

theorem isShift_synReceived {socket : TcpSocket} {segment : TcpSegment} (d e : UInt32)
    (checksum : UInt16) (hstate : socket.state = .synReceived) :
    TcpReceive.IsShift d e (tcpReceiveSynReceived socket segment tcpInit)
      (tcpReceiveSynReceived (socket.shiftNumbers d e) (segment.shift d e checksum) tcpInit) := by
  have hacked : ((segment.shift d e checksum).ackNum ==
      (socket.shiftNumbers d e).sendSeq + 1) = (segment.ackNum == socket.sendSeq + 1) := by
    rw [TcpSocket.shiftNumbers_sendSeq, add_one_add]
    exact add_beq_add_right _ _ _
  have hseq : ((segment.shift d e checksum).seqNum == (socket.shiftNumbers d e).recvSeq) =
      (segment.seqNum == socket.recvSeq) := add_beq_add_right _ _ _
  have hflag : ∀ mask, (segment.shift d e checksum).hasFlag mask = segment.hasFlag mask :=
    fun _ => rfl
  rw [tcpReceiveSynReceived, tcpReceiveSynReceived, hacked, hseq, hflag, hflag]
  split
  · rename_i hcond
    simp only [Bool.and_eq_true, beq_iff_eq] at hcond
    obtain ⟨-, horder⟩ := hcond
    have hpayload : (segment.shift d e checksum).payload = segment.payload := rfl
    simp only [hpayload]
    split
    · refine (isShift_quiet true ?_).2 rfl
      simp
    · generalize hs1 :
        ({ socket with
            sendAck := segment.ackNum, sendSeq := segment.ackNum, state := .established } :
          TcpSocket) = s1
      have hstate1 : s1.state = .established := by rw [← hs1]
      have hrecv : s1.recvSeq = socket.recvSeq := by rw [← hs1]
      -- A segment at `recv_seq` is never before it.
      have htest : segment.payload ≠ [] → SeqTestKept d s1 segment := by
        intro _
        refine Or.inl ?_
        rw [horder, hrecv]
        exact iff_of_false (UInt32.lt_irrefl _) (UInt32.lt_irrefl _)
      have hbuffered := (tcpBufferPayload_shift_iff' d e).2 htest
      refine (isShift_tcpAnswer ?_).2 ?_
      · rw [tcpBufferPayload_state, hstate1]
        decide
      · rw [← hbuffered, ← hs1]
        rfl
  · refine (isShift_quiet false ?_).2 rfl
    rw [hstate]
    decide

theorem isShift_closing {socket : TcpSocket} {segment : TcpSegment} (d e : UInt32)
    (checksum : UInt16) (hstate : socket.state = .closing) :
    TcpReceive.IsShift d e (tcpReceiveClosing socket segment tcpInit)
      (tcpReceiveClosing (socket.shiftNumbers d e) (segment.shift d e checksum) tcpInit) := by
  have hacked : ((segment.shift d e checksum).hasFlag tcpFlagAck &&
      (segment.shift d e checksum).ackNum == (socket.shiftNumbers d e).sendSeq) =
        (segment.hasFlag tcpFlagAck && segment.ackNum == socket.sendSeq) :=
    congrArg (segment.hasFlag tcpFlagAck && ·) (add_beq_add_right _ _ _)
  rw [tcpReceiveClosing, tcpReceiveClosing, hacked]
  split
  · refine (isShift_quiet true ?_).2 rfl
    simp
  · refine (isShift_quiet false ?_).2 rfl
    rw [hstate]
    decide

theorem isShift_lastAck {socket : TcpSocket} {segment : TcpSegment} (d e : UInt32)
    (checksum : UInt16) (hstate : socket.state = .lastAck) :
    TcpReceive.IsShift d e (tcpReceiveLastAck socket segment tcpInit)
      (tcpReceiveLastAck (socket.shiftNumbers d e) (segment.shift d e checksum) tcpInit) := by
  have hacked : ((segment.shift d e checksum).hasFlag tcpFlagAck &&
      (segment.shift d e checksum).ackNum == (socket.shiftNumbers d e).sendSeq) =
        (segment.hasFlag tcpFlagAck && segment.ackNum == socket.sendSeq) :=
    congrArg (segment.hasFlag tcpFlagAck && ·) (add_beq_add_right _ _ _)
  rw [tcpReceiveLastAck, tcpReceiveLastAck, hacked]
  split
  · exact ⟨rfl, (if_pos rfl).symm, shiftReply_tcpInit d e⟩
  · refine (isShift_quiet false ?_).2 rfl
    rw [hstate]
    decide

/-! ## When a shift is not seen -/

/-- Shifting the numbers of a socket and a segment shifts the result, and changes nothing else,
exactly when the plain comparisons the segment reaches keep their answers. -/
theorem tcpSocketReceiveSegment_shift_iff {socket : TcpSocket} {segment : TcpSegment}
    {srcIp dstIp : IpAddress} (d e : UInt32) (checksum : UInt16)
    (hclosed : socket.state ≠ .closed) (hlisten : socket.state ≠ .listen)
    (hvalid : tcpValidateChecksum segment srcIp dstIp = true)
    (hvalid' : tcpValidateChecksum (segment.shift d e checksum) srcIp dstIp = true) :
    TcpReceive.IsShift d e (tcpSocketReceiveSegment socket segment srcIp dstIp tcpInit)
        (tcpSocketReceiveSegment (socket.shift d e) (segment.shift d e checksum) srcIp dstIp
          tcpInit) ↔
      TestsKept d e socket segment := by
  rw [tcpSocketReceiveSegment, tcpSocketReceiveSegment, if_pos hvalid, if_pos hvalid',
    TcpSocket.shift_of_open hclosed, tcpReceiveByState, tcpReceiveByState,
    TcpSocket.shiftNumbers_state, TestsKept]
  cases hstate : socket.state with
  | closed => exact absurd hstate hclosed
  | listen => exact absurd hstate hlisten
  | synSent => simpa [TcpState.buffers] using isShift_synSent d e checksum hstate
  | synReceived => simpa [TcpState.buffers] using isShift_synReceived d e checksum hstate
  | established => simpa [TcpState.buffers] using isShift_established d e checksum hstate
  | finWait1 => simpa [TcpState.buffers] using isShift_finWait1 d e checksum hstate
  | finWait2 => simpa [TcpState.buffers] using isShift_finWait2 d e checksum hstate
  | closing => simpa [TcpState.buffers] using isShift_closing d e checksum hstate
  | lastAck => simpa [TcpState.buffers] using isShift_lastAck d e checksum hstate
  | timeWait =>
      refine iff_of_true ((isShift_quiet true hclosed).2 rfl) ?_
      simp [TcpState.buffers]
  | closeWait =>
      refine iff_of_true ((isShift_quiet false hclosed).2 rfl) ?_
      simp [TcpState.buffers]

/-- An established socket whose window crosses `2^32`. -/
def crossingSocket : TcpSocket :=
  { tcpSocketAllocated with
    state := .established
    localIp := ⟨10, 0, 0, 1, 24⟩
    localPort := 2080
    remoteIp := ⟨10, 0, 0, 2, 24⟩
    remotePort := 80
    sendSeq := 1001
    sendAck := 1001
    recvSeq := 0xFFFFFFF0 }

/-- One byte 32 places after the start of the window of `crossingSocket`, moved by `d` and `e`. -/
def crossingSegment (d e : UInt32) : TcpSegment :=
  tcpStoreChecksum
    { tcpInit with
      srcPort := 80
      dstPort := 2080
      seqNum := 0x10 + d
      ackNum := 1001 + e
      flags := tcpFlagAck ||| tcpFlagPsh
      payload := [65] }
    (tcpHeaderSize + tcpMaxPayload) ⟨10, 0, 0, 2, 0⟩ ⟨10, 0, 0, 1, 0⟩

/-- The byte is dropped as old; with every number 32 higher it is kept as pending. -/
theorem crossingSegment_dropped :
    ∃ checksum,
      tcpValidateChecksum (crossingSegment 0 0) ⟨10, 0, 0, 2, 0⟩ ⟨10, 0, 0, 1, 0⟩ = true ∧
        tcpValidateChecksum ((crossingSegment 0 0).shift 32 0 checksum) ⟨10, 0, 0, 2, 0⟩
          ⟨10, 0, 0, 1, 0⟩ = true ∧
        ¬ TcpReceive.IsShift 32 0
          (tcpSocketReceiveSegment crossingSocket (crossingSegment 0 0) ⟨10, 0, 0, 2, 0⟩
            ⟨10, 0, 0, 1, 0⟩ tcpInit)
          (tcpSocketReceiveSegment (crossingSocket.shift 32 0)
            ((crossingSegment 0 0).shift 32 0 checksum) ⟨10, 0, 0, 2, 0⟩ ⟨10, 0, 0, 1, 0⟩
            tcpInit) := by
  refine ⟨(crossingSegment 32 0).checksum, by decide +kernel, by decide +kernel, ?_⟩
  intro hshift
  have hcount := congrArg (fun socket => socket.recvBuffer.pendingCount) hshift.socket
  revert hcount
  decide +kernel

/-- A shift that moves the byte and the window without carrying either across `2^32`. -/
theorem crossingSegment_shifted :
    TcpReceive.IsShift 1 7
      (tcpSocketReceiveSegment crossingSocket (crossingSegment 0 0) ⟨10, 0, 0, 2, 0⟩
        ⟨10, 0, 0, 1, 0⟩ tcpInit)
      (tcpSocketReceiveSegment (crossingSocket.shift 1 7)
        ((crossingSegment 0 0).shift 1 7 (crossingSegment 1 7).checksum) ⟨10, 0, 0, 2, 0⟩
        ⟨10, 0, 0, 1, 0⟩ tcpInit) := by
  refine (tcpSocketReceiveSegment_shift_iff 1 7 (crossingSegment 1 7).checksum (by decide)
    (by decide) (by decide +kernel) (by decide +kernel)).2 ⟨?_, ?_⟩
  · intro _ _
    unfold AckTestKept tcpTakesAck
    decide +kernel
  · intro _ _
    refine Or.inl ?_
    decide +kernel

end MagiStack
