import MagiStack.Layer4.TcpShift

/-!
# TcpReset — segments with RST

No branch of `tcp_socket_receive_segment` handles RST: the handshake states and LISTEN refuse a
segment that has it, and the other states read its acknowledgement, its payload and its FIN as if it
were not set.  This file states what a reset should do and proves for which segments the code does it.
-/

namespace MagiStack

/-! ## What a reset should do -/

/-- The RST belongs to the connection: it is at `recv_seq`, or in SYN_SENT it acknowledges the SYN. -/
def ResetAcceptable (socket : TcpSocket) (segment : TcpSegment) : Prop :=
  if socket.state = .synSent then
    segment.hasFlag tcpFlagAck = true ∧ segment.ackNum = socket.sendSeq + 1
  else
    segment.seqNum = socket.recvSeq

instance (socket : TcpSocket) (segment : TcpSegment) :
    Decidable (ResetAcceptable socket segment) :=
  inferInstanceAs <| Decidable <|
    if socket.state = .synSent then
      segment.hasFlag tcpFlagAck = true ∧ segment.ackNum = socket.sendSeq + 1
    else
      segment.seqNum = socket.recvSeq

/-- An acceptable RST closes the connection and delivers nothing; another one is ignored. -/
def ResetObeyed (socket : TcpSocket) (segment : TcpSegment) (after : TcpSocket) : Prop :=
  (ResetAcceptable socket segment →
      after.state = .closed ∧ after.recvBuffer.data <+: socket.recvBuffer.data) ∧
    (¬ ResetAcceptable socket segment → after = socket)

/-- The states a connection attempt or a connection is in. -/
def TcpState.resettable : TcpState → Bool
  | .closed | .listen | .timeWait => false
  | _ => true

/-! ## What the code reads from the segment -/

/-- The payload changes the socket: `tcp_buffer_payload` takes it under the reading it chooses. -/
def tcpTakesPayload (socket : TcpSocket) (segment : TcpSegment) : Prop :=
  segment.payload ≠ [] ∧
    if segment.seqNum < socket.recvSeq then
      tcpTakesBehind socket segment.seqNum segment.payload.length
    else
      tcpTakesAhead socket segment.seqNum segment.payload.length

/-- The segment carries a FIN whose number is `recv_seq`. -/
def tcpTakesFin (socket : TcpSocket) (segment : TcpSegment) : Prop :=
  segment.hasFlag tcpFlagFin = true ∧
    segment.seqNum + UInt32.ofNat segment.payload.length = socket.recvSeq

/-- The segment acknowledges all that was sent, the own FIN included. -/
def tcpAcksFin (socket : TcpSocket) (segment : TcpSegment) : Prop :=
  segment.hasFlag tcpFlagAck = true ∧ segment.ackNum = socket.sendSeq

/-- The socket acts on the segment in spite of its RST. -/
def tcpActsOn (socket : TcpSocket) (segment : TcpSegment) : Prop :=
  match socket.state with
  | .established =>
      segment.hasFlag tcpFlagAck = true ∧ tcpTakesAck socket segment.ackNum ∨
        tcpTakesPayload socket segment ∨ tcpTakesFin socket segment
  | .finWait1 =>
      tcpTakesPayload socket segment ∨ tcpTakesFin socket segment ∨
        segment.hasFlag tcpFlagFin = false ∧ tcpAcksFin socket segment
  | .finWait2 => tcpTakesPayload socket segment ∨ tcpTakesFin socket segment
  | .closing | .lastAck => tcpAcksFin socket segment
  | _ => False

/-- The segments on which the code does what a reset should do: in LAST_ACK, where acting on the
segment frees the socket, those acceptable exactly when they acknowledge the FIN; elsewhere those
that are neither acceptable nor acted on. -/
def ResetHarmless (socket : TcpSocket) (segment : TcpSegment) : Prop :=
  if socket.state = .lastAck then
    ResetAcceptable socket segment ↔ tcpActsOn socket segment
  else
    ¬ ResetAcceptable socket segment ∧ ¬ tcpActsOn socket segment

/-! ## The socket stays as it was unless it acts on the segment -/

theorem tcpBufferPayload_eq_self_iff (socket : TcpSocket) (segment : TcpSegment) :
    (tcpBufferPayload socket segment.seqNum segment.payload).2 = socket ↔
      ¬ tcpTakesPayload socket segment := by
  by_cases hpayload : segment.payload = []
  · simp [tcpBufferPayload, tcpTakesPayload, hpayload]
  · rw [tcpBufferPayload_eq_reading _ _ hpayload, tcpTakesPayload]
    by_cases hpast : segment.seqNum < socket.recvSeq
    · simp only [hpast, decide_true, if_true, ne_eq, hpayload, not_false_eq_true, true_and]
      exact tcpBufferReading_true_eq_self_iff socket segment.seqNum segment.payload
    · simp only [hpast, decide_false, if_false, ne_eq, hpayload, not_false_eq_true, true_and]
      exact tcpBufferReading_false_eq_self_iff socket segment.seqNum segment.payload

theorem tcpAcknowledgeData_eq_self_iff (socket : TcpSocket) (ackNum : UInt32) :
    tcpAcknowledgeData socket ackNum = socket ↔ ¬ tcpTakesAck socket ackNum := by
  obtain ⟨hsendAck, htakes⟩ | ⟨hsame, htakes⟩ := tcpAcknowledgeData_sendAck socket ackNum
  · refine iff_of_false ?_ (not_not.2 htakes)
    intro heq
    rw [heq] at hsendAck
    rw [tcpTakesAck, hsendAck] at htakes
    exact UInt32.lt_irrefl _ htakes.1
  · exact iff_of_true hsame htakes

/-- The FIN branch gives the socket back only when nothing was buffered and the FIN is not in
order. -/
theorem tcpReceiveFin_socket_eq_iff {socket buffered : TcpSocket} {segment : TcpSegment}
    {next : TcpState} (hfin : segment.hasFlag tcpFlagFin = true) (hnext : next ≠ socket.state) :
    (tcpReceiveFin buffered segment next).socket = socket ↔
      buffered = socket ∧ ¬ tcpTakesFin socket segment := by
  rw [tcpReceiveFin, tcpTakesFin]
  split
  · rename_i hnumber
    constructor
    · intro hsame
      replace hsame : buffered = socket := hsame
      rw [hsame] at hnumber
      exact ⟨hsame, fun htakes => hnumber htakes.2⟩
    · exact fun h => h.1
  · rename_i hnumber
    constructor
    · intro hsame
      exact absurd (congrArg TcpSocket.state hsame) hnext
    · rintro ⟨rfl, htakes⟩
      exact absurd ⟨hfin, not_not.1 hnumber⟩ htakes

theorem tcpTakesFin_flag (socket : TcpSocket) {segment : TcpSegment}
    (h : segment.hasFlag tcpFlagFin = false) : ¬ tcpTakesFin socket segment := by
  intro htakes
  have hflag := htakes.1
  rw [h] at hflag
  cases hflag

theorem TcpSegment.hasFlag_of_submask {segment : TcpSegment} {submask mask : UInt8}
    (hmask : mask &&& submask = submask) (h : segment.hasFlag submask = true) :
    segment.hasFlag mask = true := by
  rw [hasFlag, bne_iff_ne] at h ⊢
  intro hzero
  apply h
  rw [← hmask, ← UInt8.and_assoc, hzero, UInt8.zero_and]

theorem tcpReceiveSynSent_reset {socket : TcpSocket} {segment : TcpSegment} (response : TcpSegment)
    (hrst : segment.hasFlag tcpFlagRst = true) :
    (tcpReceiveSynSent socket segment response).socket = socket := by
  have hrefused : segment.hasFlag (tcpFlagFin ||| tcpFlagRst) = true :=
    segment.hasFlag_of_submask (by decide) hrst
  rw [tcpReceiveSynSent, hrefused]
  simp [tcpIgnore]

theorem tcpReceiveSynReceived_reset {socket : TcpSocket} {segment : TcpSegment}
    (response : TcpSegment) (hrst : segment.hasFlag tcpFlagRst = true) :
    (tcpReceiveSynReceived socket segment response).socket = socket := by
  have hrefused : segment.hasFlag (tcpFlagSyn ||| tcpFlagFin ||| tcpFlagRst) = true :=
    segment.hasFlag_of_submask (by decide) hrst
  rw [tcpReceiveSynReceived, hrefused]
  simp [tcpIgnore]

theorem tcpReceiveEstablished_socket_eq_iff {socket : TcpSocket} {segment : TcpSegment}
    (response : TcpSegment) (hstate : socket.state = .established) :
    (tcpReceiveEstablished socket segment response).socket = socket ↔
      ¬ tcpActsOn socket segment := by
  generalize hacknowledged : (if segment.hasFlag tcpFlagAck then
    tcpAcknowledgeData socket segment.ackNum else socket) = acknowledged
  have hack : acknowledged = socket ↔
      ¬ (segment.hasFlag tcpFlagAck = true ∧ tcpTakesAck socket segment.ackNum) := by
    rw [← hacknowledged]
    split
    · rename_i hflag
      simp only [hflag, true_and]
      exact tcpAcknowledgeData_eq_self_iff socket segment.ackNum
    · rename_i hflag
      simp [hflag]
  have hbuffered : (tcpBufferPayload acknowledged segment.seqNum segment.payload).2 = socket ↔
      acknowledged = socket ∧ ¬ tcpTakesPayload socket segment := by
    constructor
    · intro hsame
      -- Buffering keeps `send_ack`, so it cannot undo an acknowledgement.
      have hsocket : acknowledged = socket := by
        by_contra hne
        have hsendAck := congrArg TcpSocket.sendAck hsame
        rw [tcpBufferPayload_sendAck] at hsendAck
        rw [hack, not_not] at hne
        rw [if_pos hne.1] at hacknowledged
        obtain ⟨hnew, -⟩ | ⟨-, hno⟩ := tcpAcknowledgeData_sendAck socket segment.ackNum
        · rw [hacknowledged, hsendAck] at hnew
          exact UInt32.lt_irrefl _ (hnew ▸ hne.2.1)
        · exact hno hne.2
      rw [hsocket] at hsame
      exact ⟨hsocket, (tcpBufferPayload_eq_self_iff socket segment).1 hsame⟩
    · rintro ⟨hsocket, htakes⟩
      rw [hsocket]
      exact (tcpBufferPayload_eq_self_iff socket segment).2 htakes
  have hacts : ¬ tcpActsOn socket segment ↔
      (tcpBufferPayload acknowledged segment.seqNum segment.payload).2 = socket ∧
        ¬ tcpTakesFin socket segment := by
    rw [hbuffered, hack, tcpActsOn, hstate]
    tauto
  rw [hacts, tcpReceiveEstablished, hacknowledged]
  cases hfin : segment.hasFlag tcpFlagFin with
  | true => exact tcpReceiveFin_socket_eq_iff hfin (by rw [hstate]; decide)
  | false =>
      have hno := tcpTakesFin_flag socket hfin
      simp only [Bool.false_eq_true, if_false, hno, not_false_eq_true, and_true]
      split
      · rfl
      · split
        all_goals rfl

theorem tcpReceiveFinWait1_socket_eq_iff {socket : TcpSocket} {segment : TcpSegment}
    (response : TcpSegment) (hstate : socket.state = .finWait1) :
    (tcpReceiveFinWait1 socket segment response).socket = socket ↔
      ¬ tcpActsOn socket segment := by
  have hbuffered := tcpBufferPayload_eq_self_iff socket segment
  rw [tcpReceiveFinWait1, tcpActsOn, hstate]
  cases hfin : segment.hasFlag tcpFlagFin with
  | true =>
      have hnext : (if (segment.hasFlag tcpFlagAck && segment.ackNum == socket.sendSeq) = true then
          TcpState.timeWait else .closing) ≠ socket.state := by
        rw [hstate]
        split
        all_goals decide
      simp only [if_true]
      rw [tcpReceiveFin_socket_eq_iff hfin hnext, hbuffered]
      simp
  | false =>
      have hno := tcpTakesFin_flag socket hfin
      simp only [Bool.false_eq_true, if_false, hno, false_or, true_and, not_or, ← hbuffered,
        tcpAcksFin]
      split
      · rename_i hacked
        rw [Bool.and_eq_true, beq_iff_eq] at hacked
        refine iff_of_false ?_ (fun h => h.2 hacked)
        intro hsame
        have hbad := congrArg TcpSocket.state hsame
        rw [hstate] at hbad
        cases hbad
      · rename_i hacked
        rw [Bool.and_eq_true, beq_iff_eq] at hacked
        simp only [hacked, not_false_eq_true, and_true]
        split
        all_goals rfl

theorem tcpReceiveFinWait2_socket_eq_iff {socket : TcpSocket} {segment : TcpSegment}
    (response : TcpSegment) (hstate : socket.state = .finWait2) :
    (tcpReceiveFinWait2 socket segment response).socket = socket ↔
      ¬ tcpActsOn socket segment := by
  have hbuffered := tcpBufferPayload_eq_self_iff socket segment
  rw [tcpReceiveFinWait2, tcpActsOn, hstate]
  cases hfin : segment.hasFlag tcpFlagFin with
  | true =>
      simp only [if_true]
      rw [tcpReceiveFin_socket_eq_iff hfin (by rw [hstate]; decide), hbuffered, not_or]
  | false =>
      have hno := tcpTakesFin_flag socket hfin
      simp only [Bool.false_eq_true, if_false, hno, or_false, ← hbuffered]
      split
      all_goals rfl

theorem tcpAcksFin_iff (socket : TcpSocket) (segment : TcpSegment) :
    tcpAcksFin socket segment ↔
      (segment.hasFlag tcpFlagAck && segment.ackNum == socket.sendSeq) = true := by
  rw [Bool.and_eq_true, beq_iff_eq, tcpAcksFin]

theorem tcpReceiveClosing_socket_eq_iff {socket : TcpSocket} {segment : TcpSegment}
    (response : TcpSegment) (hstate : socket.state = .closing) :
    (tcpReceiveClosing socket segment response).socket = socket ↔
      ¬ tcpActsOn socket segment := by
  rw [tcpReceiveClosing, tcpActsOn, hstate, tcpAcksFin_iff]
  split
  · rename_i hacked
    refine iff_of_false ?_ (not_not.2 hacked)
    intro hsame
    have hbad := congrArg TcpSocket.state hsame
    rw [hstate] at hbad
    cases hbad
  · rename_i hacked
    exact iff_of_true rfl hacked

/-- In LAST_ACK the socket is freed when the segment acknowledges the FIN. -/
theorem tcpReceiveLastAck_socket {socket : TcpSocket} {segment : TcpSegment}
    (response : TcpSegment) (hstate : socket.state = .lastAck) :
    (tcpReceiveLastAck socket segment response).socket = tcpSocketFree ∧
        tcpActsOn socket segment ∨
      (tcpReceiveLastAck socket segment response).socket = socket ∧
        ¬ tcpActsOn socket segment := by
  rw [tcpReceiveLastAck, tcpActsOn, hstate, tcpAcksFin_iff]
  split
  · rename_i hacked
    exact Or.inl ⟨rfl, hacked⟩
  · rename_i hacked
    exact Or.inr ⟨rfl, hacked⟩

/-! ## No state but LAST_ACK closes -/

theorem tcpReceiveFin_state_ne_closed {socket : TcpSocket} {segment : TcpSegment} {next : TcpState}
    (hopen : socket.state ≠ .closed) (hnext : next ≠ .closed) :
    (tcpReceiveFin socket segment next).socket.state ≠ .closed := by
  rw [tcpReceiveFin]
  split
  · exact hopen
  · exact hnext

theorem tcpReceiveEstablished_open {socket : TcpSocket} {segment : TcpSegment}
    (response : TcpSegment) (hstate : socket.state = .established) :
    (tcpReceiveEstablished socket segment response).socket.state ≠ .closed := by
  have hopen : (tcpBufferPayload
      (if segment.hasFlag tcpFlagAck then tcpAcknowledgeData socket segment.ackNum else socket)
      segment.seqNum segment.payload).2.state ≠ .closed := by
    obtain ⟨_, _, hframe⟩ := tcpAcknowledgeData_frame socket segment.ackNum
    rw [tcpBufferPayload_state, hframe]
    split
    all_goals
      rw [hstate]
      decide
  rw [tcpReceiveEstablished]
  split
  · exact tcpReceiveFin_state_ne_closed hopen (by decide)
  · split
    · exact hopen
    · rw [apply_ite TcpReceive.socket, tcpAbsorb, tcpIgnore, ite_self]
      exact hopen

theorem tcpReceiveFinWait1_open {socket : TcpSocket} {segment : TcpSegment}
    (response : TcpSegment) (hstate : socket.state = .finWait1) :
    (tcpReceiveFinWait1 socket segment response).socket.state ≠ .closed := by
  have hopen : (tcpBufferPayload socket segment.seqNum segment.payload).2.state ≠ .closed := by
    rw [tcpBufferPayload_state, hstate]
    decide
  rw [tcpReceiveFinWait1]
  split
  · refine tcpReceiveFin_state_ne_closed hopen ?_
    split
    all_goals decide
  · dsimp only
    split
    · intro hclosed
      cases hclosed
    · split
      all_goals exact hopen

theorem tcpReceiveFinWait2_open {socket : TcpSocket} {segment : TcpSegment}
    (response : TcpSegment) (hstate : socket.state = .finWait2) :
    (tcpReceiveFinWait2 socket segment response).socket.state ≠ .closed := by
  have hopen : (tcpBufferPayload socket segment.seqNum segment.payload).2.state ≠ .closed := by
    rw [tcpBufferPayload_state, hstate]
    decide
  rw [tcpReceiveFinWait2]
  split
  · exact tcpReceiveFin_state_ne_closed hopen (by decide)
  · split
    all_goals exact hopen

theorem tcpReceiveClosing_open {socket : TcpSocket} {segment : TcpSegment}
    (response : TcpSegment) (hstate : socket.state = .closing) :
    (tcpReceiveClosing socket segment response).socket.state ≠ .closed := by
  rw [tcpReceiveClosing]
  split
  · intro hclosed
    cases hclosed
  · rw [tcpIgnore, hstate]
    decide

/-! ## When a reset is obeyed -/

/-- Where the socket stays open and changes exactly on the segments it acts on, a reset is obeyed
when it is neither acceptable nor acted on. -/
theorem resetObeyed_of_open {socket after : TcpSocket} {segment : TcpSegment}
    (hlast : socket.state ≠ .lastAck) (hopen : after.state ≠ .closed)
    (hsame : after = socket ↔ ¬ tcpActsOn socket segment) :
    ResetObeyed socket segment after ↔ ResetHarmless socket segment := by
  rw [ResetHarmless, if_neg hlast, ← hsame]
  constructor
  · rintro ⟨hcloses, hignores⟩
    have hno : ¬ ResetAcceptable socket segment := fun h => hopen (hcloses h).1
    exact ⟨hno, hignores hno⟩
  · rintro ⟨hno, hkept⟩
    exact ⟨fun h => absurd h hno, fun _ => hkept⟩

theorem resetObeyed_of_ignored {socket after : TcpSocket} {segment : TcpSegment}
    (hlast : socket.state ≠ .lastAck) (hopen : socket.state ≠ .closed)
    (hacts : ¬ tcpActsOn socket segment) (hsame : after = socket) :
    ResetObeyed socket segment after ↔ ResetHarmless socket segment := by
  refine resetObeyed_of_open hlast ?_ (iff_of_true hsame hacts)
  rw [hsame]
  exact hopen

theorem resetObeyed_lastAck {socket : TcpSocket} {segment : TcpSegment} (response : TcpSegment)
    (hstate : socket.state = .lastAck) :
    ResetObeyed socket segment (tcpReceiveLastAck socket segment response).socket ↔
      ResetHarmless socket segment := by
  rw [ResetHarmless, if_pos hstate]
  obtain ⟨hafter, hacts⟩ | ⟨hafter, hacts⟩ := tcpReceiveLastAck_socket response hstate
  · -- The slot is freed: right for an acceptable segment only.
    rw [hafter]
    constructor
    · rintro ⟨-, hignores⟩
      refine iff_of_true ?_ hacts
      by_contra hno
      have hbad := congrArg TcpSocket.state (hignores hno)
      rw [hstate] at hbad
      cases hbad
    · intro hiff
      exact ⟨fun _ => ⟨rfl, List.nil_prefix⟩, fun hno => absurd (hiff.2 hacts) hno⟩
  · rw [hafter]
    constructor
    · rintro ⟨hcloses, -⟩
      refine iff_of_false ?_ hacts
      intro haccepted
      have hbad := (hcloses haccepted).1
      rw [hstate] at hbad
      cases hbad
    · intro hiff
      exact ⟨fun haccepted => absurd (hiff.1 haccepted) hacts, fun _ => rfl⟩

/-- A valid RST closes the connection, or is ignored when it is not acceptable, exactly on the
segments that do neither harm. -/
theorem tcpSocketReceiveSegment_reset_iff {socket : TcpSocket} {segment : TcpSegment}
    {srcIp dstIp : IpAddress} (response : TcpSegment) (hstate : socket.state.resettable = true)
    (hrst : segment.hasFlag tcpFlagRst = true)
    (hvalid : tcpValidateChecksum segment srcIp dstIp = true) :
    ResetObeyed socket segment
        (tcpSocketReceiveSegment socket segment srcIp dstIp response).socket ↔
      ResetHarmless socket segment := by
  rw [tcpSocketReceiveSegment, if_pos hvalid, tcpReceiveByState]
  cases hcase : socket.state with
  | closed =>
      rw [hcase] at hstate
      cases hstate
  | listen =>
      rw [hcase] at hstate
      cases hstate
  | timeWait =>
      rw [hcase] at hstate
      cases hstate
  -- In these three a segment with RST is refused, or every segment is ignored.
  | synSent =>
      refine resetObeyed_of_ignored ?_ ?_ ?_ (tcpReceiveSynSent_reset response hrst)
      all_goals simp [tcpActsOn, hcase]
  | synReceived =>
      refine resetObeyed_of_ignored ?_ ?_ ?_ (tcpReceiveSynReceived_reset response hrst)
      all_goals simp [tcpActsOn, hcase]
  | closeWait =>
      refine resetObeyed_of_ignored ?_ ?_ ?_ rfl
      all_goals simp [tcpActsOn, hcase]
  -- From here on the segment is taken for an acknowledgement or for data.
  | established =>
      exact resetObeyed_of_open (by simp [hcase]) (tcpReceiveEstablished_open response hcase)
        (tcpReceiveEstablished_socket_eq_iff response hcase)
  | finWait1 =>
      exact resetObeyed_of_open (by simp [hcase]) (tcpReceiveFinWait1_open response hcase)
        (tcpReceiveFinWait1_socket_eq_iff response hcase)
  | finWait2 =>
      exact resetObeyed_of_open (by simp [hcase]) (tcpReceiveFinWait2_open response hcase)
        (tcpReceiveFinWait2_socket_eq_iff response hcase)
  | closing =>
      exact resetObeyed_of_open (by simp [hcase]) (tcpReceiveClosing_open response hcase)
        (tcpReceiveClosing_socket_eq_iff response hcase)
  | lastAck => exact resetObeyed_lastAck response hcase

/-- The RST a peer sends to `crossingSocket`, at the number `seqNum`. -/
def crossingReset (seqNum : UInt32) : TcpSegment :=
  tcpStoreChecksum
    { tcpInit with srcPort := 80, dstPort := 2080, seqNum := seqNum, flags := tcpFlagRst }
    tcpHeaderSize ⟨10, 0, 0, 2, 0⟩ ⟨10, 0, 0, 1, 0⟩

/-- The RST at `recv_seq` leaves the connection established. -/
theorem crossingReset_ignored :
    crossingSocket.state.resettable = true ∧
      (crossingReset 0xFFFFFFF0).hasFlag tcpFlagRst = true ∧
      tcpValidateChecksum (crossingReset 0xFFFFFFF0) ⟨10, 0, 0, 2, 0⟩ ⟨10, 0, 0, 1, 0⟩ = true ∧
      ¬ ResetObeyed crossingSocket (crossingReset 0xFFFFFFF0)
        (tcpSocketReceiveSegment crossingSocket (crossingReset 0xFFFFFFF0) ⟨10, 0, 0, 2, 0⟩
          ⟨10, 0, 0, 1, 0⟩ tcpInit).socket := by
  refine ⟨by decide, by decide +kernel, by decide +kernel, ?_⟩
  intro hobeyed
  have hclosed := (hobeyed.1 (by decide +kernel)).1
  revert hclosed
  decide +kernel

/-- One place past `recv_seq` the RST is not acceptable, and nothing changes. -/
theorem crossingReset_notAcceptable :
    ResetObeyed crossingSocket (crossingReset 0xFFFFFFF1)
      (tcpSocketReceiveSegment crossingSocket (crossingReset 0xFFFFFFF1) ⟨10, 0, 0, 2, 0⟩
        ⟨10, 0, 0, 1, 0⟩ tcpInit).socket := by
  refine (tcpSocketReceiveSegment_reset_iff tcpInit (by decide) (by decide +kernel)
    (by decide +kernel)).2 ?_
  refine ⟨by decide +kernel, ?_⟩
  rintro (⟨hack, -⟩ | ⟨hpayload, -⟩ | ⟨hfin, -⟩)
  · revert hack
    decide +kernel
  · exact hpayload (by decide +kernel)
  · revert hfin
    decide +kernel

end MagiStack
