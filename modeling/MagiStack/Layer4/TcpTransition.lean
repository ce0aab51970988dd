import MagiStack.Layer4.TcpReset

/-!
# TcpTransition — what one segment may do to a socket

`tcp_socket_receive_segment` judges a segment while it changes the socket.  For every state: a segment that
is refused has changed nothing, and one that is accepted moves the socket along the state diagram of
RFC 793 and `recv_seq` forward.  The diagram has no edge from FIN_WAIT_1 to TIME_WAIT; the code takes two
edges at once when a segment brings both the peer's FIN and the acknowledgement of the own one.
-/

namespace MagiStack

/-- The edges of the state diagram of RFC 793. -/
def TcpState.edge : TcpState → TcpState → Bool
  | .closed, .listen | .closed, .synSent => true
  | .listen, .synReceived | .listen, .synSent | .listen, .closed => true
  | .synSent, .synReceived | .synSent, .established | .synSent, .closed => true
  | .synReceived, .established | .synReceived, .finWait1 => true
  | .established, .finWait1 | .established, .closeWait => true
  | .finWait1, .finWait2 | .finWait1, .closing => true
  | .finWait2, .timeWait | .closing, .timeWait => true
  | .closeWait, .lastAck | .lastAck, .closed | .timeWait, .closed => true
  | _, _ => false

/-- The states in which both sides know each other's numbers. -/
def TcpState.synchronized : TcpState → Bool
  | .closed | .listen | .synSent | .synReceived => false
  | _ => true

/-- A sequence number `count` or fewer bytes further on. -/
def SeqForward (count : Nat) (before after : UInt32) : Prop :=
  ∃ n ≤ count, after = before + UInt32.ofNat n

theorem SeqForward.refl (count : Nat) (seq : UInt32) : SeqForward count seq seq :=
  ⟨0, Nat.zero_le _, (UInt32.add_zero seq).symm⟩

/-- What a segment may do to a socket and to the response. -/
structure TcpLawful (socket : TcpSocket) (segment response : TcpSegment) (outcome : TcpReceive) :
    Prop where
  refused : outcome.accepted = false → outcome.socket = socket ∧ outcome.response = response
  edge : outcome.accepted = true → outcome.socket.state = socket.state ∨
    socket.state.edge outcome.socket.state = true ∨
      socket.state = .finWait1 ∧ outcome.socket.state = .timeWait ∧
        segment.hasFlag tcpFlagFin = true ∧ tcpAcksFin socket segment
  forward : socket.state.synchronized = true → outcome.socket.state.synchronized = true →
    SeqForward (tcpSocketBufferSize + 1) socket.recvSeq outcome.socket.recvSeq
  timeWait : socket.state = .timeWait → outcome.socket = socket

theorem tcpLawful_ignore (socket : TcpSocket) (segment response : TcpSegment) :
    TcpLawful socket segment response (tcpIgnore socket response) where
  refused := fun _ => ⟨rfl, rfl⟩
  edge := fun h => nomatch h
  forward := fun _ _ => .refl _ _
  timeWait := fun _ => rfl

/-- A socket that is accepted into the next state, and whose `recv_seq` moves forward where both states have
it. -/
theorem tcpLawful_accepted {socket : TcpSocket} {segment response : TcpSegment} {outcome : TcpReceive}
    (haccepted : outcome.accepted = true)
    (hedge : outcome.socket.state = socket.state ∨ socket.state.edge outcome.socket.state = true)
    (hforward : socket.state.synchronized = true → outcome.socket.state.synchronized = true →
      SeqForward (tcpSocketBufferSize + 1) socket.recvSeq outcome.socket.recvSeq)
    (hopen : socket.state ≠ .timeWait) : TcpLawful socket segment response outcome where
  refused := fun hrefused => nomatch haccepted.symm.trans hrefused
  edge := fun _ => hedge.imp_right Or.inl
  forward := hforward
  timeWait := fun htimeWait => absurd htimeWait hopen

/-! ## Payloads and FINs -/

theorem tcpBufferPayload_recvSeq (socket : TcpSocket) (seqNum : UInt32) (payload : List UInt8) :
    SeqForward tcpSocketBufferSize socket.recvSeq (tcpBufferPayload socket seqNum payload).2.recvSeq := by
  rw [tcpBufferPayload]
  split
  · exact .refl _ _
  · split
    · exact .refl _ _
    · dsimp only
      split
      · exact .refl _ _
      · split
        · exact .refl _ _
        · exact ⟨_, TcpReceiveBuffer.ready_le _, rfl⟩

/-- One more number, for a FIN, may follow. -/
theorem SeqForward.succ {count : Nat} {before after : UInt32} (h : SeqForward count before after) :
    SeqForward (count + 1) before after ∧ SeqForward (count + 1) before (after + 1) := by
  obtain ⟨n, hn, rfl⟩ := h
  refine ⟨⟨n, by omega, rfl⟩, n + 1, by omega, ?_⟩
  rw [UInt32.ofNat_add, UInt32.add_assoc]
  rfl

/-- The FIN branch of a data state: the FIN is out of order, or it takes one number and moves the socket to
`next`. -/
theorem tcpReceiveFin_cases (socket : TcpSocket) (segment : TcpSegment) (next : TcpState) :
    (tcpReceiveFin socket segment next).accepted = true ∧
      ((tcpReceiveFin socket segment next).socket = socket ∨
        (tcpReceiveFin socket segment next).socket =
          { socket with recvSeq := socket.recvSeq + 1, state := next }) := by
  rw [tcpReceiveFin]
  split
  · exact ⟨rfl, Or.inl rfl⟩
  · exact ⟨rfl, Or.inr rfl⟩

/-- The FIN branch behind a payload. -/
theorem tcpLawful_fin {socket buffered : TcpSocket} {segment response : TcpSegment} {next : TcpState}
    (hstate : buffered.state = socket.state)
    (hforward : SeqForward tcpSocketBufferSize socket.recvSeq buffered.recvSeq)
    (hopen : socket.state ≠ .timeWait)
    (hedge : socket.state.edge next = true ∨
      socket.state = .finWait1 ∧ next = .timeWait ∧ segment.hasFlag tcpFlagFin = true ∧
        tcpAcksFin socket segment) :
    TcpLawful socket segment response (tcpReceiveFin buffered segment next) := by
  obtain ⟨haccepted, hsame | hmoved⟩ := tcpReceiveFin_cases buffered segment next
  · refine tcpLawful_accepted haccepted (Or.inl ?_) (fun _ _ => ?_) hopen
    · rw [hsame]
      exact hstate
    · rw [hsame]
      exact hforward.succ.1
  · refine ⟨fun hrefused => ?_, fun _ => ?_, fun _ _ => ?_, fun htimeWait => absurd htimeWait hopen⟩
    · cases haccepted.symm.trans hrefused
    · rw [hmoved]
      exact Or.inr hedge
    · rw [hmoved]
      exact hforward.succ.2

/-! ## The states -/

theorem tcpLawful_synReceived {socket : TcpSocket} (hstate : socket.state = .synReceived)
    (segment response : TcpSegment) :
    TcpLawful socket segment response (tcpReceiveSynReceived socket segment response) := by
  rw [tcpReceiveSynReceived]
  split
  · dsimp only
    split
    · refine tcpLawful_accepted rfl (Or.inr ?_) (fun h => ?_) ?_
      · rw [hstate]
        rfl
      · rw [hstate] at h
        cases h
      · rw [hstate]
        decide
    · refine tcpLawful_accepted rfl (Or.inr ?_) (fun h => ?_) ?_
      · rw [tcpAnswer, tcpBufferPayload_state, hstate]
        rfl
      · rw [hstate] at h
        cases h
      · rw [hstate]
        decide
  · exact tcpLawful_ignore socket segment response

theorem tcpLawful_established {socket : TcpSocket} (hstate : socket.state = .established)
    (segment response : TcpSegment) :
    TcpLawful socket segment response (tcpReceiveEstablished socket segment response) := by
  have hopen : socket.state ≠ .timeWait := by
    rw [hstate]
    decide
  -- Acknowledged data leave the state and `recv_seq` alone.
  have hack : (if segment.hasFlag tcpFlagAck then tcpAcknowledgeData socket segment.ackNum
        else socket).state = socket.state ∧
      (if segment.hasFlag tcpFlagAck then tcpAcknowledgeData socket segment.ackNum
        else socket).recvSeq = socket.recvSeq := by
    split
    · obtain ⟨_, _, h⟩ := tcpAcknowledgeData_frame socket segment.ackNum
      rw [h]
      exact ⟨rfl, rfl⟩
    · exact ⟨rfl, rfl⟩
  have hnoAck : segment.hasFlag tcpFlagAck = false →
      (if segment.hasFlag tcpFlagAck then tcpAcknowledgeData socket segment.ackNum
        else socket) = socket := fun h => if_neg (by rw [h]; exact Bool.false_ne_true)
  rw [tcpReceiveEstablished]
  generalize (if segment.hasFlag tcpFlagAck then tcpAcknowledgeData socket segment.ackNum
    else socket) = acknowledged at hack hnoAck ⊢
  have hbuffered : (tcpBufferPayload acknowledged segment.seqNum segment.payload).2.state =
      socket.state :=
    (tcpBufferPayload_state acknowledged segment.seqNum segment.payload).trans hack.1
  have hforward := tcpBufferPayload_recvSeq acknowledged segment.seqNum segment.payload
  rw [hack.2] at hforward
  split
  · refine tcpLawful_fin hbuffered hforward hopen (Or.inl ?_)
    rw [hstate]
    rfl
  · split
    · exact tcpLawful_accepted rfl (Or.inl hbuffered) (fun _ _ => hforward.succ.1) hopen
    · rename_i hpayload
      split
      · exact tcpLawful_accepted rfl (Or.inl hbuffered) (fun _ _ => hforward.succ.1) hopen
      · rename_i hflag
        -- Neither an acknowledgement nor a payload: nothing was done.
        have hempty : segment.payload = [] := by simpa using hpayload
        rw [hempty, hnoAck (Bool.eq_false_iff.mpr hflag)]
        exact tcpLawful_ignore socket segment response

theorem tcpLawful_finWait1 {socket : TcpSocket} (hstate : socket.state = .finWait1)
    (segment response : TcpSegment) :
    TcpLawful socket segment response (tcpReceiveFinWait1 socket segment response) := by
  have hopen : socket.state ≠ .timeWait := by
    rw [hstate]
    decide
  have hbuffered := tcpBufferPayload_state socket segment.seqNum segment.payload
  have hforward := tcpBufferPayload_recvSeq socket segment.seqNum segment.payload
  rw [tcpReceiveFinWait1]
  dsimp only
  split
  · rename_i hfin
    refine tcpLawful_fin hbuffered hforward hopen ?_
    split
    · rename_i hacked
      -- A FIN that acknowledges the own one: both edges at once.
      exact Or.inr ⟨hstate, rfl, hfin, (tcpAcksFin_iff socket segment).mpr hacked⟩
    · refine Or.inl ?_
      rw [hstate]
      rfl
  · split
    · refine tcpLawful_accepted rfl (Or.inr ?_) (fun _ _ => hforward.succ.1) hopen
      rw [hstate]
      rfl
    · split
      · exact tcpLawful_accepted rfl (Or.inl hbuffered) (fun _ _ => hforward.succ.1) hopen
      · rename_i hpayload
        have hempty : segment.payload = [] := by simpa using hpayload
        rw [hempty]
        exact tcpLawful_ignore socket segment response

theorem tcpLawful_finWait2 {socket : TcpSocket} (hstate : socket.state = .finWait2)
    (segment response : TcpSegment) :
    TcpLawful socket segment response (tcpReceiveFinWait2 socket segment response) := by
  have hopen : socket.state ≠ .timeWait := by
    rw [hstate]
    decide
  have hbuffered := tcpBufferPayload_state socket segment.seqNum segment.payload
  have hforward := tcpBufferPayload_recvSeq socket segment.seqNum segment.payload
  rw [tcpReceiveFinWait2]
  split
  · refine tcpLawful_fin hbuffered hforward hopen (Or.inl ?_)
    rw [hstate]
    rfl
  · split
    · exact tcpLawful_accepted rfl (Or.inl hbuffered) (fun _ _ => hforward.succ.1) hopen
    · rename_i hpayload
      have hempty : segment.payload = [] := by simpa using hpayload
      rw [hempty]
      exact tcpLawful_ignore socket segment response

/-- Every segment, valid or not, to every socket. -/
theorem tcpSocketReceiveSegment_lawful (socket : TcpSocket) (segment : TcpSegment)
    (srcIp dstIp : IpAddress) (response : TcpSegment) :
    TcpLawful socket segment response
      (tcpSocketReceiveSegment socket segment srcIp dstIp response) := by
  have hignore := tcpLawful_ignore socket segment response
  rw [tcpSocketReceiveSegment]
  split
  · rw [tcpReceiveByState]
    cases hstate : socket.state with
    | listen =>
        simp only [tcpReceiveListen]
        split
        · exact tcpLawful_accepted rfl (Or.inr (by rw [hstate]; rfl))
            (fun h => by rw [hstate] at h; cases h) (by rw [hstate]; decide)
        · exact hignore
    | synSent =>
        simp only [tcpReceiveSynSent]
        split
        · exact tcpLawful_accepted rfl (Or.inr (by rw [hstate]; rfl))
            (fun h => by rw [hstate] at h; cases h) (by rw [hstate]; decide)
        · exact hignore
    | synReceived => exact tcpLawful_synReceived hstate segment response
    | established => exact tcpLawful_established hstate segment response
    | finWait1 => exact tcpLawful_finWait1 hstate segment response
    | finWait2 => exact tcpLawful_finWait2 hstate segment response
    | closing =>
        simp only [tcpReceiveClosing]
        split
        · exact tcpLawful_accepted rfl (Or.inr (by rw [hstate]; rfl)) (fun _ _ => .refl _ _)
            (by rw [hstate]; decide)
        · exact hignore
    | lastAck =>
        simp only [tcpReceiveLastAck]
        split
        · exact tcpLawful_accepted rfl (Or.inr (by rw [hstate]; rfl)) (fun _ h => by cases h)
            (by rw [hstate]; decide)
        · exact hignore
    | timeWait =>
        exact ⟨fun h => (by cases h), fun _ => Or.inl rfl, fun _ _ => .refl _ _, fun _ => rfl⟩
    | closed => exact hignore
    | closeWait => exact hignore
  · exact hignore

end MagiStack
