import MagiStack.Layer4.TcpConnection

/-!
# TcpInvariant — what holds of both ends and all segments in flight

Three facts carry the connection.  `SenderOk` ties `send_seq` to the bytes an end has sent.
`ReceiverOk` ties `recv_seq`, the receive buffer and the received FIN to what the peer has sent.
`SegmentOk` says that a segment ever sent carries a slice of its sender's stream, a FIN at the end of
it, and an acknowledgement of what its sender had received.  The histories only grow (`Later`), so a
step at one end leaves the facts about the other end and about old segments true.
-/

namespace MagiStack

open Reassembly

/-! ## The facts -/

/-- `send_seq` in each state of an end whose initial sequence number is `iss`. -/
def SendSeqOk (e : TcpEnd) (iss : UInt32) : Prop :=
  match e.socket.state with
  | .closed | .listen => False
  | .synSent | .synReceived => e.socket.sendSeq = iss ∧ e.sent = [] ∧ e.finSent = false
  | .established | .closeWait =>
      e.socket.sendSeq = streamSeq iss e.sent.length ∧ e.finSent = false
  | .finWait1 | .finWait2 | .closing | .timeWait | .lastAck =>
      e.socket.sendSeq = streamSeq iss (e.sent.length + 1) ∧ e.finSent = true

structure SenderOk (e : TcpEnd) : Prop where
  absent : e.iss = none → e = TcpEnd.absent
  iss_le : ∀ iss, e.iss = some iss → iss.toNat ≤ 67535
  sendSeq : ∀ iss, e.iss = some iss → e.socket.inUse = true → SendSeqOk e iss
  free : e.socket.inUse = false → e.socket = tcpSocketFree

/-- The receive side of a socket against the stream of its peer: at the end of it when the FIN is
consumed, else at some place of it. -/
def StreamOk (peer : TcpEnd) (irs : UInt32) (delivered : List UInt8) (socket : TcpSocket) : Prop :=
  if socket.state.finConsumed then
    peer.finSent = true ∧ delivered ++ socket.recvBuffer.data = peer.sent ∧
      socket.recvSeq = streamSeq irs (peer.sent.length + 1)
  else
    ∃ n, StreamAt peer.sent irs socket n ∧
      delivered ++ socket.recvBuffer.data = peer.sent.take n

theorem streamOk_finished {peer : TcpEnd} {irs : UInt32} {delivered : List UInt8}
    {socket : TcpSocket} (h : socket.state.finConsumed = true) :
    StreamOk peer irs delivered socket ↔
      peer.finSent = true ∧ delivered ++ socket.recvBuffer.data = peer.sent ∧
        socket.recvSeq = streamSeq irs (peer.sent.length + 1) := by
  rw [StreamOk, if_pos h]

theorem streamOk_open {peer : TcpEnd} {irs : UInt32} {delivered : List UInt8}
    {socket : TcpSocket} (h : socket.state.finConsumed = false) :
    StreamOk peer irs delivered socket ↔
      ∃ n, StreamAt peer.sent irs socket n ∧
        delivered ++ socket.recvBuffer.data = peer.sent.take n := by
  rw [StreamOk, if_neg (by simp [h])]

/-- Before the peer's number is known nothing has been received. -/
structure Unheard (e : TcpEnd) : Prop where
  entered : e.entered = []
  delivered : e.delivered = []
  data : e.socket.recvBuffer.data = []
  pendingValid : ∀ i, e.socket.recvBuffer.pendingValid i = false
  state : e.socket.inUse = true → e.socket.state = .synSent ∧ e.freedFrom = none
  freedFrom : e.freedFrom ≠ some .lastAck

/-- The receive side of an end that knows its peer's initial sequence number. -/
structure Hearing (e peer : TcpEnd) (irs : UInt32) : Prop where
  peer_iss : peer.iss = some irs
  stream : e.socket.inUse = true →
    e.socket.state ≠ .synSent ∧ e.freedFrom = none ∧
      e.entered = e.delivered ++ e.socket.recvBuffer.data ∧
      StreamOk peer irs e.delivered e.socket
  freed : e.socket.inUse = false →
    e.delivered <+: e.entered ∧ e.entered <+: peer.sent ∧
      (e.freedFrom = some .lastAck → peer.finSent = true ∧ e.entered = peer.sent)

structure ReceiverOk (e peer : TcpEnd) : Prop where
  unheard : e.irs = none → Unheard e
  hearing : ∀ irs, e.irs = some irs → Hearing e peer irs

/-- A segment in flight, against the end that sent it and the other end. -/
structure SegmentOk (e peer : TcpEnd) (iss : UInt32) (segment : TcpSegment) : Prop where
  iss_eq : e.iss = some iss
  syn : segment.hasFlag tcpFlagSyn = true → segment.seqNum = iss
  slice : segment.payload ≠ [] → IsSlice e.sent iss segment.seqNum segment.payload
  fin : segment.hasFlag tcpFlagFin = true →
    segment.payload = [] ∧ e.finSent = true ∧ segment.seqNum = streamSeq iss e.sent.length
  ack : segment.hasFlag tcpFlagAck = true →
    ∃ r n, peer.iss = some r ∧ n ≤ e.recvCount ∧ segment.ackNum = streamSeq r n

/-- `e'` is a later version of the end `e`. -/
structure Later (e e' : TcpEnd) : Prop where
  iss : ∀ iss, e.iss = some iss → e'.iss = some iss
  sent : e.sent <+: e'.sent
  fin : e.finSent = true → e'.finSent = true ∧ e'.sent = e.sent
  recvCount : e.recvCount ≤ e'.recvCount

/-! ## Later versions keep the facts about the others -/

theorem StreamAt.extend {stream stream' : List UInt8} {iss : UInt32} {socket : TcpSocket} {n : Nat}
    (h : StreamAt stream iss socket n) (hstream : stream <+: stream') :
    StreamAt stream' iss socket n :=
  ⟨h.recvSeq_eq, h.le_length.trans hstream.length_le, h.agrees.extend hstream⟩

theorem take_of_prefix {α : Type*} {l l' : List α} (h : l <+: l') {n : Nat} (hn : n ≤ l.length) :
    l'.take n = l.take n := by
  obtain ⟨rest, rfl⟩ := h
  rw [List.take_append_of_le_length hn]

theorem StreamOk.later {peer peer' : TcpEnd} {irs : UInt32} {delivered : List UInt8}
    {socket : TcpSocket} (h : StreamOk peer irs delivered socket) (hlater : Later peer peer') :
    StreamOk peer' irs delivered socket := by
  cases hstate : socket.state.finConsumed with
  | true =>
      rw [streamOk_finished hstate] at h ⊢
      obtain ⟨hfin, hdata, hseq⟩ := h
      obtain ⟨hfin', hsent⟩ := hlater.fin hfin
      exact ⟨hfin', by rw [hsent, hdata], by rw [hsent, hseq]⟩
  | false =>
      rw [streamOk_open hstate] at h ⊢
      obtain ⟨n, hat, hdata⟩ := h
      exact ⟨n, hat.extend hlater.sent, by rw [hdata, take_of_prefix hlater.sent hat.le_length]⟩

theorem ReceiverOk.later {e peer peer' : TcpEnd} (h : ReceiverOk e peer)
    (hlater : Later peer peer') : ReceiverOk e peer' := by
  refine ⟨h.unheard, ?_⟩
  intro irs hirs
  have hold := h.hearing irs hirs
  refine ⟨hlater.iss irs hold.peer_iss, ?_, ?_⟩
  · intro huse
    obtain ⟨hstate, hfreed, hentered, hstream⟩ := hold.stream huse
    exact ⟨hstate, hfreed, hentered, hstream.later hlater⟩
  · intro huse
    obtain ⟨hdelivered, hentered, hlast⟩ := hold.freed huse
    refine ⟨hdelivered, hentered.trans hlater.sent, ?_⟩
    intro hfreed
    obtain ⟨hfin, hall⟩ := hlast hfreed
    obtain ⟨hfin', hsent⟩ := hlater.fin hfin
    exact ⟨hfin', by rw [hsent, hall]⟩

theorem SegmentOk.later {e e' peer : TcpEnd} {iss : UInt32} {segment : TcpSegment}
    (h : SegmentOk e peer iss segment) (hlater : Later e e') : SegmentOk e' peer iss segment := by
  refine ⟨hlater.iss iss h.iss_eq, h.syn, ?_, ?_, ?_⟩
  · intro hne
    obtain ⟨offset, hseq, hpre⟩ := h.slice hne
    exact ⟨offset, hseq, hpre.trans (hlater.sent.drop offset)⟩
  · intro hfin
    obtain ⟨hpayload, hsent, hseq⟩ := h.fin hfin
    obtain ⟨hsent', heq⟩ := hlater.fin hsent
    exact ⟨hpayload, hsent', by rw [heq, hseq]⟩
  · intro hack
    obtain ⟨r, n, hpeer, hn, hnum⟩ := h.ack hack
    exact ⟨r, n, hpeer, hn.trans hlater.recvCount, hnum⟩

theorem SegmentOk.later_peer {e peer peer' : TcpEnd} {iss : UInt32} {segment : TcpSegment}
    (h : SegmentOk e peer iss segment) (hlater : Later peer peer') :
    SegmentOk e peer' iss segment := by
  refine ⟨h.iss_eq, h.syn, h.slice, h.fin, ?_⟩
  intro hack
  obtain ⟨r, n, hpeer, hn, hnum⟩ := h.ack hack
  exact ⟨r, n, hlater.iss r hpeer, hn, hnum⟩

/-! ## Consequences of the facts about one end -/

theorem ReceiverOk.entered_prefix {e peer : TcpEnd} (h : ReceiverOk e peer) :
    e.entered <+: peer.sent := by
  cases hirs : e.irs with
  | none =>
      rw [(h.unheard hirs).entered]
      exact List.nil_prefix
  | some irs =>
      have hear := h.hearing irs hirs
      cases huse : e.socket.inUse with
      | false => exact (hear.freed huse).2.1
      | true =>
          obtain ⟨-, -, hentered, hstream⟩ := hear.stream huse
          rw [hentered]
          cases hstate : e.socket.state.finConsumed with
          | true =>
              rw [streamOk_finished hstate] at hstream
              rw [hstream.2.1]
          | false =>
              rw [streamOk_open hstate] at hstream
              obtain ⟨n, -, hdata⟩ := hstream
              rw [hdata]
              exact List.take_prefix n peer.sent

/-- Once the FIN is consumed, everything the peer sent has entered. -/
theorem ReceiverOk.finConsumed {e peer : TcpEnd} (hs : SenderOk e) (h : ReceiverOk e peer)
    (hfin : e.finConsumed = true) : peer.finSent = true ∧ e.entered = peer.sent := by
  rw [TcpEnd.finConsumed, Bool.or_eq_true, beq_iff_eq] at hfin
  cases huse : e.socket.inUse with
  | false =>
      have hfreed : e.freedFrom = some .lastAck := by
        rw [hs.free huse] at hfin
        simpa [tcpSocketFree, TcpState.finConsumed] using hfin
      cases hirs : e.irs with
      | none => exact absurd hfreed (h.unheard hirs).freedFrom
      | some irs => exact ((h.hearing irs hirs).freed huse).2.2 hfreed
  | true =>
      cases hirs : e.irs with
      | none =>
          obtain ⟨hstate, hfreed⟩ := (h.unheard hirs).state huse
          rw [hstate, hfreed] at hfin
          simp [TcpState.finConsumed] at hfin
      | some irs =>
          obtain ⟨-, hfreed, hentered, hstream⟩ := (h.hearing irs hirs).stream huse
          rw [hfreed] at hfin
          have hstate : e.socket.state.finConsumed = true := by simpa using hfin
          rw [streamOk_finished hstate] at hstream
          exact ⟨hstream.1, hentered.trans hstream.2.1⟩

theorem ReceiverOk.recvCount_le {e peer : TcpEnd} (h : ReceiverOk e peer) :
    e.recvCount ≤ peer.sent.length + 1 := by
  have hle := h.entered_prefix.length_le
  rw [TcpEnd.recvCount]
  split
  all_goals omega

/-- `recv_seq` of a socket in use is the number after everything it has received. -/
theorem Hearing.recvSeq_eq {e peer : TcpEnd} {irs : UInt32} (h : Hearing e peer irs)
    (huse : e.socket.inUse = true) : e.socket.recvSeq = streamSeq irs e.recvCount := by
  obtain ⟨-, hfreed, hentered, hstream⟩ := h.stream huse
  rw [TcpEnd.recvCount, TcpEnd.finConsumed, hfreed, hentered]
  cases hstate : e.socket.state.finConsumed with
  | true =>
      rw [streamOk_finished hstate] at hstream
      obtain ⟨-, hdata, hseq⟩ := hstream
      simp [hdata, hseq]
  | false =>
      rw [streamOk_open hstate] at hstream
      obtain ⟨n, hat, hdata⟩ := hstream
      have hle := hat.le_length
      simp [hdata, hat.recvSeq_eq, Nat.min_eq_left hle]

end MagiStack
