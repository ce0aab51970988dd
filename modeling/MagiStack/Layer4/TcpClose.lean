import MagiStack.Layer4.TcpStream

/-!
# TcpClose — orderly close

A FIN is consumed only at the end of the peer's stream, and a socket leaves the states that wait for
the acknowledgement of its own FIN only on a number its peer reaches by consuming that FIN.
-/

namespace MagiStack

/-- The transitions that need the acknowledgement of the end's own FIN. -/
def ClosingEdge (before after : TcpEnd) : Prop :=
  (before.socket.state = .finWait1 ∧
      (after.socket.state = .finWait2 ∨ after.socket.state = .timeWait)) ∨
    (before.socket.state = .closing ∧ after.socket.state = .timeWait) ∨
      (before.socket.state = .lastAck ∧ before.socket.inUse = true ∧
        after.socket.inUse = false)

/-- The same on a socket and what a segment leaves of it. -/
def SocketClosingEdge (before after : TcpSocket) : Prop :=
  (before.state = .finWait1 ∧ (after.state = .finWait2 ∨ after.state = .timeWait)) ∨
    (before.state = .closing ∧ after.state = .timeWait) ∨
      (before.state = .lastAck ∧ before.inUse = true ∧ after.inUse = false)

/-- The FIN branch only stays in its state or goes to `next`. -/
theorem tcpReceiveFin_state (socket : TcpSocket) (segment : TcpSegment) (next : TcpState) :
    (tcpReceiveFin socket segment next).socket.state = socket.state ∨
      (tcpReceiveFin socket segment next).socket.state = next := by
  rw [tcpReceiveFin]
  split
  · exact Or.inl rfl
  · exact Or.inr rfl

/-- A closing edge is taken only on a segment that acknowledges `send_seq`. -/
theorem acknowledged_of_closingEdge {socket : TcpSocket} {segment : TcpSegment}
    {srcIp dstIp : IpAddress}
    (h : SocketClosingEdge socket
      (tcpReceiveByState socket segment srcIp dstIp tcpInit).socket) :
    segment.hasFlag tcpFlagAck = true ∧ segment.ackNum = socket.sendSeq := by
  obtain ⟨hstate, hafter⟩ | ⟨hstate, hafter⟩ | ⟨hstate, huse, hafter⟩ := h
  · rw [tcpReceiveByState, hstate] at hafter
    simp only [tcpReceiveFinWait1] at hafter
    -- Without the acknowledgement FIN_WAIT_1 stays or goes to CLOSING.
    by_cases hacked : (segment.hasFlag tcpFlagAck && segment.ackNum == socket.sendSeq) = true
    · simpa using hacked
    · rw [Bool.not_eq_true] at hacked
      simp only [hacked, Bool.false_eq_true, if_false] at hafter
      split at hafter
      · have hfin := tcpReceiveFin_state (tcpBufferPayload socket segment.seqNum segment.payload).2
          segment .closing
        rw [tcpBufferPayload_state, hstate] at hfin
        obtain hfin | hfin := hfin
        all_goals
          rw [hfin] at hafter
          simp at hafter
      · split at hafter
        all_goals
          simp only [tcpAbsorb, tcpIgnore, tcpBufferPayload_state, hstate] at hafter
          simp at hafter
  · rw [tcpReceiveByState, hstate] at hafter
    simp only [tcpReceiveClosing] at hafter
    split at hafter
    · rename_i hacked
      simpa using hacked
    · rw [tcpIgnore, hstate] at hafter
      cases hafter
  · rw [tcpReceiveByState, hstate] at hafter
    simp only [tcpReceiveLastAck] at hafter
    split at hafter
    · rename_i hacked
      simpa using hacked
    · rw [tcpIgnore, huse] at hafter
      cases hafter

/-- Only a peer that consumed the FIN acknowledges the number after it. -/
theorem finConsumed_of_acknowledged {e peer : TcpEnd} {iss : UInt32} {segment : TcpSegment}
    (hs : SenderOk e) (hr : ReceiverOk peer e) (huse : e.socket.inUse = true)
    (hbound : e.sent.length < 2 ^ 31)
    (hstate : e.socket.state = .finWait1 ∨ e.socket.state = .closing ∨
      e.socket.state = .lastAck)
    (hsegment : SegmentOk peer e iss segment) (hack : segment.hasFlag tcpFlagAck = true)
    (hnum : segment.ackNum = e.socket.sendSeq) : peer.finConsumed = true := by
  obtain ⟨own, hown, hle, hseq⟩ := hs.seqOk huse
  have hsend : e.socket.sendSeq = streamSeq own (e.sent.length + 1) := by
    obtain hcase | hcase | hcase := hstate
    all_goals
      simp only [SendSeqOk, hcase] at hseq
      exact hseq.1
  obtain ⟨r, n, hr', hn, heq⟩ := hsegment.ack hack
  have hsame : r = own := Option.some.inj (hr'.symm.trans hown)
  subst hsame
  have hcount := hr.recvCount_le
  have hlen := hr.entered_prefix.length_le
  have hplace : n = e.sent.length + 1 :=
    streamSeq_inj (by omega) (by omega) (heq.symm.trans (hnum.trans hsend))
  by_contra hnot
  rw [TcpEnd.recvCount, if_neg hnot] at hn
  omega

/-- A step that takes a closing edge is a delivery that takes it. -/
theorem TcpWorld.Ok.delivered_of_closingEdge {w : TcpWorld} (hok : w.Ok)
    (addresses : TcpAddresses) {action : TcpAction} {side : TcpSide}
    (h : ClosingEdge (w.ends side) ((w.step addresses action).ends side)) :
    ∃ segment ∈ w.net side.peer, (w.ends side).socket.inUse = true ∧
      ∃ srcIp dstIp, SocketClosingEdge (w.ends side).socket
        (tcpReceiveByState (w.ends side).socket segment srcIp dstIp tcpInit).socket := by
  have hnone : ¬ ClosingEdge (w.ends side) (w.ends side) := by
    rintro (⟨hstate, hafter⟩ | ⟨hstate, hafter⟩ | ⟨-, huse, hafter⟩)
    · rw [hstate] at hafter
      simp at hafter
    · rw [hstate] at hafter
      cases hafter
    · rw [huse] at hafter
      cases hafter
  -- An update of one end is a closing edge only at that end, and only through its socket.
  have hupdate : ∀ (side' : TcpSide) (e : TcpEnd) (out : List TcpSegment),
      ClosingEdge (w.ends side) ((w.update side' e out).ends side) →
        side = side' ∧ SocketClosingEdge (w.ends side).socket e.socket := by
    intro side' e out hedge
    obtain rfl | rfl := side'.eq_or_eq_peer side
    · rw [TcpWorld.update_ends_self] at hedge
      exact ⟨rfl, hedge⟩
    · rw [TcpWorld.update_ends_peer] at hedge
      exact absurd hedge hnone
  cases action with
  | send side' data =>
      simp only [TcpWorld.step] at h
      split at h
      · exact absurd h hnone
      · rename_i socket segment hsend
        obtain ⟨rfl, hedge⟩ := hupdate side' _ _ h
        obtain ⟨hstate, -⟩ := magiSendTcp_eq_some hsend
        simp [SocketClosingEdge, hstate] at hedge
  | recv side' maxLen =>
      obtain ⟨rfl, hedge⟩ := hupdate side' _ _ h
      obtain ⟨rest, hasData, hsocket, -⟩ := tcpSocketRecv_frame (w.ends side).socket maxLen
      simp only [TcpEnd.afterRecv, hsocket, TcpEnd.withSocket_socket] at hedge
      exact absurd hedge hnone
  | close side' =>
      obtain ⟨rfl, hedge⟩ := hupdate side' _ _ h
      simp only [TcpEnd.afterClose, TcpEnd.withSocket_socket] at hedge
      have hstate : (w.ends side).socket.state = .finWait1 ∨
          (w.ends side).socket.state = .closing ∨ (w.ends side).socket.state = .lastAck := by
        obtain ⟨hcase, -⟩ | ⟨hcase, -⟩ | ⟨hcase, -⟩ := hedge
        · exact Or.inl hcase
        · exact Or.inr (Or.inl hcase)
        · exact Or.inr (Or.inr hcase)
      have hsame : magiCloseTcp (w.ends side).socket = ((w.ends side).socket, none) := by
        obtain hcase | hcase | hcase := hstate
        all_goals simp only [magiCloseTcp, hcase]
      rw [hsame] at hedge
      exact absurd hedge hnone
  | deliver side' index =>
      simp only [TcpWorld.step] at h
      split at h
      · exact absurd h hnone
      · rename_i segment hsegment
        rw [TcpWorld.deliver] at h
        split at h
        · rename_i hvalid
          split at h
          · exact absurd h hnone
          · rename_i e hreceiver
            obtain ⟨rfl, hedge⟩ := hupdate side' _ _ h
            simp only [tcpSocketReceiveSegment, hvalid, if_true] at hedge
            rw [TcpWorld.receiver] at hreceiver
            split at hreceiver
            · rename_i hmatches
              cases hreceiver
              have huse : (w.ends side).socket.inUse = true := by
                simp only [tcpSocketMatches, Bool.and_eq_true] at hmatches
                exact hmatches.1.1.1.1.1.1
              exact ⟨segment, List.mem_of_getElem? hsegment, huse, _, _, hedge⟩
            · split at hreceiver
              · rename_i hopen
                -- Before the child there was no socket, so there is no closing edge.
                rw [(hok.sender side).absent hopen.2.1] at hedge
                obtain ⟨hstate, -⟩ | ⟨hstate, -⟩ | ⟨hstate, -⟩ := hedge
                all_goals cases hstate
              · cases hreceiver
        · exact absurd h hnone

/-- An end that consumed its peer's FIN has received all the peer sent before it, and the closing
edges are taken only after the peer consumed the FIN. -/
theorem tcp_orderly_close (addresses : TcpAddresses) (actions : List TcpAction)
    (hbound : ∀ side, ((TcpWorld.run addresses actions).ends side).sent.length < 2 ^ 31) :
    (∀ side, ((TcpWorld.run addresses actions).ends side).finConsumed = true →
        ((TcpWorld.run addresses actions).ends side.peer).finSent = true ∧
          ((TcpWorld.run addresses actions).ends side).entered =
            ((TcpWorld.run addresses actions).ends side.peer).sent ∧
          (((TcpWorld.run addresses actions).ends side).socket.inUse = true →
            ((TcpWorld.run addresses actions).ends side).entered =
              ((TcpWorld.run addresses actions).ends side).received)) ∧
      ∀ action side,
        ClosingEdge ((TcpWorld.run addresses actions).ends side)
            (((TcpWorld.run addresses actions).step addresses action).ends side) →
          ((TcpWorld.run addresses actions).ends side.peer).finConsumed = true := by
  have hok := TcpWorld.run_ok addresses actions hbound
  generalize TcpWorld.run addresses actions = w at hok hbound ⊢
  constructor
  · intro side hfin
    obtain ⟨hsent, hall⟩ := (hok.receiver side).finConsumed (hok.sender side) hfin
    refine ⟨hsent, hall, ?_⟩
    intro huse
    -- An end that has not heard of its peer has received nothing.
    cases hirs : (w.ends side).irs with
    | none =>
        have hunheard := (hok.receiver side).unheard hirs
        rw [TcpEnd.received, hunheard.entered, hunheard.delivered, hunheard.data]
        rfl
    | some irs => exact (((hok.receiver side).hearing irs hirs).stream huse).2.2.1
  · intro action side hedge
    -- The edge is taken on a segment of the peer that acknowledges the FIN.
    obtain ⟨segment, hsegment, huse, srcIp, dstIp, hsocket⟩ :=
      hok.delivered_of_closingEdge addresses hedge
    obtain ⟨iss, hsegmentOk⟩ := hok.net side.peer segment hsegment
    have hpeer := hok.receiver side.peer
    rw [TcpSide.peer_peer] at hsegmentOk hpeer
    obtain ⟨hack, hnum⟩ := acknowledged_of_closingEdge hsocket
    have hstate : (w.ends side).socket.state = .finWait1 ∨
        (w.ends side).socket.state = .closing ∨ (w.ends side).socket.state = .lastAck := by
      obtain ⟨hcase, -⟩ | ⟨hcase, -⟩ | ⟨hcase, -⟩ := hsocket
      · exact Or.inl hcase
      · exact Or.inr (Or.inl hcase)
      · exact Or.inr (Or.inr hcase)
    exact finConsumed_of_acknowledged (hok.sender side) hpeer huse (hbound side) hstate hsegmentOk
      hack hnum

/-- Both applications close at once after the handshake; each FIN reaches the other side. -/
def simultaneousClose : List TcpAction :=
  [.deliver .server 0, .deliver .client 0, .deliver .server 1, .send .client [7], .deliver .server 2,
    .close .client, .close .server, .deliver .client 2, .deliver .server 3]

theorem tcp_orderly_close_simultaneous :
    (∀ side, ((TcpWorld.run exampleAddresses simultaneousClose).ends side).socket.state =
        .closing) ∧
      ((TcpWorld.run exampleAddresses simultaneousClose).ends .server).entered = [7] ∧
      (((TcpWorld.run exampleAddresses simultaneousClose).step exampleAddresses
        (.deliver .client 3)).ends .client).socket.state = .timeWait ∧
      ((TcpWorld.run exampleAddresses simultaneousClose).ends .server).finConsumed = true := by
  have hsent : ∀ side,
      ((TcpWorld.run exampleAddresses simultaneousClose).ends side).sent.length < 2 ^ 31 := by
    intro side
    cases side <;> decide +kernel
  have hclosing : ∀ side,
      ((TcpWorld.run exampleAddresses simultaneousClose).ends side).socket.state = .closing := by
    intro side
    cases side <;> decide +kernel
  have hedge : (((TcpWorld.run exampleAddresses simultaneousClose).step exampleAddresses
      (.deliver .client 3)).ends .client).socket.state = .timeWait := by
    decide +kernel
  obtain ⟨hall, hclose⟩ := tcp_orderly_close exampleAddresses simultaneousClose hsent
  have hserver : ((TcpWorld.run exampleAddresses simultaneousClose).ends .server).finConsumed =
      true := hclose (.deliver .client 3) .client (Or.inr (Or.inl ⟨hclosing .client, hedge⟩))
  obtain ⟨-, hentered, -⟩ := hall .server hserver
  exact ⟨hclosing, hentered.trans (by decide +kernel), hedge, hserver⟩

end MagiStack
