import MagiStack.Layer4.TcpDelivery

/-!
# TcpSettled — what a connection comes to

The invariant of a `TcpLink` over whole runs: the SYN is in flight, its answer is, or both directions of the connection
are as `TcpDelivery` says.  Arrivals come to an end, since an answer is lighter than what it answers, and then
everything that was sent has been received.
-/

namespace MagiStack

/-- The answer to the SYN of a socket. -/
structure AnswersSyn (socket : TcpSocket) (segment : TcpSegment) : Prop where
  syn : segment.hasFlag tcpFlagSyn = true
  ack : segment.hasFlag tcpFlagAck = true
  others : segment.hasFlag (tcpFlagFin ||| tcpFlagRst) = false
  ackNum : segment.ackNum = socket.sendSeq + 1

/-- How far the connection is, with what is in flight to each side. -/
inductive Phase (ends : TcpSide → TcpEnd) (queue : TcpSide → List TcpSegment) : Prop
  | opening (hclient : (ends .client).socket.state = .synSent) (hserver : (ends .server).iss = none)
      (hempty : queue .client = []) {syn : TcpSegment} (hqueue : queue .server = [syn])
      (hsyn : tcpIsOpeningSyn syn = true)
  | answered (hclient : (ends .client).socket.state = .synSent)
      (hserver : (ends .server).socket.state = .synReceived) (hempty : queue .server = []) {synAck : TcpSegment}
      (hqueue : queue .client = [synAck]) (hanswers : AnswersSyn (ends .client).socket synAck)
  | joined (h : ∀ side, Direction (ends side) (ends side.peer) (queue side))

namespace TcpLink

/-- What holds all along an orderly run. -/
structure Good (addresses : TcpAddresses) (l : TcpLink) : Prop where
  ok : l.world.Ok
  heard_le : ∀ side, l.heard side ≤ (l.world.net side.peer).length
  owns : ∀ side, (l.world.ends side).socket.inUse = true → Owns addresses side (l.world.ends side).socket
  addressed : ∀ side, ∀ segment ∈ l.world.net side, Addressed addresses side segment
  inOrder : ∀ side, InOrder (l.world.ends side).socket
  phase : Phase l.world.ends l.inFlight

theorem initial_good (addresses : TcpAddresses) : (initial addresses).Good addresses := by
  have howns : Owns addresses .client (tcpSocketConnect tcpSocketAllocated (addresses.ip .client)
      (addresses.port .client) (addresses.ip .server) (addresses.port .server)) := ⟨rfl, rfl, rfl, rfl, rfl⟩
  refine ⟨TcpWorld.initial_ok addresses, fun _ => Nat.zero_le _, ?_, ?_, ?_, ?_⟩
  · intro side huse
    cases side with
    | client => exact howns
    | server => cases huse
  · intro side segment hsegment
    cases side with
    | client =>
        rw [List.mem_singleton.mp hsegment]
        exact howns.addressed_syn
    | server => exact absurd hsegment List.not_mem_nil
  · intro side
    cases side with
    | client => exact .of_empty rfl rfl
    | server => exact .of_empty rfl rfl
  · refine .opening rfl rfl rfl rfl ?_
    rw [tcpIsOpeningSyn, tcpSynSegment, tcpStoreChecksum_hasFlag, tcpStoreChecksum_hasFlag]
    exact (by decide : ((tcpFlagSyn &&& tcpFlagSyn != 0) &&
      !(tcpFlagSyn &&& (tcpFlagAck ||| tcpFlagFin ||| tcpFlagRst) != 0)) = true)

section Steps

variable {addresses : TcpAddresses} {l : TcpLink} (h : l.Good addresses)

include h

/-- A step of one end. -/
theorem Good.after {side : TcpSide} {e : TcpEnd} {out : List TcpSegment} {heard : Nat}
    (hok : (l.world.update side e out).Ok) (hheard : heard ≤ (l.world.net side.peer).length)
    (howns : e.socket.inUse = true → Owns addresses side e.socket)
    (haddressed : ∀ segment ∈ out, Addressed addresses side segment) (horder : InOrder e.socket)
    (hphase : Phase (l.after side e out heard).world.ends (l.after side e out heard).inFlight) :
    (l.after side e out heard).Good addresses := by
  refine ⟨hok, ?_, ?_, ?_, ?_, hphase⟩
  · intro side'
    rcases side.eq_or_eq_peer side' with rfl | rfl
    · simpa [TcpLink.after] using hheard
    · have hle := h.heard_le side.peer
      simp only [TcpLink.after, TcpSide.peer_peer, TcpWorld.update_net_self, Function.update_of_ne side.peer_ne,
        List.length_append] at hle ⊢
      omega
  · intro side' huse
    rcases side.eq_or_eq_peer side' with rfl | rfl
    · rw [after_ends_self] at huse ⊢
      exact howns huse
    · rw [after_ends_peer] at huse ⊢
      exact h.owns side.peer huse
  · intro side' segment hsegment
    rcases side.eq_or_eq_peer side' with rfl | rfl
    · rw [TcpLink.after, TcpWorld.update_net_self] at hsegment
      rcases List.mem_append.mp hsegment with hold | hnew
      · exact h.addressed side' segment hold
      · exact haddressed segment hnew
    · rw [TcpLink.after, TcpWorld.update_net_peer] at hsegment
      exact h.addressed side.peer segment hsegment
  · intro side'
    rcases side.eq_or_eq_peer side' with rfl | rfl
    · rw [after_ends_self]
      exact horder
    · rw [after_ends_peer]
      exact h.inOrder side.peer

theorem inFlight_call (side : TcpSide) (e : TcpEnd) (out : List TcpSegment) :
    (l.after side e out (l.heard side)).inFlight side = l.inFlight side ∧
      (l.after side e out (l.heard side)).inFlight side.peer = l.inFlight side.peer ++ out := by
  refine ⟨inFlight_after_self l side e out _, inFlight_after_peer l side e out _ ?_⟩
  have hle := h.heard_le side.peer
  rwa [TcpSide.peer_peer] at hle

/-- A call while the connection is being opened sends nothing. -/
theorem Good.call_opening {side : TcpSide} {e : TcpEnd} {out : List TcpSegment}
    (hcall : TcpCall addresses side (l.world.ends side) e out)
    (hquiet : (l.world.ends side).socket.inUse = false ∨
      (l.world.ends side).socket.state.pastHandshake = false) :
    out = [] ∧ (l.after side e out (l.heard side)).inFlight = l.inFlight ∧
      ∀ side', ((l.after side e out (l.heard side)).world.ends side').socket.state =
          (l.world.ends side').socket.state ∧
        ((l.after side e out (l.heard side)).world.ends side').socket.sendSeq =
          (l.world.ends side').socket.sendSeq ∧
        ((l.after side e out (l.heard side)).world.ends side').iss = (l.world.ends side').iss := by
  have hsame : e.socket.state = (l.world.ends side).socket.state ∧
      e.socket.sendSeq = (l.world.ends side).socket.sendSeq ∧ out = [] := by
    rcases hquiet with hidle | hopening
    · rcases hcall.idle hidle with ⟨hsame, hout⟩
      rw [hsame]
      exact ⟨rfl, rfl, hout⟩
    · exact hcall.opening hopening
  rcases hsame with ⟨hstate, hsend, rfl⟩
  rcases inFlight_call h side e [] with ⟨hself, hpeer⟩
  rw [List.append_nil] at hpeer
  refine ⟨rfl, funext fun side' => ?_, fun side' => ?_⟩
  · rcases side.eq_or_eq_peer side' with rfl | rfl
    · exact hself
    · exact hpeer
  · rcases side.eq_or_eq_peer side' with rfl | rfl
    · rw [after_ends_self]
      exact ⟨hstate, hsend, hcall.iss⟩
    · rw [after_ends_peer]
      exact ⟨rfl, rfl, rfl⟩

theorem Good.call_phase {side : TcpSide} {e : TcpEnd} {out : List TcpSegment}
    (hcall : TcpCall addresses side (l.world.ends side) e out) :
    Phase (l.after side e out (l.heard side)).world.ends (l.after side e out (l.heard side)).inFlight := by
  rcases h.phase with ⟨hclient, hserver, hempty, hqueue, hsyn⟩ | ⟨hclient, hserver, hempty, hqueue, hanswers⟩ | hjoined
  · -- The SYN is on its way, and no call finds a connection.
    have hquiet : (l.world.ends side).socket.inUse = false ∨
        (l.world.ends side).socket.state.pastHandshake = false := by
      cases side with
      | client =>
          rw [hclient]
          exact Or.inr rfl
      | server =>
          rw [(h.ok.sender .server).absent hserver]
          exact Or.inl rfl
    rcases h.call_opening hcall hquiet with ⟨-, hflight, hends⟩
    rw [← hflight] at hempty hqueue
    exact .opening ((hends .client).1.trans hclient) ((hends .server).2.2.trans hserver) hempty hqueue hsyn
  · -- The SYN has been answered, and there is still no connection.
    have hquiet : (l.world.ends side).socket.inUse = false ∨
        (l.world.ends side).socket.state.pastHandshake = false := by
      cases side with
      | client =>
          rw [hclient]
          exact Or.inr rfl
      | server =>
          rw [hserver]
          exact Or.inr rfl
    rcases h.call_opening hcall hquiet with ⟨-, hflight, hends⟩
    rw [← hflight] at hempty hqueue
    rcases hanswers with ⟨hsyn, hack, hothers, hackNum⟩
    rw [← (hends .client).2.1] at hackNum
    exact .answered ((hends .client).1.trans hclient) ((hends .server).1.trans hserver) hempty hqueue
      ⟨hsyn, hack, hothers, hackNum⟩
  · -- From here on each direction is a matter of its own.
    refine .joined fun side' => ?_
    rcases inFlight_call h side e out with ⟨hself, hpeer⟩
    have hreceiver := h.ok.receiver side.peer
    rw [TcpSide.peer_peer] at hreceiver
    rcases side.eq_or_eq_peer side' with rfl | rfl
    · rw [after_ends_self, after_ends_peer, hself]
      exact (hjoined side').called hcall (h.ok.sender side'.peer) hreceiver
    · have hdirection := hjoined side.peer
      rw [TcpSide.peer_peer] at hdirection ⊢
      rw [after_ends_self, after_ends_peer, hpeer]
      exact hdirection.called_peer hcall

theorem Good.call {side : TcpSide} {e : TcpEnd} {out : List TcpSegment}
    (hcall : TcpCall addresses side (l.world.ends side) e out) (hok : (l.world.update side e out).Ok) :
    (l.after side e out (l.heard side)).Good addresses := by
  refine h.after hok (h.heard_le side) (fun huse => ?_) ?_ (hcall.inOrder (h.inOrder side)) (h.call_phase hcall)
  · rw [hcall.tuple.inUse] at huse
    exact (h.owns side huse).congr hcall.tuple
  · intro segment hsegment
    cases huse : (l.world.ends side).socket.inUse with
    | true => exact hcall.addressed (h.owns side huse) segment hsegment
    | false =>
        rw [(hcall.idle huse).2] at hsegment
        exact absurd hsegment List.not_mem_nil

/-! ### Arrivals -/

/-- The end of a socket in use takes every segment of its peer. -/
theorem Good.deliver_eq {side : TcpSide} (huse : (l.world.ends side).socket.inUse = true) {segment : TcpSegment}
    (hsegment : Addressed addresses side.peer segment) :
    ∃ srcIp dstIp, l.world.deliver addresses side segment =
      l.world.update side
        ((l.world.ends side).afterReceive segment
          (tcpReceiveByState (l.world.ends side).socket segment srcIp dstIp tcpInit))
        (tcpReply (tcpReceiveByState (l.world.ends side).socket segment srcIp dstIp tcpInit)).toList := by
  have hvalid := hsegment.valid
  rw [TcpSide.peer_peer] at hvalid
  have hstate : (l.world.ends side).socket.state ≠ .closed := by
    intro hclosed
    rcases (h.ok.sender side).seqOk huse with ⟨iss, -, -, hseq⟩
    simp only [SendSeqOk, hclosed] at hseq
  have hreceiver : l.world.receiver addresses side segment = some (l.world.ends side) := by
    rw [TcpWorld.receiver]
    exact if_pos ((h.owns side huse).matches huse hstate hsegment)
  refine ⟨(addresses.ip side.peer).withoutPrefix, (addresses.ip side).withoutPrefix, ?_⟩
  rw [TcpWorld.deliver]
  simp only [hvalid, if_true, hreceiver, tcpSocketReceiveSegment]

omit h in
/-- The end of a socket that is freed takes nothing. -/
theorem deliver_freed {side : TcpSide} (hfree : (l.world.ends side).socket.inUse = false)
    (hiss : (l.world.ends side).iss ≠ none) (segment : TcpSegment) :
    l.world.deliver addresses side segment = l.world := by
  have hreceiver : l.world.receiver addresses side segment = none := by
    rw [TcpWorld.receiver, tcpSocketMatches, hfree]
    simp [hiss]
  rw [TcpWorld.deliver]
  split
  · rw [hreceiver]
  · rfl

/-- An end that is open knows its own number. -/
theorem Good.iss_of_stage {side : TcpSide} {queue : List TcpSegment} (hstage : Stage (l.world.ends side) queue) :
    ∃ iss, (l.world.ends side).iss = some iss := by
  rcases hstage with ⟨huse, -, -, -⟩ | ⟨huse, -⟩ | ⟨-, -, hsent⟩
  · exact (h.ok.sender side).iss_of_inUse huse
  · exact (h.ok.sender side).iss_of_inUse huse
  · exact (h.ok.sender side).iss_of_finSent hsent

/-- Where the peer's stream ends, for an end that has consumed its FIN. -/
theorem Good.span_eq_zero {side : TcpSide} {segment : TcpSegment} {rest : List TcpSegment}
    (hdirection : Direction (l.world.ends side) (l.world.ends side.peer) (segment :: rest))
    (hconsumed : (l.world.ends side).finConsumed = true) : segment.span = 0 := by
  have hr := h.ok.receiver side
  rcases hr.finConsumed (h.ok.sender side) hconsumed with ⟨hsent, hentered⟩
  rcases (h.ok.sender side.peer).iss_of_finSent hsent with ⟨iss, hiss⟩
  refine (hdirection.inSequence iss hiss).span_eq_zero ?_
  rw [TcpEnd.sendCount, TcpEnd.recvCount, hentered, if_pos hsent, if_pos hconsumed]

/-- Nothing happens at an end that is closed in both directions. -/
theorem Good.taken_idle {side : TcpSide} {segment : TcpSegment} {rest : List TcpSegment}
    (hdirection : Direction (l.world.ends side) (l.world.ends side.peer) (segment :: rest))
    (hfree : (l.world.ends side).socket.inUse = false) (hconsumed : (l.world.ends side).finConsumed = true)
    (hsent : (l.world.ends side).finSent = true) :
    Taken addresses side (l.world.ends side) (l.world.ends side) segment [] := by
  refine ⟨rfl, rfl, ?_, fun rest => .freed hfree hconsumed hsent, fun hawaits => ?_,
    fun _ hmem => absurd hmem List.not_mem_nil, fun _ => Or.inl hconsumed, h.inOrder side, fun huse => ?_,
    fun _ _ hmem => absurd hmem List.not_mem_nil⟩
  · rw [h.span_eq_zero hdirection hconsumed]
    rfl
  · rw [(h.ok.sender side).free hfree] at hawaits
    cases hawaits
  · cases hfree.symm.trans huse

/-- The next segment in flight arrives at an open end. -/
theorem Good.taken (hport : ∀ side, 0 < addresses.port side) {side : TcpSide} {segment : TcpSegment}
    {rest : List TcpSegment} (haddressed : Addressed addresses side.peer segment)
    (hroom : (l.world.ends side).socket.recvBuffer.data.length + segment.payload.length ≤ tcpSocketBufferSize)
    (hdirection : Direction (l.world.ends side) (l.world.ends side.peer) (segment :: rest)) :
    ∃ e out, l.world.deliver addresses side segment = l.world.update side e out ∧
      Taken addresses side (l.world.ends side) e segment out := by
  have hs := h.ok.sender side
  have hr := h.ok.receiver side
  -- past the handshake an end only changes its socket
  have hafter : ∀ {outcome : TcpReceive}, (l.world.ends side).socket.state ≠ .listen →
      (l.world.ends side).socket.state ≠ .synSent →
        (l.world.ends side).afterReceive segment outcome = (l.world.ends side).withSocket outcome.socket :=
    fun hlisten hsyn => TcpEnd.afterReceive_eq_withSocket (Or.inr ⟨hlisten, hsyn⟩)
  rcases hdirection.stage with ⟨huse, hstate, hqueue, hends⟩ | ⟨huse, hpast⟩ | ⟨hfree, hconsumed, hsent⟩
  · cases hqueue
    rcases h.deliver_eq huse haddressed with ⟨srcIp, dstIp, hdeliver⟩
    refine ⟨_, _, hdeliver, ?_⟩
    rw [hafter (by rw [hstate]; decide) (by rw [hstate]; decide)]
    exact taken_handshake addresses side hr huse (h.inOrder side) hstate hends srcIp dstIp
  · rcases h.deliver_eq huse haddressed with ⟨srcIp, dstIp, hdeliver⟩
    have hlisten : (l.world.ends side).socket.state ≠ .listen := by
      intro hcase
      rw [hcase] at hpast
      cases hpast
    have hsyn : (l.world.ends side).socket.state ≠ .synSent := by
      intro hcase
      rw [hcase] at hpast
      cases hpast
    refine ⟨_, _, hdeliver, ?_⟩
    rw [hafter hlisten hsyn]
    rcases hs.seqOk huse with ⟨own, -, -, hseq⟩
    have hclosed : (l.world.ends side).socket.state ≠ .closed := by
      intro hcase
      simp only [SendSeqOk, hcase] at hseq
    rcases TcpState.receiving_or_finConsumed hpast hclosed with hreceiving | hfinished
    · rcases hr.hearing_of_state huse hsyn with ⟨irs, -, hear⟩
      have hsequence := hdirection.inSequence irs hear.peer_iss
      refine taken_next addresses side hr huse (h.inOrder side) (hport side) (h.owns side huse) hreceiving
        ⟨fun hspan => ?_, hsequence.2.1, hroom⟩ srcIp dstIp
      rw [hear.recvSeq_eq huse]
      exact hsequence.1 hspan
    · have hconsumed : (l.world.ends side).finConsumed = true := by
        rw [TcpEnd.finConsumed, hfinished]
        rfl
      exact taken_finished addresses side hr huse (h.inOrder side) hs (h.span_eq_zero hdirection hconsumed)
        hfinished srcIp dstIp
  · rcases hs.iss_of_finSent hsent with ⟨iss, hiss⟩
    refine ⟨l.world.ends side, [], ?_, h.taken_idle hdirection hfree hconsumed hsent⟩
    rw [deliver_freed hfree (Option.ne_none_iff_exists'.mpr ⟨iss, hiss⟩), TcpWorld.update_self]

/-- The oldest segment in flight has arrived at an end. -/
theorem Good.arrived {side : TcpSide} {segment : TcpSegment} {rest : List TcpSegment} {e : TcpEnd}
    {out : List TcpSegment} (hflight : l.inFlight side = segment :: rest)
    (hbound : (l.world.ends side.peer).sent.length < 2 ^ 31)
    (hdeliver : l.world.deliver addresses side segment = l.world.update side e out)
    (howns : e.socket.inUse = true → Owns addresses side e.socket)
    (haddressed : ∀ segment ∈ out, Addressed addresses side segment) (horder : InOrder e.socket)
    (hphase : (l.world.update side e out).Ok → ∀ queue : TcpSide → List TcpSegment, queue side = rest →
      queue side.peer = l.inFlight side.peer ++ out → Phase (l.world.update side e out).ends queue) :
    (l.step addresses (.arrive side)).Good addresses := by
  have hmem : segment ∈ l.inFlight side := by
    rw [hflight]
    exact List.mem_cons_self
  have hok := h.ok.deliver addresses (mem_inFlight hmem) hbound
  have hstep : l.step addresses (.arrive side) = l.after side e out (l.heard side + 1) := by
    simp only [TcpLink.step, hflight, hdeliver]
    rfl
  have hheard : l.heard side < (l.world.net side.peer).length := by
    by_contra hall
    rw [inFlight, List.drop_eq_nil_of_le (Nat.le_of_not_lt hall)] at hflight
    cases hflight
  have hrest : (l.after side e out (l.heard side + 1)).inFlight side = rest := by
    rw [inFlight_after_self, ← List.tail_drop]
    exact congrArg List.tail hflight
  have hle := h.heard_le side.peer
  rw [TcpSide.peer_peer] at hle
  rw [hdeliver] at hok
  rw [hstep]
  exact h.after hok hheard howns haddressed horder
    (hphase hok _ hrest (inFlight_after_peer l side e out _ hle))

/-- A SYN in flight has the number of its sender. -/
theorem Good.syn_seqNum {side : TcpSide} (hopening : (l.world.ends side).socket.state.pastHandshake = false)
    {segment : TcpSegment} (hsegment : segment ∈ l.world.net side) (hflag : segment.hasFlag tcpFlagSyn = true) :
    segment.seqNum = (l.world.ends side).socket.sendSeq := by
  rcases h.ok.net side segment hsegment with ⟨iss, hok⟩
  rw [hok.syn hflag]
  exact Option.some.inj (hok.iss_eq.symm.trans ((h.ok.sender side).opening hopening).2.1)

/-- The SYN arrives: the listener's child answers it. -/
theorem Good.arrive_syn (hport : 0 < addresses.port .server)
    (hbound : (l.world.ends .client).sent.length < 2 ^ 31)
    (hclient : (l.world.ends .client).socket.state = .synSent) (hserver : (l.world.ends .server).iss = none)
    (hempty : l.inFlight .client = []) {syn : TcpSegment} (hqueue : l.inFlight .server = [syn])
    (hsyn : tcpIsOpeningSyn syn = true) : (l.step addresses (.arrive .server)).Good addresses := by
  have hmem : syn ∈ l.world.net .client := by
    refine @mem_inFlight l .server syn ?_
    rw [hqueue]
    exact List.mem_cons_self
  have haddressed := h.addressed .client syn hmem
  have hflag : syn.hasFlag tcpFlagSyn = true := by
    rw [tcpIsOpeningSyn, Bool.and_eq_true] at hsyn
    exact hsyn.1
  have hseq := h.syn_seqNum (by rw [hclient]; rfl) hmem hflag
  -- The listener opens a child for the SYN.
  generalize hchild : tcpChildSocket addresses.listener (addresses.ip .server) syn
    (addresses.ip .client).withoutPrefix = child
  have hreceiver : l.world.receiver addresses .server syn =
      some { l.world.ends .server with socket := child } := by
    rw [TcpWorld.receiver, (h.ok.sender .server).absent hserver, ← hchild]
    rw [if_neg (by simp [tcpSocketMatches, TcpEnd.absent, tcpSocketFree])]
    exact if_pos ⟨rfl, rfl, haddressed.dstPort, hsyn⟩
  have hvalid : tcpValidateChecksum syn (addresses.ip .client).withoutPrefix (addresses.ip .server).withoutPrefix =
      true := haddressed.valid
  have hlisten : child.state = .listen := by rw [← hchild, tcpChildSocket]
  -- The child goes on to SYN_RECEIVED.
  generalize hsocket : ({ child with
      recvSeq := syn.seqNum + 1
      sendSeq := 2000 + syn.srcPort.toUInt32
      state := .synReceived } : TcpSocket) = socket
  -- It answers with a SYN-ACK.
  generalize hanswer : tcpStoreChecksum
    { tcpInit with
      srcPort := syn.dstPort
      dstPort := syn.srcPort
      seqNum := 2000 + syn.srcPort.toUInt32
      ackNum := syn.seqNum + 1
      flags := tcpFlagSynAck
      window := tcpWindowSize }
    tcpHeaderSize (addresses.ip .server).withoutPrefix (addresses.ip .client).withoutPrefix = synAck
  have houtcome : tcpReceiveByState child syn (addresses.ip .client).withoutPrefix
      (addresses.ip .server).withoutPrefix tcpInit =
        { accepted := true, socket := socket, response := synAck } := by
    rw [tcpReceiveByState, hlisten, ← hsocket, ← hanswer]
    exact if_pos hsyn
  have howns : Owns addresses .server socket := by
    rw [← hsocket, ← hchild]
    exact ⟨rfl, haddressed.dstPort, rfl, haddressed.srcPort, rfl⟩
  have hsent : Addressed addresses .server synAck := by
    rw [← hanswer]
    exact addressed_store rfl rfl haddressed.dstPort haddressed.srcPort rfl (Nat.zero_le _) (Nat.le_refl _)
  have hflags : ∀ mask, synAck.hasFlag mask = (tcpFlagSynAck &&& mask != 0) := by
    intro mask
    rw [← hanswer, tcpStoreChecksum_hasFlag]
    rfl
  have hreply : tcpReply { accepted := true, socket := socket, response := synAck } = some synAck := by
    have hnonzero : synAck.flags ≠ 0 := by
      intro hzero
      have hack := hflags tcpFlagAck
      rw [TcpSegment.hasFlag, hzero] at hack
      exact absurd hack (by decide)
    have hsome : 0 < synAck.srcPort := by
      rw [hsent.srcPort]
      exact hport
    rw [tcpReply]
    simp [hnonzero, hsome]
  have hdeliver : l.world.deliver addresses .server syn =
      l.world.update .server
        ({ l.world.ends .server with socket := child }.afterReceive syn
          { accepted := true, socket := socket, response := synAck }) [synAck] := by
    rw [TcpWorld.deliver]
    simp only [TcpSide.peer, hvalid, if_true, hreceiver, tcpSocketReceiveSegment, houtcome, hreply, Option.toList_some]
  refine h.arrived hqueue hbound hdeliver (fun _ => howns) ?_ ?_ ?_
  · intro answer hmem
    rw [List.mem_singleton.mp hmem]
    exact hsent
  · refine .of_empty ?_ ?_
    · change socket.recvBuffer = _
      rw [← hsocket, ← hchild]
      rfl
    · change socket.hasData = _
      rw [← hsocket, ← hchild]
      rfl
  · -- The SYN-ACK is now all that is in flight.
    intro _ queue hself hpeer
    have hother : ∀ e out, (l.world.update .server e out).ends .client = l.world.ends .client :=
      fun e out => TcpWorld.update_ends_peer l.world .server e out
    refine .answered ?_ ?_ hself (hpeer.trans (congrArg (· ++ [synAck]) hempty)) ?_
    · rw [hother]
      exact hclient
    · rw [TcpWorld.update_ends_self]
      change socket.state = _
      rw [← hsocket]
    · rw [hother]
      refine ⟨by rw [hflags]; decide, by rw [hflags]; decide, by rw [hflags]; decide, ?_⟩
      rw [← hanswer, tcpStoreChecksum_ackNum, hseq]

/-- The answer to the SYN arrives: the client is connected. -/
theorem Good.arrive_synAck (hport : 0 < addresses.port .client)
    (hbound : (l.world.ends .server).sent.length < 2 ^ 31)
    (hclient : (l.world.ends .client).socket.state = .synSent)
    (hserver : (l.world.ends .server).socket.state = .synReceived) (hempty : l.inFlight .server = [])
    {synAck : TcpSegment} (hqueue : l.inFlight .client = [synAck])
    (hanswers : AnswersSyn (l.world.ends .client).socket synAck) :
    (l.step addresses (.arrive .client)).Good addresses := by
  have hmem : synAck ∈ l.world.net .server := by
    refine @mem_inFlight l .client synAck ?_
    rw [hqueue]
    exact List.mem_cons_self
  have haddressed := h.addressed .server synAck hmem
  have hseq := h.syn_seqNum (by rw [hserver]; rfl) hmem hanswers.syn
  rcases (h.ok.sender .client).opening (by rw [hclient]; rfl) with ⟨huse, hiss, hcount⟩
  rcases (h.ok.sender .server).opening (by rw [hserver]; rfl) with ⟨huseServer, -, hcountServer⟩
  have howns := h.owns .client huse
  rcases h.deliver_eq huse haddressed with ⟨srcIp, dstIp, hdeliver⟩
  generalize hsocket : ({ (l.world.ends .client).socket with
      recvSeq := synAck.seqNum + 1
      sendAck := synAck.ackNum
      sendSeq := synAck.ackNum
      state := .established } : TcpSocket) = socket
  have htuple : SameTuple (l.world.ends .client).socket socket := by
    rw [← hsocket]
    exact ⟨rfl, rfl, rfl, rfl, rfl, rfl⟩
  have houtcome : tcpReceiveByState (l.world.ends .client).socket synAck srcIp dstIp tcpInit = tcpAnswer socket := by
    rw [tcpReceiveByState, hclient, ← hsocket]
    simp only [tcpReceiveSynSent, hanswers.syn, hanswers.ack, hanswers.others, hanswers.ackNum, Bool.not_false,
      Bool.and_self, beq_self_eq_true, if_true]
  have hreply : (tcpReply (tcpAnswer socket)).toList = [tcpPrepareAck socket] := by
    have hsent : tcpReply (tcpAnswer socket) = some (tcpPrepareAck socket) := by
      refine tcpReply_ack ?_
      rw [(howns.congr htuple).localPort]
      exact hport
    rw [hsent]
    rfl
  rw [houtcome, hreply] at hdeliver
  refine h.arrived hqueue hbound hdeliver (fun _ => howns.congr htuple) ?_ ?_ ?_
  · intro answer hanswer
    rw [List.mem_singleton.mp hanswer]
    exact (howns.congr htuple).addressed_ack
  · change InOrder socket
    rw [← hsocket]
    exact (h.inOrder .client).congr rfl rfl
  · intro hok queue hself hpeer
    have hqueue' : queue .server = [tcpPrepareAck socket] := hpeer.trans (congrArg (· ++ _) hempty)
    have hsend : socket.sendSeq = (l.world.ends .client).socket.sendSeq + 1 := by
      rw [← hsocket]
      exact hanswers.ackNum
    have hrecv : socket.recvSeq = (l.world.ends .server).socket.sendSeq + 1 := by
      rw [← hsocket, ← hseq]
    have hother : ∀ e out, (l.world.update .client e out).ends .server = l.world.ends .server :=
      fun e out => TcpWorld.update_ends_peer l.world .client e out
    -- neither side has received anything, for nothing was sent
    have hserverCount : (l.world.ends .server).recvCount = 0 := by
      have hle := (h.ok.receiver .server).recvCount_le_sendCount (h.ok.sender .server)
      exact Nat.le_zero.mp (hcount ▸ hle)
    refine .joined fun side => ?_
    cases side with
    | server =>
        rw [hqueue', hother, show TcpSide.server.peer = .client from rfl, TcpWorld.update_ends_self]
        rcases (h.ok.receiver .server).hearing_of_state huseServer (by rw [hserver]; decide) with ⟨irs, -, hear⟩
        have hirs : irs = (l.world.ends .client).socket.sendSeq := Option.some.inj (hear.peer_iss.symm.trans hiss)
        refine ⟨.waiting huseServer hserver rfl ⟨?_, ?_, ?_, ?_, ?_⟩, fun iss _ => ?_, fun hawaits => ?_⟩
        · rw [tcpPrepareAck_hasFlag]
          decide
        · rw [tcpPrepareAck_hasFlag]
          decide
        · rw [tcpPrepareAck, tcpStoreChecksum_ackNum]
          exact hrecv
        · rw [tcpPrepareAck, tcpStoreChecksum_seqNum, hear.recvSeq_eq huseServer, hserverCount, streamSeq_zero, hirs]
          exact hsend
        · exact (TcpSegment.span_eq_zero_iff.mp (tcpPrepareAck_span socket)).1
        · have hnothing : (TcpEnd.afterReceive (l.world.ends .client) synAck (tcpAnswer socket)).sendCount = 0 := hcount
          rw [hserverCount, hnothing]
          refine .of_span fun answer hanswer => ?_
          rw [List.mem_singleton.mp hanswer]
          exact tcpPrepareAck_span socket
        · rw [hserver] at hawaits
          cases hawaits
    | client =>
        have hle := (hok.receiver .client).recvCount_le_sendCount (hok.sender .client)
        have hestablished : socket.state = .established := by rw [← hsocket]
        simp only [TcpSide.peer, TcpWorld.update_ends_self, hother, hcountServer, Nat.le_zero] at hle ⊢
        refine ⟨.connected (htuple.inUse.trans huse) ?_, fun iss _ => ?_, fun hawaits => ?_⟩
        · change socket.state.pastHandshake = true
          rw [hestablished]
          rfl
        · rw [hself, hle]
          exact hcountServer.symm
        · change socket.state.awaitsFinAck = true at hawaits
          rw [hestablished] at hawaits
          cases hawaits

theorem Good.arrive (hport : ∀ side, 0 < addresses.port side) {side : TcpSide}
    (hbound : (l.world.ends side.peer).sent.length < 2 ^ 31) (hallows : l.Allows (.arrive side)) :
    (l.step addresses (.arrive side)).Good addresses := by
  cases hflight : l.inFlight side with
  | nil =>
      simp only [TcpLink.step, hflight]
      exact h
  | cons segment rest =>
      rcases h.phase with ⟨hclient, hserver, hempty, hqueue, hsyn⟩ |
        ⟨hclient, hserver, hempty, hqueue, hanswers⟩ | hjoined
      · -- The SYN arrives.
        cases side with
        | client => cases hempty.symm.trans hflight
        | server => exact h.arrive_syn (hport .server) hbound hclient hserver hempty hqueue hsyn
      · -- The SYN-ACK arrives.
        cases side with
        | client => exact h.arrive_synAck (hport .client) hbound hclient hserver hempty hqueue hanswers
        | server => cases hempty.symm.trans hflight
      · -- What arrives is taken in its own direction, and what answers it joins the other.
        have hmem : segment ∈ l.inFlight side := by
          rw [hflight]
          exact List.mem_cons_self
        have haddressed := h.addressed side.peer segment (mem_inFlight hmem)
        have hdirection := hjoined side
        rw [hflight] at hdirection
        have hroom := hallows segment (by rw [hflight]; rfl)
        rcases h.taken hport haddressed hroom hdirection with ⟨e, out, hdeliver, htaken⟩
        refine h.arrived hflight hbound hdeliver (fun huse => ?_) ?_ htaken.inOrder ?_
        · have htuple := htaken.tuple huse
          exact (h.owns side (htuple.inUse.symm.trans huse)).congr htuple
        · intro answer hanswer
          exact htaken.addressed (h.owns side) answer hanswer
        · intro hok queue hself hpeer
          refine .joined fun side' => ?_
          rcases side.eq_or_eq_peer side' with rfl | rfl
          · rw [TcpWorld.update_ends_self, TcpWorld.update_ends_peer, hself]
            exact hdirection.taken htaken
          · have hother := hjoined side.peer
            rw [TcpSide.peer_peer] at hother ⊢
            rw [TcpWorld.update_ends_self, TcpWorld.update_ends_peer, hpeer]
            refine hother.answered htaken fun hawaits hconsumed huse => ?_
            have hnumbers := @TcpWorld.Ok.recvSeq_eq_sendSeq _ hok side
            rw [TcpWorld.update_ends_self, TcpWorld.update_ends_peer] at hnumbers
            exact hnumbers hconsumed huse hawaits

/-! ### Runs -/

/-- An orderly step. -/
theorem Good.step (hport : ∀ side, 0 < addresses.port side)
    (hbound : ∀ side, (l.world.ends side).sent.length < 2 ^ 31) {action : TcpLinkAction}
    (hallows : l.Allows action) : (l.step addresses action).Good addresses := by
  cases action with
  | send side data =>
      simp only [TcpLink.step, TcpWorld.step]
      cases hsend : magiSendTcp (l.world.ends side).socket data with
      | none => exact h
      | some result =>
          have hs := h.ok.sender side
          have hr := h.ok.receiver side
          have hgood := h.call (call_send addresses side hs hr hsend) (h.ok.update (endStep_send hs hr hsend))
          rw [after_call] at hgood
          exact hgood
  | recv side maxLen =>
      have hs := h.ok.sender side
      have hr := h.ok.receiver side
      have hgood := h.call (call_recv addresses side hs hr maxLen) (h.ok.update (endStep_recv hs hr maxLen))
      rw [after_call] at hgood
      exact hgood
  | close side =>
      have hs := h.ok.sender side
      have hr := h.ok.receiver side
      have hgood := h.call (call_close addresses side hs hr hallows.1 hallows.2) (h.ok.update (endStep_close hs hr))
      rw [after_call] at hgood
      exact hgood
  | arrive side => exact h.arrive hport (hbound side.peer) hallows

end Steps

theorem Good.run {addresses : TcpAddresses} (hport : ∀ side, 0 < addresses.port side) {l : TcpLink}
    (h : l.Good addresses) {actions : List TcpLinkAction} (horderly : l.Orderly addresses actions)
    (hbound : ∀ side, ((l.run addresses actions).world.ends side).sent.length < 2 ^ 31) :
    (l.run addresses actions).Good addresses := by
  induction actions generalizing l with
  | nil => exact h
  | cons action actions ih =>
      have hbefore : ∀ side, (l.world.ends side).sent.length < 2 ^ 31 := fun side =>
        lt_of_le_of_lt (sent_prefix_run addresses (action :: actions) l side).length_le (hbound side)
      exact ih (h.step hport hbefore horderly.1) horderly.2 hbound

/-! ## Nothing in flight -/

/-- The state of an end to which everything has come, by who has closed. -/
def SettledState (e : TcpEnd) (closed peerClosed : Bool) : Prop :=
  match closed, peerClosed with
  | false, false => e.socket.state = .established
  | false, true => e.socket.state = .closeWait
  | true, false => e.socket.state = .finWait2
  | true, true => e.socket.state = .timeWait ∨ e.socket.inUse = false

instance decidableSettledState (e : TcpEnd) (closed peerClosed : Bool) : Decidable (SettledState e closed peerClosed) :=
  match closed, peerClosed with
  | false, false => inferInstanceAs (Decidable (e.socket.state = .established))
  | false, true => inferInstanceAs (Decidable (e.socket.state = .closeWait))
  | true, false => inferInstanceAs (Decidable (e.socket.state = .finWait2))
  | true, true => inferInstanceAs (Decidable (e.socket.state = .timeWait ∨ e.socket.inUse = false))

/-- Everything that was sent has come, and every FIN is acknowledged. -/
structure Settled (e peer : TcpEnd) : Prop where
  entered : e.entered = peer.sent
  received : e.socket.inUse = true → e.received = peer.sent
  state : SettledState e e.finSent peer.finSent

section Quiet

variable {addresses : TcpAddresses} {l : TcpLink} (h : l.Good addresses) (hquiet : ∀ side, l.inFlight side = [])

include h hquiet

theorem Good.joined_of_quiet (side : TcpSide) : Direction (l.world.ends side) (l.world.ends side.peer) [] := by
  rcases h.phase with ⟨-, -, -, hqueue, -⟩ | ⟨-, -, -, hqueue, -⟩ | hjoined
  · cases (hquiet .server).symm.trans hqueue
  · cases (hquiet .client).symm.trans hqueue
  · rw [← hquiet side]
    exact hjoined side

/-- Both ends have consumed everything that the other one has numbered. -/
theorem Good.consumed_of_quiet (side : TcpSide) :
    (l.world.ends side).entered = (l.world.ends side.peer).sent ∧
      (l.world.ends side).finConsumed = (l.world.ends side.peer).finSent := by
  have hr := h.ok.receiver side
  rcases h.iss_of_stage (h.joined_of_quiet hquiet side.peer).stage with ⟨iss, hiss⟩
  have hcount : (l.world.ends side).recvCount = (l.world.ends side.peer).sendCount :=
    (h.joined_of_quiet hquiet side).inSequence iss hiss
  rw [TcpEnd.recvCount, TcpEnd.sendCount] at hcount
  cases hconsumed : (l.world.ends side).finConsumed with
  | true =>
      rcases hr.finConsumed (h.ok.sender side) hconsumed with ⟨hsent, hentered⟩
      exact ⟨hentered, hsent.symm⟩
  | false =>
      have hle := hr.entered_prefix.length_le
      rw [hconsumed] at hcount
      cases hsent : (l.world.ends side.peer).finSent with
      | true =>
          rw [hsent] at hcount
          simp at hcount
          omega
      | false =>
          rw [hsent] at hcount
          exact ⟨hr.entered_prefix.eq_of_length hcount, rfl⟩

theorem Good.settled (side : TcpSide) : Settled (l.world.ends side) (l.world.ends side.peer) := by
  rcases h.consumed_of_quiet hquiet side with ⟨hentered, hconsumed⟩
  have hr := h.ok.receiver side
  refine ⟨hentered, fun huse => ?_, ?_⟩
  · rw [← hentered]
    exact (hr.entered_eq huse).1.symm
  have hdirection := h.joined_of_quiet hquiet side
  -- no FIN is waiting for its acknowledgement, since the peer has consumed it and nothing is in flight
  have hacked : (l.world.ends side).finSent = true → (l.world.ends side).socket.state.awaitsFinAck = false := by
    intro hsent
    have hpeer := (h.consumed_of_quiet hquiet side.peer).2
    rw [TcpSide.peer_peer, hsent] at hpeer
    refine Bool.eq_false_iff.mpr fun hawaits => ?_
    rcases hdirection.finAcked hawaits with hnot | ⟨segment, hsegment, -⟩
    · cases hpeer.symm.trans hnot
    · cases hsegment
  rw [← hconsumed]
  rcases hdirection.stage with ⟨-, -, hqueue, -⟩ | ⟨huse, hpast⟩ | ⟨hfree, hconsumed', hsent⟩
  · cases hqueue
  · rcases (h.ok.sender side).seqOk huse with ⟨iss, -, -, hseq⟩
    rw [TcpEnd.finConsumed, (hr.entered_eq huse).2]
    cases hstate : (l.world.ends side).socket.state with
    | established | closeWait =>
        simp only [SendSeqOk, hstate] at hseq
        rw [hseq.2]
        exact hstate
    | finWait2 =>
        simp only [SendSeqOk, hstate] at hseq
        rw [hseq.2]
        exact hstate
    | timeWait =>
        simp only [SendSeqOk, hstate] at hseq
        rw [hseq.2]
        exact Or.inl hstate
    | finWait1 | closing | lastAck =>
        simp only [SendSeqOk, hstate] at hseq
        have hnone := hacked hseq.2
        rw [hstate] at hnone
        cases hnone
    | closed => simp [SendSeqOk, hstate] at hseq
    | _ =>
        rw [hstate] at hpast
        cases hpast
  · rw [hconsumed', hsent]
    exact Or.inr hfree

end Quiet

/-- An orderly run over a link that keeps the order and loses nothing: whenever nothing is in flight, each side has
received everything that the other one has sent, and the state of each socket is the one that belongs to who has
closed. -/
theorem tcp_link_delivers {addresses : TcpAddresses} (hport : ∀ side, 0 < addresses.port side)
    {actions : List TcpLinkAction} (horderly : (initial addresses).Orderly addresses actions)
    (hbound : ∀ side, (((initial addresses).run addresses actions).world.ends side).sent.length < 2 ^ 31)
    (hquiet : ∀ side, ((initial addresses).run addresses actions).inFlight side = []) (side : TcpSide) :
    Settled (((initial addresses).run addresses actions).world.ends side)
      (((initial addresses).run addresses actions).world.ends side.peer) :=
  ((initial_good addresses).run hport horderly hbound).settled hquiet side

/-- A connection that is opened, used by both sides and closed by the client. -/
def orderlyActions : List TcpLinkAction :=
  [.arrive .server, .arrive .client, .arrive .server, .send .client [1, 2, 3], .send .server [4], .arrive .server,
    .close .client, .arrive .client, .arrive .server, .arrive .server, .arrive .client, .arrive .client]

theorem tcp_link_delivers_halfClosed :
    Settled (((initial exampleAddresses).run exampleAddresses orderlyActions).world.ends .server)
        (((initial exampleAddresses).run exampleAddresses orderlyActions).world.ends .client) ∧
      (((initial exampleAddresses).run exampleAddresses orderlyActions).world.ends .client).finSent = true := by
  refine ⟨tcp_link_delivers ?_ ?_ ?_ ?_ .server, by decide +kernel⟩
  · intro side
    cases side
    all_goals decide
  · decide +kernel
  · intro side
    cases side
    all_goals decide +kernel
  · intro side
    cases side
    all_goals decide +kernel

end TcpLink

end MagiStack
