import MagiStack.Layer4.TcpRecvBuffer
import MagiStack.Layer4.TcpSendBuffer

/-!
# TcpWindow — what an acknowledgement promises

Every acknowledgement advertises `TCP_WINDOW_SIZE`, whatever the receive buffer holds.  The peer sends
its bytes once and in order, the application reads.  This module says which of the promised payloads are
taken.
-/

namespace MagiStack

open FirstCover

/-! ## Data in order -/

/-- Nothing waits out of order. -/
structure InOrder (socket : TcpSocket) : Prop where
  buffer : RecvBufferOk socket
  none_pending : socket.recvBuffer.pendingCount = 0

/-- `tcp_buffer_payload` takes the payload, and all its bytes reach `data`. -/
def AcceptedWhole (socket : TcpSocket) (seqNum : UInt32) (payload : List UInt8) : Prop :=
  (tcpBufferPayload socket seqNum payload).1 = true ∧
    (tcpBufferPayload socket seqNum payload).2.recvSeq =
      socket.recvSeq + UInt32.ofNat payload.length ∧
    (tcpBufferPayload socket seqNum payload).2.recvBuffer.data =
      socket.recvBuffer.data ++ payload

namespace InOrder

variable {socket : TcpSocket}

theorem pendingValid (h : InOrder socket) (i : Nat) : socket.recvBuffer.pendingValid i = false := by
  by_cases hi : i < tcpSocketBufferSize
  · have hcount := h.buffer.count_eq
    rw [h.none_pending, TcpReceiveBuffer.validCount, eq_comm, Nat.count_iff_forall_not] at hcount
    exact Bool.eq_false_iff.mpr (hcount i hi)
  · exact h.buffer.inside i (Nat.le_of_not_lt hi)

theorem newCount (h : InOrder socket) (offset len : Nat) :
    socket.recvBuffer.newCount offset len = len := by
  rw [TcpReceiveBuffer.newCount, List.countP_eq_length.mpr, List.length_range]
  intro i _
  rw [h.pendingValid]
  rfl

/-- What is stored at the front is the payload. -/
theorem window_store (h : InOrder socket) (payload : List UInt8) (i : Nat) :
    (socket.recvBuffer.store 0 payload).window i = payload[i]? := by
  rw [TcpReceiveBuffer.window_store,
    (TcpReceiveBuffer.window_eq_none_iff _ i).mpr (h.pendingValid i), Option.none_or, elementAt,
    if_pos (Nat.zero_le i)]
  rfl

theorem ready_store (h : InOrder socket) {payload : List UInt8}
    (hlen : payload.length ≤ tcpSocketBufferSize) :
    (socket.recvBuffer.store 0 payload).ready = payload.length := by
  refine le_antisymm ?_ (socket.recvBuffer.length_le_ready_store hlen)
  by_contra hmore
  have hvalid := (socket.recvBuffer.store 0 payload).valid_of_lt_ready
    (i := payload.length) (by omega)
  have hnone := h.window_store payload payload.length
  rw [List.getElem?_eq_none le_rfl, TcpReceiveBuffer.window_eq_none_iff, hvalid] at hnone
  cases hnone

/-- The bytes that move to `data` are the payload. -/
theorem moved_data (h : InOrder socket) (payload : List UInt8) :
    (List.range payload.length).map (socket.recvBuffer.store 0 payload).pending = payload := by
  refine List.ext_getElem? fun i => ?_
  rw [List.getElem?_map]
  by_cases hi : i < payload.length
  · have hwindow := h.window_store payload i
    rw [List.getElem?_eq_getElem hi] at hwindow ⊢
    rw [List.getElem?_range hi, Option.map_some]
    rw [TcpReceiveBuffer.window] at hwindow
    split at hwindow
    · exact hwindow
    · cases hwindow
  · rw [List.getElem?_eq_none (by simpa using hi), List.getElem?_eq_none (by omega)]
    rfl

/-- `tcp_buffer_payload` on the next payload in order. -/
theorem tcpBufferPayload_next (h : InOrder socket) {payload : List UInt8} (hne : payload ≠ []) :
    tcpBufferPayload socket socket.recvSeq payload =
      if socket.recvBuffer.data.length + payload.length ≤ tcpSocketBufferSize then
        (true, tcpDeliverReady socket (socket.recvBuffer.store 0 payload))
      else
        (false, socket) := by
  have hempty : ¬payload.isEmpty = true := fun h => hne (List.isEmpty_iff.mp h)
  have htrim : tcpTrimPayload socket.recvSeq socket.recvSeq payload =
      some (socket.recvSeq, payload) := if_neg (UInt32.lt_irrefl _)
  have hzero : (socket.recvSeq - socket.recvSeq).toNat = 0 := by rw [UInt32.sub_self]; rfl
  have hsize : 0 < tcpSocketBufferSize := by decide
  rw [tcpBufferPayload, if_neg hempty, htrim]
  simp only [hzero, h.newCount, h.none_pending, Nat.add_zero]
  by_cases hroom : socket.recvBuffer.data.length + payload.length ≤ tcpSocketBufferSize
  · rw [if_pos hroom, if_neg (by omega), if_neg (by omega)]
  · rw [if_neg hroom]
    by_cases hwindow : tcpSocketBufferSize ≤ 0 ∨ tcpSocketBufferSize - 0 < payload.length
    · rw [if_pos hwindow]
    · rw [if_neg hwindow, if_pos (by omega)]

/-- What the socket is after it took the next payload in order. -/
theorem deliver_next (h : InOrder socket) (payload : List UInt8)
    (hlen : payload.length ≤ tcpSocketBufferSize) :
    (tcpDeliverReady socket (socket.recvBuffer.store 0 payload)).recvSeq =
        socket.recvSeq + UInt32.ofNat payload.length ∧
      (tcpDeliverReady socket (socket.recvBuffer.store 0 payload)).recvBuffer.data =
        socket.recvBuffer.data ++ payload ∧
      (tcpDeliverReady socket (socket.recvBuffer.store 0 payload)).recvBuffer.pendingCount = 0 := by
  have hpending := socket.recvBuffer.pendingCount_store 0 payload
  rw [h.none_pending, h.newCount, Nat.zero_add] at hpending
  simp only [tcpDeliverReady, h.ready_store hlen]
  refine ⟨trivial, ?_⟩
  cases payload with
  | nil => exact ⟨(List.append_nil _).symm, hpending⟩
  | cons byte rest =>
      rw [if_pos (show 0 < (byte :: rest).length from Nat.succ_pos _)]
      refine ⟨?_, ?_⟩
      · simp only [TcpReceiveBuffer.moveReady]
        rw [h.moved_data, TcpReceiveBuffer.store_data]
      · simp only [TcpReceiveBuffer.moveReady]
        rw [hpending, Nat.sub_self]

/-- The next payload in order is taken, and then whole, if and only if it fits behind the unread bytes. -/
theorem acceptedWhole_iff (h : InOrder socket) (payload : List UInt8) :
    AcceptedWhole socket socket.recvSeq payload ↔
      socket.recvBuffer.data.length + payload.length ≤ tcpSocketBufferSize := by
  rw [AcceptedWhole]
  by_cases hempty : payload = []
  · have hroom := h.buffer.room
    subst hempty
    refine iff_of_true ⟨rfl, ?_, (List.append_nil _).symm⟩ ?_
    · change socket.recvSeq = socket.recvSeq + 0
      rw [UInt32.add_zero]
    · rw [List.length_nil]
      omega
  · rw [h.tcpBufferPayload_next hempty]
    by_cases hroom : socket.recvBuffer.data.length + payload.length ≤ tcpSocketBufferSize
    · obtain ⟨hseq, hdata, -⟩ := h.deliver_next payload (by omega)
      rw [if_pos hroom]
      exact iff_of_true ⟨rfl, hseq, hdata⟩ hroom
    · rw [if_neg hroom]
      exact iff_of_false (fun hwhole => Bool.false_ne_true hwhole.1) hroom

/-- After the next payload in order, taken or not, nothing waits out of order. -/
theorem next (h : InOrder socket) (payload : List UInt8) :
    InOrder (tcpBufferPayload socket socket.recvSeq payload).2 := by
  refine ⟨h.buffer.buffer socket.recvSeq payload, ?_⟩
  by_cases hempty : payload = []
  · subst hempty
    exact h.none_pending
  · rw [h.tcpBufferPayload_next hempty]
    split
    · rename_i hroom
      exact (h.deliver_next payload (by omega)).2.2
    · exact h.none_pending

theorem recv (h : InOrder socket) (maxLen : Nat) : InOrder (tcpSocketRecv socket maxLen).2 := by
  refine ⟨h.buffer.recv maxLen, ?_⟩
  rw [tcpSocketRecv]
  split
  all_goals exact h.none_pending

end InOrder

/-! ## Entry into ESTABLISHED -/

/-- The socket of a connection right after the segment that established it. -/
inductive EntersEstablished : TcpSocket → Prop
  | segment {socket : TcpSocket} (begins : BeginsConnection socket)
      (actions : List TcpSenderAction) (segment : TcpSegment) (srcIp dstIp : IpAddress)
      (response : TcpSegment)
      (before : ((TcpSender.initial socket).run actions).socket.state ≠ .established)
      (after : (tcpSocketReceiveSegment ((TcpSender.initial socket).run actions).socket segment srcIp
        dstIp response).socket.state = .established) :
      EntersEstablished (tcpSocketReceiveSegment ((TcpSender.initial socket).run actions).socket
        segment srcIp dstIp response).socket

/-- Nothing is received before the connection is established. -/
def EmptyHandshake (socket : TcpSocket) : Prop :=
  socket.state.pastHandshake = false →
    socket.recvBuffer = tcpSocketFree.recvBuffer ∧ socket.hasData = false

theorem InOrder.of_empty {socket : TcpSocket} (h : socket.recvBuffer = tcpSocketFree.recvBuffer)
    (hdata : socket.hasData = false) : InOrder socket := by
  refine ⟨⟨?_, ?_, ?_, ?_, ?_⟩, ?_⟩
  · rw [h]
    rfl
  · intro i _
    rw [h]
    rfl
  · rw [h]
    exact (Nat.count_iff_forall_not.mpr fun i _ => Bool.false_ne_true).symm
  · rw [h]
    exact Nat.zero_le _
  · rw [h, hdata]
    rfl
  · rw [h]
    rfl

/-- A segment before the connection is established: the buffer stays empty until it is. -/
theorem receive_handshake {socket : TcpSocket} (hopening : socket.state.pastHandshake = false)
    (hempty : socket.recvBuffer = tcpSocketFree.recvBuffer ∧ socket.hasData = false)
    (segment : TcpSegment) (srcIp dstIp : IpAddress) (response : TcpSegment) :
    let after := (tcpSocketReceiveSegment socket segment srcIp dstIp response).socket
    EmptyHandshake after ∧ (after.state = .established → InOrder after) := by
  have hsame : EmptyHandshake socket ∧ (socket.state = .established → InOrder socket) :=
    ⟨fun _ => hempty, fun _ => InOrder.of_empty hempty.1 hempty.2⟩
  simp only [tcpSocketReceiveSegment]
  split
  · rw [tcpReceiveByState]
    cases hstate : socket.state with
    | listen =>
        simp only [tcpReceiveListen]
        split
        · exact ⟨fun _ => hempty, fun h => by cases h⟩
        · exact hsame
    | synSent =>
        simp only [tcpReceiveSynSent]
        split
        · exact ⟨fun _ => hempty, fun _ => InOrder.of_empty hempty.1 hempty.2⟩
        · exact hsame
    | synReceived =>
        simp only [tcpReceiveSynReceived]
        split
        · rename_i hack
          simp only [Bool.and_eq_true, beq_iff_eq] at hack
          split
          · exact ⟨fun h => (by cases h), fun _ => InOrder.of_empty hempty.1 hempty.2⟩
          · -- The payload of the last segment of the handshake is the next in order.
            have hbefore : InOrder
                { socket with
                  sendAck := segment.ackNum
                  sendSeq := segment.ackNum
                  state := .established } :=
              InOrder.of_empty hempty.1 hempty.2
            have hnext := hbefore.next segment.payload
            rw [hack.2]
            refine ⟨fun hopen => ?_, fun _ => hnext⟩
            simp only [tcpAnswer, tcpBufferPayload_state] at hopen
            cases hopen
        · exact hsame
    | _ =>
        rw [hstate] at hopening
        cases hopening
  · exact hsame

theorem emptyHandshake_step {e : TcpSender} (h : EmptyHandshake e.socket)
    (action : TcpSenderAction) : EmptyHandshake (e.step action).socket := by
  cases action with
  | send data =>
      simp only [TcpSender.step]
      cases hsend : tcpSocketSend e.socket data with
      | none => exact h
      | some socket =>
          obtain ⟨hstate, -, rfl⟩ := tcpSocketSend_eq_some hsend
          intro hopening
          simp only [hstate] at hopening
          cases hopening
  | recv maxLen =>
      intro hopening
      simp only [TcpSender.step, tcpSocketRecv_state] at hopening
      have hempty := h hopening
      simp only [TcpSender.step, tcpSocketRecv, hempty.2]
      simpa using hempty
  | receive segment srcIp dstIp response =>
      intro hopening
      have hbefore : e.socket.state.pastHandshake = false := by
        by_contra hpast
        have hafter := (tcpSocketReceiveSegment_stateAdvance e.socket segment srcIp dstIp
          response).pastHandshake ((Bool.not_eq_false _).mp hpast)
        exact absurd (hopening.symm.trans hafter) (by decide)
      exact (receive_handshake hbefore (h hbefore) segment srcIp dstIp response).1 hopening

theorem emptyHandshake_run {socket : TcpSocket} (hbegins : BeginsConnection socket)
    (actions : List TcpSenderAction) :
    EmptyHandshake ((TcpSender.initial socket).run actions).socket := by
  have hrun : ∀ e : TcpSender, EmptyHandshake e.socket → EmptyHandshake (e.run actions).socket := by
    induction actions with
    | nil => exact fun _ h => h
    | cons action actions ih => exact fun e h => ih (e.step action) (emptyHandshake_step h action)
  refine hrun _ ?_
  cases hbegins
  all_goals exact fun _ => ⟨rfl, rfl⟩

/-- A connection is established with nothing out of order. -/
theorem EntersEstablished.inOrder {socket : TcpSocket} (h : EntersEstablished socket) :
    InOrder socket := by
  cases h with
  | @segment begun begins actions segment srcIp dstIp response before after =>
      have hadvance := tcpSocketReceiveSegment_stateAdvance
        ((TcpSender.initial begun).run actions).socket segment srcIp dstIp response
      have hopening : ((TcpSender.initial begun).run actions).socket.state.pastHandshake = false := by
        by_contra hpast
        exact before (hadvance.established ((Bool.not_eq_false _).mp hpast) after)
      exact (receive_handshake hopening (emptyHandshake_run begins actions hopening) segment srcIp
        dstIp response).2 after

/-! ## Runs of an established connection -/

/-- Buffering a payload does not look at the send side. -/
theorem tcpBufferPayload_withSendSide (socket : TcpSocket) (sendBuffer : TcpSendBuffer)
    (sendAck seqNum : UInt32) (payload : List UInt8) :
    (tcpBufferPayload { socket with sendBuffer := sendBuffer, sendAck := sendAck } seqNum payload).2 =
      { (tcpBufferPayload socket seqNum payload).2 with
        sendBuffer := sendBuffer
        sendAck := sendAck } := by
  simp only [tcpBufferPayload]
  split
  · rfl
  · split
    · rfl
    · split
      · rfl
      · split
        all_goals rfl

/-- Acknowledging leaves an empty send buffer empty. -/
theorem tcpAcknowledgeData_sendSide (socket : TcpSocket) (ackNum : UInt32) :
    ∃ sendBuffer sendAck, tcpAcknowledgeData socket ackNum =
        { socket with sendBuffer := sendBuffer, sendAck := sendAck } ∧
      (socket.sendBuffer.data = [] → sendBuffer.data = []) := by
  rw [tcpAcknowledgeData]
  split
  · exact ⟨_, _, rfl, id⟩
  · refine ⟨_, _, rfl, fun hempty => ?_⟩
    rw [hempty, List.length_nil, Nat.min_zero, if_neg (lt_irrefl 0)]
    exact hempty

/-- What a segment without a FIN does to an established connection: its payload is buffered, and answered
with the acknowledgement of the socket's numbers. -/
theorem tcpSocketReceiveSegment_noFin {socket : TcpSocket} (hstate : socket.state = .established)
    {segment : TcpSegment} {srcIp dstIp : IpAddress}
    (hvalid : tcpValidateChecksum segment srcIp dstIp = true)
    (hfin : segment.hasFlag tcpFlagFin = false) (response : TcpSegment) :
    let outcome := tcpSocketReceiveSegment socket segment srcIp dstIp response
    (∃ sendBuffer sendAck, outcome.socket =
        { (tcpBufferPayload socket segment.seqNum segment.payload).2 with
          sendBuffer := sendBuffer
          sendAck := sendAck } ∧ (socket.sendBuffer.data = [] → sendBuffer.data = [])) ∧
      (segment.payload ≠ [] →
        outcome.accepted = true ∧ outcome.response = tcpPrepareAck outcome.socket) := by
  have hacknowledged : ∃ sendBuffer sendAck,
      (if segment.hasFlag tcpFlagAck then tcpAcknowledgeData socket segment.ackNum else socket) =
        { socket with sendBuffer := sendBuffer, sendAck := sendAck } ∧
      (socket.sendBuffer.data = [] → sendBuffer.data = []) := by
    split
    · exact tcpAcknowledgeData_sendSide socket segment.ackNum
    · exact ⟨_, _, rfl, id⟩
  obtain ⟨sendBuffer, sendAck, hacknowledged, hempty⟩ := hacknowledged
  rw [tcpSocketReceiveSegment, if_pos hvalid, tcpReceiveByState, hstate]
  simp only [tcpReceiveEstablished, hfin, Bool.false_eq_true, if_false, hacknowledged]
  have hsocket := tcpBufferPayload_withSendSide socket sendBuffer sendAck segment.seqNum
    segment.payload
  split
  · exact ⟨⟨sendBuffer, sendAck, hsocket, hempty⟩, fun _ => ⟨rfl, rfl⟩⟩
  · rename_i hnone
    have hpayload : segment.payload = [] := by simpa using hnone
    refine ⟨?_, fun hdata => absurd hpayload hdata⟩
    split
    · exact ⟨sendBuffer, sendAck, hsocket, hempty⟩
    · exact ⟨sendBuffer, sendAck, hsocket, hempty⟩

/-- The peer sends its next bytes, or the application reads. -/
inductive InOrderAction
  | segment (payload : List UInt8) (fits : payload.length ≤ tcpMaxPayload)
  | recv (maxLen : Nat)

/-- The socket, and the number of the peer's next byte. -/
structure InOrderState where
  socket : TcpSocket
  nextSeq : UInt32

namespace InOrderState

/-- One step; the peer sends every byte once. -/
def step (e : InOrderState) : InOrderAction → InOrderState
  | .segment payload _ =>
      { socket := (tcpBufferPayload e.socket e.nextSeq payload).2
        nextSeq := e.nextSeq + UInt32.ofNat payload.length }
  | .recv maxLen => { e with socket := (tcpSocketRecv e.socket maxLen).2 }

def run (e : InOrderState) (actions : List InOrderAction) : InOrderState :=
  actions.foldl step e

/-- The state before the action with a number. -/
def before (e : InOrderState) (actions : List InOrderAction) (i : Nat) : InOrderState :=
  e.run (actions.take i)

/-- The payload from `seqNum` on lies in the window that the acknowledgement advertises. -/
def Promised (ack : TcpSegment) (seqNum : UInt32) (payload : List UInt8) : Prop :=
  (seqNum - ack.ackNum).toNat + payload.length ≤ ack.window.toNat

/-- Every payload of the run that lies in the window of an acknowledgement the socket emitted before is
accepted whole. -/
def HonoursWindow (e : InOrderState) (actions : List InOrderAction) : Prop :=
  ∀ i payload fits, actions[i]? = some (.segment payload fits) →
    ∀ j ≤ i, Promised (tcpPrepareAck (e.before actions j).socket) (e.before actions i).nextSeq payload →
      AcceptedWhole (e.before actions i).socket (e.before actions i).nextSeq payload

/-- Every payload of the run fits behind the bytes that are unread when it arrives. -/
def FitsUnread (e : InOrderState) (actions : List InOrderAction) : Prop :=
  ∀ i payload fits, actions[i]? = some (.segment payload fits) →
    (e.before actions i).socket.recvBuffer.data.length + payload.length ≤ tcpSocketBufferSize

/-- The socket has taken all that the peer sent. -/
structure InStep (e : InOrderState) : Prop where
  inOrder : InOrder e.socket
  nextSeq_eq : e.nextSeq = e.socket.recvSeq

theorem before_succ {e : InOrderState} {actions : List InOrderAction} {i : Nat}
    {action : InOrderAction} (h : actions[i]? = some action) :
    e.before actions (i + 1) = (e.before actions i).step action := by
  rw [before, before, run, List.take_add_one, h, List.foldl_append]
  rfl

theorem InStep.step {e : InOrderState} (h : e.InStep) {action : InOrderAction}
    (hfits : ∀ payload fits, action = .segment payload fits →
      e.socket.recvBuffer.data.length + payload.length ≤ tcpSocketBufferSize) :
    (e.step action).InStep := by
  cases action with
  | segment payload fits =>
      have hwhole := (h.inOrder.acceptedWhole_iff payload).mpr (hfits payload fits rfl)
      simp only [InOrderState.step, h.nextSeq_eq]
      exact ⟨h.inOrder.next payload, hwhole.2.1.symm⟩
  | recv maxLen =>
      have hseq : (tcpSocketRecv e.socket maxLen).2.recvSeq = e.socket.recvSeq := by
        rw [tcpSocketRecv]
        split
        all_goals rfl
      exact ⟨h.inOrder.recv maxLen, h.nextSeq_eq.trans hseq.symm⟩

/-- As long as what arrived has fitted, the socket is in step with its peer. -/
theorem InStep.before {e : InOrderState} (h : e.InStep) (actions : List InOrderAction) (i : Nat)
    (hfits : ∀ k < i, ∀ payload fits, actions[k]? = some (.segment payload fits) →
      (e.before actions k).socket.recvBuffer.data.length + payload.length ≤ tcpSocketBufferSize) :
    (e.before actions i).InStep := by
  induction i with
  | zero => exact h
  | succ i ih =>
      have hbefore := ih fun k hk => hfits k (Nat.lt_succ_of_lt hk)
      cases haction : actions[i]? with
      | none =>
          rw [InOrderState.before, List.take_add_one, haction, Option.toList_none, List.append_nil]
          exact hbefore
      | some action =>
          rw [before_succ haction]
          refine hbefore.step fun payload fits heq => ?_
          subst heq
          exact hfits i (Nat.lt_succ_self i) payload fits haction

theorem tcpPrepareAck_window (socket : TcpSocket) :
    (tcpPrepareAck socket).window = tcpWindowSize := by
  obtain ⟨_, h⟩ := tcpStoreChecksum_frame
    { tcpInit with
      srcPort := socket.localPort
      dstPort := socket.remotePort
      seqNum := socket.sendSeq
      ackNum := socket.recvSeq
      flags := tcpFlagAck
      window := tcpWindowSize } tcpHeaderSize socket.localIp socket.remoteIp
  rw [tcpPrepareAck, h]

/-- The acknowledgement sent last promises the next payload, whatever is unread. -/
theorem InStep.promised {e : InOrderState} (h : e.InStep) {payload : List UInt8}
    (fits : payload.length ≤ tcpMaxPayload) :
    Promised (tcpPrepareAck e.socket) e.nextSeq payload := by
  have hack : (tcpPrepareAck e.socket).ackNum = e.socket.recvSeq := tcpStoreChecksum_ackNum ..
  have hzero : (e.socket.recvSeq - e.socket.recvSeq).toNat = 0 := by rw [UInt32.sub_self]; rfl
  rw [Promised, hack, tcpPrepareAck_window, h.nextSeq_eq, hzero, Nat.zero_add]
  exact fits.trans (by decide)

theorem InStep.honoursWindow_iff {e : InOrderState} (h : e.InStep) (actions : List InOrderAction) :
    e.HonoursWindow actions ↔ e.FitsUnread actions := by
  constructor
  · intro hhonours i
    induction i using Nat.strong_induction_on with
    | _ i ih =>
        intro payload fits haction
        have hstep := h.before actions i ih
        have hwhole := hhonours i payload fits haction i le_rfl (hstep.promised fits)
        rw [hstep.nextSeq_eq] at hwhole
        exact (hstep.inOrder.acceptedWhole_iff payload).mp hwhole
  · intro hfits i payload fits haction j _ _
    have hstep := h.before actions i fun k _ => hfits k
    rw [hstep.nextSeq_eq]
    exact (hstep.inOrder.acceptedWhole_iff payload).mpr (hfits i payload fits haction)

/-- An established socket, and the peer with its next byte to send. -/
def initial (socket : TcpSocket) : InOrderState :=
  { socket := socket, nextSeq := socket.recvSeq }

/-- From the entry into ESTABLISHED on, with a peer that sends its bytes once and in order and an
application that reads: every payload that an acknowledgement has promised to take is accepted whole if
and only if each payload fits behind the unread bytes. -/
theorem window_honoured_iff {socket : TcpSocket} (hentered : EntersEstablished socket)
    (actions : List InOrderAction) :
    (initial socket).HonoursWindow actions ↔ (initial socket).FitsUnread actions :=
  InStep.honoursWindow_iff ⟨hentered.inOrder, rfl⟩ actions

/-! ## A slow reader -/

/-- The client of a connection, right after the SYN-ACK. -/
def establishedClient : TcpSocket :=
  (tcpSocketReceiveSegment
    ((TcpSender.initial (tcpSocketConnect tcpSocketAllocated TcpSender.clientIp 2080
      TcpSender.serverIp 80)).run []).socket
    (TcpSender.serverSegment 5000 1001 tcpFlagSynAck) TcpSender.serverIp TcpSender.clientIp
    tcpInit).socket

theorem establishedClient_enters : EntersEstablished establishedClient :=
  .segment (.connect TcpSender.clientIp 2080 TcpSender.serverIp 80) []
    (TcpSender.serverSegment 5000 1001 tcpFlagSynAck) TcpSender.serverIp TcpSender.clientIp tcpInit
    (by decide +kernel) (by decide +kernel)

theorem window_honoured_iff_reader :
    (initial establishedClient).HonoursWindow
      [.segment [1, 2, 3] (by decide), .recv 2, .segment [4] (by decide)] := by
  refine (window_honoured_iff establishedClient_enters _).mpr fun i payload fits haction => ?_
  have hpayload : i = 0 ∧ payload = [1, 2, 3] ∨ i = 2 ∧ payload = [4] := by
    rcases i with _ | _ | _ | i
    all_goals simp at haction
    · exact Or.inl ⟨rfl, haction.symm⟩
    · exact Or.inr ⟨rfl, haction.symm⟩
  rcases hpayload with ⟨rfl, rfl⟩ | ⟨rfl, rfl⟩
  all_goals decide +kernel

/-- A payload of the largest size. -/
def fullPayload : List UInt8 :=
  List.replicate tcpMaxPayload 0

theorem fullPayload_length : fullPayload.length = tcpMaxPayload :=
  List.length_replicate

/-- Nothing is read: the third of three full segments is discarded. -/
theorem window_honoured_iff_slowReader :
    EntersEstablished establishedClient ∧
      ¬(initial establishedClient).HonoursWindow
        (List.replicate 3 (.segment fullPayload fullPayload_length.le)) := by
  refine ⟨establishedClient_enters, fun hhonours => ?_⟩
  have hstep : (initial establishedClient).InStep := ⟨establishedClient_enters.inOrder, rfl⟩
  have hfits := (hstep.honoursWindow_iff _).mp hhonours
  have hunread : ∀ i, i ≤ 2 → ((initial establishedClient).before
      (List.replicate 3 (.segment fullPayload fullPayload_length.le)) i).socket.recvBuffer.data.length =
        i * tcpMaxPayload := by
    intro i hi
    induction i with
    | zero => decide +kernel
    | succ i ih =>
        have haction : (List.replicate 3
            (InOrderAction.segment fullPayload fullPayload_length.le))[i]? =
              some (.segment fullPayload fullPayload_length.le) := by
          rw [List.getElem?_replicate, if_pos (by omega)]
        have hbefore := InStep.before hstep (List.replicate 3
          (.segment fullPayload fullPayload_length.le)) i fun k _ => hfits k
        have hwhole := (hbefore.inOrder.acceptedWhole_iff fullPayload).mpr
          (hfits i fullPayload fullPayload_length.le haction)
        rw [before_succ haction]
        simp only [InOrderState.step, hbefore.nextSeq_eq]
        rw [hwhole.2.2, List.length_append, ih (by omega), fullPayload_length, Nat.succ_mul]
  have hthird := hfits 2 fullPayload fullPayload_length.le rfl
  rw [hunread 2 le_rfl, fullPayload_length] at hthird
  exact absurd hthird (by decide)

end InOrderState

end MagiStack
