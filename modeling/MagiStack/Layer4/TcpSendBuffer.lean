import MagiStack.Layer4.TcpAdvance
import MagiStack.Library.StatusCall

/-!
# TcpSendBuffer — the bytes that wait for an acknowledgement

One socket from `tcp_socket_connect`, or from the child that a SYN makes, on: the application sends and
receives, and segments with any numbers arrive.  While the connection is established the send buffer
holds what was sent and not yet acknowledged.
-/

namespace MagiStack

open StatusCall

/-! ## Runs of one socket -/

/-- `tcp_socket_send` with its writes. -/
def tcpSocketSendCall (data : List UInt8) : StateM TcpSocket Bool := do
  let socket ← get
  if data.isEmpty then
    return false
  if socket.state ≠ .established then
    return false
  if tcpSocketBufferSize < socket.sendBuffer.data.length + data.length then
    return false
  if socket.sendBuffer.data.isEmpty then
    modify fun socket => { socket with sendBuffer.startSeq := socket.sendSeq }
  modify fun socket => { socket with sendBuffer.data := socket.sendBuffer.data ++ data }
  return true

theorem tcpSocketSendCall_commits (data : List UInt8) :
    Commits (tcpSocketSendCall data) fun socket => tcpSocketSend socket data := by
  intro socket
  simp only [tcpSocketSendCall, StateT.run_bind, StateT.run_get, pure_bind, tcpSocketSend]
  split_ifs
  all_goals rfl

/-- A socket, the bytes of its successful sends, and the number `send_seq` had when the connection was
established. -/
structure TcpSender where
  socket : TcpSocket
  sent : List UInt8
  firstSeq : UInt32

inductive TcpSenderAction
  | send (data : List UInt8)
  | recv (maxLen : Nat)
  | receive (segment : TcpSegment) (srcIp dstIp : IpAddress) (response : TcpSegment)

/-- The socket of a connection that begins: after `tcp_socket_connect` in a new slot, or the child of a
listener. -/
inductive BeginsConnection : TcpSocket → Prop
  | connect (localIp : IpAddress) (srcPort : UInt16) (remoteIp : IpAddress) (dstPort : UInt16) :
      BeginsConnection (tcpSocketConnect tcpSocketAllocated localIp srcPort remoteIp dstPort)
  | child (listener : Fin tcpMaxSockets) (listenerIp : IpAddress) (segment : TcpSegment)
      (srcIp : IpAddress) : BeginsConnection (tcpChildSocket listener listenerIp segment srcIp)

namespace TcpSender

/-- Nothing is sent yet. -/
def initial (socket : TcpSocket) : TcpSender :=
  { socket := socket, sent := [], firstSeq := socket.sendSeq }

/-- One step.  After a successful `tcp_socket_send` its caller moves `send_seq` past the data. -/
def step (e : TcpSender) : TcpSenderAction → TcpSender
  | .send data =>
      match tcpSocketSend e.socket data with
      | none => e
      | some socket =>
          { e with
            socket := { socket with sendSeq := socket.sendSeq + UInt32.ofNat data.length }
            sent := e.sent ++ data }
  | .recv maxLen => { e with socket := (tcpSocketRecv e.socket maxLen).2 }
  | .receive segment srcIp dstIp response =>
      let socket := (tcpSocketReceiveSegment e.socket segment srcIp dstIp response).socket
      { e with
        socket := socket
        firstSeq := if e.socket.state = .established then e.firstSeq else socket.sendSeq }

/-- The state after a list of actions. -/
def run (e : TcpSender) (actions : List TcpSenderAction) : TcpSender :=
  actions.foldl step e

/-- `send_seq` has not passed the largest number since the connection was established. -/
def NoWrap (e : TcpSender) : Prop :=
  e.firstSeq.toNat + e.sent.length < 2 ^ 32

instance (e : TcpSender) : Decidable e.NoWrap :=
  inferInstanceAs (Decidable (_ < _))

/-- The send side accounts for everything that was sent and not acknowledged. -/
structure HoldsUnacknowledged (e : TcpSender) : Prop where
  sendSeq_eq : e.socket.sendSeq.toNat = e.firstSeq.toNat + e.sent.length
  sendAck_add : e.socket.sendAck.toNat + e.socket.sendBuffer.data.length = e.socket.sendSeq.toNat
  data_suffix : e.socket.sendBuffer.data <:+ e.sent
  startSeq_eq : e.socket.sendBuffer.data ≠ [] → e.socket.sendBuffer.startSeq = e.socket.sendAck

/-- The fields of the send side. -/
def sendSide (socket : TcpSocket) : UInt32 × UInt32 × TcpSendBuffer :=
  (socket.sendSeq, socket.sendAck, socket.sendBuffer)

end TcpSender

/-! ## Segments -/

section Segments

open TcpSender

variable (socket : TcpSocket) (segment response : TcpSegment)

@[simp] theorem tcpBufferPayload_sendSide (seqNum : UInt32) (payload : List UInt8) :
    sendSide (tcpBufferPayload socket seqNum payload).2 = sendSide socket := by
  obtain ⟨_, _, _, h⟩ := tcpBufferPayload_frame socket seqNum payload
  rw [h]
  rfl

@[simp] theorem tcpReceiveFin_sendSide (next : TcpState) :
    sendSide (tcpReceiveFin socket segment next).socket = sendSide socket := by
  rw [tcpReceiveFin]
  split
  all_goals rfl

/-- In ESTABLISHED only an acknowledgement touches the send side. -/
theorem tcpReceiveEstablished_sendSide :
    sendSide (tcpReceiveEstablished socket segment response).socket =
      sendSide (if segment.hasFlag tcpFlagAck then tcpAcknowledgeData socket segment.ackNum
        else socket) := by
  simp only [tcpReceiveEstablished]
  generalize (if segment.hasFlag tcpFlagAck then tcpAcknowledgeData socket segment.ackNum
    else socket) = acknowledged
  split
  · rw [tcpReceiveFin_sendSide, tcpBufferPayload_sendSide]
  · split
    · exact tcpBufferPayload_sendSide ..
    · split
      all_goals exact tcpBufferPayload_sendSide ..

/-- In the handshake segments leave the send buffer, and establish the connection with equal numbers. -/
theorem tcpSocketReceiveSegment_opening (srcIp dstIp : IpAddress)
    (hopening : socket.state.pastHandshake = false) :
    let after := (tcpSocketReceiveSegment socket segment srcIp dstIp response).socket
    after.sendBuffer = socket.sendBuffer ∧
      (after.state = .established → after.sendAck = after.sendSeq) := by
  -- A socket that ignores the segment is still in the handshake.
  have hignored : socket.state = .established → socket.sendAck = socket.sendSeq := fun h => by
    rw [h] at hopening
    cases hopening
  simp only [tcpSocketReceiveSegment]
  split
  · rw [tcpReceiveByState]
    cases hstate : socket.state with
    | listen =>
        simp only [tcpReceiveListen]
        split
        · exact ⟨rfl, fun h => by cases h⟩
        · exact ⟨rfl, hignored⟩
    | synSent =>
        simp only [tcpReceiveSynSent]
        split
        · exact ⟨rfl, fun _ => rfl⟩
        · exact ⟨rfl, hignored⟩
    | synReceived =>
        simp only [tcpReceiveSynReceived]
        split
        · split
          · exact ⟨rfl, fun _ => rfl⟩
          · simp only [tcpAnswer]
            obtain ⟨_, _, _, h⟩ := tcpBufferPayload_frame
              { socket with
                sendAck := segment.ackNum
                sendSeq := segment.ackNum
                state := .established } segment.seqNum segment.payload
            rw [h]
            exact ⟨rfl, fun _ => rfl⟩
        · exact ⟨rfl, hignored⟩
    | _ =>
        rw [hstate] at hopening
        cases hopening
  · exact ⟨rfl, hignored⟩

/-- An acknowledgement that is out of range changes nothing of the send side. -/
theorem tcpSocketReceiveSegment_outOfRange {srcIp dstIp : IpAddress}
    (hstate : socket.state = .established)
    (hrange : segment.ackNum ≤ socket.sendAck ∨ socket.sendSeq < segment.ackNum) :
    sendSide (tcpSocketReceiveSegment socket segment srcIp dstIp response).socket =
      sendSide socket := by
  rw [tcpSocketReceiveSegment]
  split
  · rw [tcpReceiveByState, hstate]
    simp only
    rw [tcpReceiveEstablished_sendSide, tcpAcknowledgeData, if_pos hrange, ite_self]
  · rfl

end Segments

/-! ## Steps -/

namespace TcpSender

/-- Before the handshake is over nothing is sent; then the send side accounts for everything. -/
structure Ok (e : TcpSender) : Prop where
  opening : e.socket.state.pastHandshake = false → e.socket.sendBuffer.data = [] ∧ e.sent = []
  holds : e.socket.state = .established → e.NoWrap → e.HoldsUnacknowledged

theorem initial_ok {socket : TcpSocket} (h : BeginsConnection socket) : (initial socket).Ok := by
  cases h with
  | connect localIp srcPort remoteIp dstPort => exact ⟨fun _ => ⟨rfl, rfl⟩, nofun⟩
  | child listener listenerIp segment srcIp => exact ⟨fun _ => ⟨rfl, rfl⟩, nofun⟩

/-- `tcp_acknowledge_data` drops what is acknowledged from the front. -/
theorem HoldsUnacknowledged.acknowledge {e : TcpSender} (h : e.HoldsUnacknowledged)
    (ackNum : UInt32) :
    HoldsUnacknowledged { e with socket := tcpAcknowledgeData e.socket ackNum } := by
  rw [tcpAcknowledgeData]
  split
  · exact h
  · rename_i hrange
    rw [not_or, UInt32.le_iff_toNat_le, UInt32.lt_iff_toNat_lt, not_le, not_lt] at hrange
    obtain ⟨habove, hbelow⟩ := hrange
    have hadd := h.sendAck_add
    have hsub : (ackNum - e.socket.sendAck).toNat = ackNum.toNat - e.socket.sendAck.toNat :=
      UInt32.toNat_sub_of_le _ _ (UInt32.le_iff_toNat_le.mpr habove.le)
    have hle : (ackNum - e.socket.sendAck).toNat ≤ e.socket.sendBuffer.data.length := by omega
    -- Within the range the clamp never applies, and at least one byte is acknowledged.
    simp only [Nat.min_eq_left hle]
    rw [if_pos (by omega)]
    refine ⟨h.sendSeq_eq, ?_, ?_, fun _ => rfl⟩
    · simp only [List.length_drop]
      omega
    · exact (List.drop_suffix _ _).trans h.data_suffix

/-- The facts read the send side alone. -/
theorem HoldsUnacknowledged.congr {e e' : TcpSender} (h : e.HoldsUnacknowledged)
    (hside : sendSide e'.socket = sendSide e.socket) (hsent : e'.sent = e.sent)
    (hfirst : e'.firstSeq = e.firstSeq) : e'.HoldsUnacknowledged := by
  simp only [sendSide, Prod.mk.injEq] at hside
  obtain ⟨hseq, hack, hbuffer⟩ := hside
  refine ⟨?_, ?_, ?_, ?_⟩
  · rw [hseq, hfirst, hsent]
    exact h.sendSeq_eq
  · rw [hack, hbuffer, hseq]
    exact h.sendAck_add
  · rw [hbuffer, hsent]
    exact h.data_suffix
  · rw [hbuffer, hack]
    exact h.startSeq_eq

/-- A successful `tcp_socket_send` adds its bytes at the end. -/
theorem HoldsUnacknowledged.send {e : TcpSender} (h : e.HoldsUnacknowledged) {data : List UInt8}
    {socket : TcpSocket} (hsend : tcpSocketSend e.socket data = some socket)
    (hwrap : e.firstSeq.toNat + (e.sent ++ data).length < 2 ^ 32) :
    HoldsUnacknowledged
      { e with
        socket := { socket with sendSeq := socket.sendSeq + UInt32.ofNat data.length }
        sent := e.sent ++ data } := by
  obtain ⟨-, -, rfl⟩ := tcpSocketSend_eq_some hsend
  have hseq := h.sendSeq_eq
  have hadd := h.sendAck_add
  rw [List.length_append] at hwrap
  have hnext : (e.socket.sendSeq + UInt32.ofNat data.length).toNat =
      e.socket.sendSeq.toNat + data.length := by
    rw [UInt32.toNat_add, UInt32.toNat_ofNat']
    omega
  refine ⟨?_, ?_, ?_, fun _ => ?_⟩
  · simp only [hnext, List.length_append]
    omega
  · simp only [hnext, List.length_append]
    omega
  · obtain ⟨before, hbefore⟩ := h.data_suffix
    exact ⟨before, by simp only [← hbefore, List.append_assoc]⟩
  · simp only
    split
    · rename_i hempty
      rw [List.isEmpty_iff.mp hempty, List.length_nil, Nat.add_zero] at hadd
      exact UInt32.toNat_inj.mp hadd.symm
    · rename_i hempty
      exact h.startSeq_eq fun hnil => hempty (List.isEmpty_iff.mpr hnil)

/-- A segment that arrives in ESTABLISHED. -/
theorem HoldsUnacknowledged.receive {e : TcpSender} (h : e.HoldsUnacknowledged)
    (hstate : e.socket.state = .established) (segment : TcpSegment) (srcIp dstIp : IpAddress)
    (response : TcpSegment) :
    (e.step (.receive segment srcIp dstIp response)).HoldsUnacknowledged := by
  simp only [TcpSender.step, hstate, if_true, tcpSocketReceiveSegment]
  split
  · rw [tcpReceiveByState, hstate]
    have hside := tcpReceiveEstablished_sendSide e.socket segment response
    by_cases hack : segment.hasFlag tcpFlagAck = true
    · rw [if_pos hack] at hside
      exact (h.acknowledge segment.ackNum).congr hside rfl rfl
    · rw [if_neg hack] at hside
      exact h.congr hside rfl rfl
  · exact h

theorem NoWrap.of_append {e : TcpSender} {data : List UInt8}
    (h : e.firstSeq.toNat + (e.sent ++ data).length < 2 ^ 32) : e.NoWrap := by
  rw [List.length_append] at h
  rw [NoWrap]
  omega

theorem Ok.step {e : TcpSender} (h : e.Ok) (action : TcpSenderAction) : (e.step action).Ok := by
  cases action with
  | send data =>
      simp only [TcpSender.step]
      cases hsend : tcpSocketSend e.socket data with
      | none => exact h
      | some socket =>
          refine ⟨fun hopening => ?_, fun _ hwrap => ?_⟩
          · obtain ⟨hstate, -, rfl⟩ := tcpSocketSend_eq_some hsend
            simp only [hstate] at hopening
            cases hopening
          · obtain ⟨hstate, -⟩ := tcpSocketSend_eq_some hsend
            exact (h.holds hstate (NoWrap.of_append hwrap)).send hsend hwrap
  | recv maxLen =>
      have hstate := tcpSocketRecv_state e.socket maxLen
      have hside : sendSide (tcpSocketRecv e.socket maxLen).2 = sendSide e.socket := by
        rw [tcpSocketRecv]
        split
        all_goals rfl
      have hbuffer : (tcpSocketRecv e.socket maxLen).2.sendBuffer = e.socket.sendBuffer :=
        congrArg (fun side => side.2.2) hside
      refine ⟨fun hopening => ?_, fun hestablished hwrap => ?_⟩
      · simp only [TcpSender.step] at hopening ⊢
        rw [hbuffer]
        exact h.opening (hstate ▸ hopening)
      · exact (h.holds (hstate ▸ hestablished) hwrap).congr hside rfl rfl
  | receive segment srcIp dstIp response =>
      have hadvance := tcpSocketReceiveSegment_stateAdvance e.socket segment srcIp dstIp response
      -- No state leads back into the handshake, so that what opens now was opening before.
      refine ⟨fun hopening => ?_, fun hestablished hwrap => ?_⟩
      · have hbefore : e.socket.state.pastHandshake = false := by
          by_contra hpast
          have hafter := hadvance.pastHandshake ((Bool.not_eq_false _).mp hpast)
          exact absurd (hopening.symm.trans hafter) (by decide)
        obtain ⟨hbuffer, -⟩ := tcpSocketReceiveSegment_opening e.socket segment response
          srcIp dstIp hbefore
        simp only [TcpSender.step]
        rw [hbuffer]
        exact h.opening hbefore
      · by_cases hbefore : e.socket.state = .established
        · have hwrap' : e.NoWrap := by
            simpa only [TcpSender.step, NoWrap, hbefore, if_true] using hwrap
          exact (h.holds hbefore hwrap').receive hbefore segment srcIp dstIp response
        · have hopening : e.socket.state.pastHandshake = false := by
            by_contra hpast
            exact hbefore (hadvance.established ((Bool.not_eq_false _).mp hpast) hestablished)
          -- The connection is made by this segment, with nothing sent yet.
          obtain ⟨hbuffer, hequal⟩ := tcpSocketReceiveSegment_opening e.socket segment response
            srcIp dstIp hopening
          obtain ⟨hempty, hsent⟩ := h.opening hopening
          simp only [TcpSender.step, if_neg hbefore]
          refine ⟨by simp [hsent], ?_, ?_, ?_⟩
          · simp [hbuffer, hempty, hequal hestablished]
          · simp [hbuffer, hempty]
          · simp [hbuffer, hempty]

theorem Ok.run {e : TcpSender} (h : e.Ok) (actions : List TcpSenderAction) : (e.run actions).Ok := by
  rw [TcpSender.run]
  induction actions generalizing e with
  | nil => exact h
  | cons action actions ih => exact ih (h.step action)

/-! ## Acknowledgements over a run -/

theorem step_stateAdvance (e : TcpSender) (action : TcpSenderAction) :
    StateAdvance e.socket.state (e.step action).socket.state := by
  cases action with
  | send data =>
      simp only [step]
      split
      · exact StateAdvance.refl _
      · rename_i socket hsend
        obtain ⟨-, -, rfl⟩ := tcpSocketSend_eq_some hsend
        exact StateAdvance.refl _
  | recv maxLen =>
      simp only [step, tcpSocketRecv_state]
      exact StateAdvance.refl _
  | receive segment srcIp dstIp response =>
      exact tcpSocketReceiveSegment_stateAdvance e.socket segment srcIp dstIp response

theorem run_stateAdvance (e : TcpSender) (actions : List TcpSenderAction) :
    StateAdvance e.socket.state (e.run actions).socket.state := by
  rw [run]
  induction actions generalizing e with
  | nil => exact StateAdvance.refl _
  | cons action actions ih => exact (e.step_stateAdvance action).trans (ih (e.step action))

theorem sendAck_le_acknowledge (socket : TcpSocket) (ackNum : UInt32) :
    socket.sendAck ≤ (tcpAcknowledgeData socket ackNum).sendAck := by
  rw [tcpAcknowledgeData]
  split
  · exact UInt32.le_refl _
  · rename_i hrange
    rw [not_or] at hrange
    exact UInt32.le_of_lt (UInt32.not_le.mp hrange.1)

theorem sendAck_le_step {e : TcpSender} (hstate : e.socket.state = .established)
    (action : TcpSenderAction) : e.socket.sendAck ≤ (e.step action).socket.sendAck := by
  cases action with
  | send data =>
      simp only [step]
      split
      · exact UInt32.le_refl _
      · rename_i socket hsend
        obtain ⟨-, -, rfl⟩ := tcpSocketSend_eq_some hsend
        exact UInt32.le_refl _
  | recv maxLen =>
      simp only [step, tcpSocketRecv]
      split
      all_goals exact UInt32.le_refl _
  | receive segment srcIp dstIp response =>
      simp only [step, tcpSocketReceiveSegment]
      split
      · rw [tcpReceiveByState, hstate]
        have hack := congrArg (fun side => side.2.1)
          (tcpReceiveEstablished_sendSide e.socket segment response)
        simp only [sendSide] at hack ⊢
        rw [hack]
        split
        · exact sendAck_le_acknowledge e.socket segment.ackNum
        · exact UInt32.le_refl _
      · exact UInt32.le_refl _

/-- While the connection stays established no acknowledgement is taken back. -/
theorem sendAck_le_run {e : TcpSender} (hstate : e.socket.state = .established)
    (actions : List TcpSenderAction)
    (hafter : (e.run actions).socket.state = .established) :
    e.socket.sendAck ≤ (e.run actions).socket.sendAck := by
  induction actions generalizing e with
  | nil => exact UInt32.le_refl _
  | cons action actions ih =>
      have hpast : (e.step action).socket.state.pastHandshake = true :=
        (e.step_stateAdvance action).pastHandshake (by rw [hstate]; rfl)
      have hnext : (e.step action).socket.state = .established :=
        ((e.step action).run_stateAdvance actions).established hpast hafter
      exact UInt32.le_trans (sendAck_le_step hstate action) (ih hnext hafter)

/-- Whenever the connection of a socket is established and its numbers have not wrapped, the send buffer
holds the bytes sent last that are not acknowledged, `send_ack` never decreases while it stays
established, and neither an acknowledgement out of range nor a failed send changes the send side. -/
theorem sendBuffer_holds_unacknowledged {socket : TcpSocket} (hbegins : BeginsConnection socket)
    (actions : List TcpSenderAction)
    (hstate : ((initial socket).run actions).socket.state = .established)
    (hwrap : ((initial socket).run actions).NoWrap) :
    let e := (initial socket).run actions
    e.HoldsUnacknowledged ∧
      (∀ more, (e.run more).socket.state = .established →
        e.socket.sendAck ≤ (e.run more).socket.sendAck) ∧
      (∀ segment srcIp dstIp response,
        segment.ackNum ≤ e.socket.sendAck ∨ e.socket.sendSeq < segment.ackNum →
          sendSide (e.step (.receive segment srcIp dstIp response)).socket = sendSide e.socket) ∧
      (∀ data, ((tcpSocketSendCall data).run e.socket).1 = false →
        ((tcpSocketSendCall data).run e.socket).2 = e.socket ∧ e.step (.send data) = e) := by
  refine ⟨((initial_ok hbegins).run actions).holds hstate hwrap, ?_, ?_, ?_⟩
  · exact fun more hafter => sendAck_le_run hstate more hafter
  · exact fun segment srcIp dstIp response hrange =>
      tcpSocketReceiveSegment_outOfRange _ segment response hstate hrange
  · intro data hfails
    refine ⟨(tcpSocketSendCall_commits data).keeps hfails, ?_⟩
    simp only [step, (tcpSocketSendCall_commits data).fails_iff.mp hfails]

/-! ## A client -/

def clientIp : IpAddress := ⟨10, 0, 0, 1, 24⟩
def serverIp : IpAddress := ⟨10, 0, 0, 2, 24⟩

/-- A segment of the server for the client's port 2080. -/
def serverSegment (seqNum ackNum : UInt32) (flags : UInt8) : TcpSegment :=
  tcpStoreChecksum
    { tcpInit with
      srcPort := 80
      dstPort := 2080
      seqNum := seqNum
      ackNum := ackNum
      flags := flags
      window := tcpWindowSize }
    tcpHeaderSize serverIp clientIp

/-- The SYN-ACK, five bytes, and acknowledgements for two of them and for more than was sent. -/
def fiveBytesActions : List TcpSenderAction :=
  [.receive (serverSegment 5000 1001 tcpFlagSynAck) serverIp clientIp tcpInit,
    .send [1, 2, 3], .send [4, 5],
    .receive (serverSegment 5001 1003 tcpFlagAck) serverIp clientIp tcpInit,
    .receive (serverSegment 5001 9000 tcpFlagAck) serverIp clientIp tcpInit]

theorem sendBuffer_holds_unacknowledged_fiveBytes :
    let e := (initial (tcpSocketConnect tcpSocketAllocated clientIp 2080 serverIp 80)).run
      fiveBytesActions
    e.socket.sendBuffer.data = [3, 4, 5] ∧ e.HoldsUnacknowledged := by
  refine ⟨by decide +kernel, ?_⟩
  exact (sendBuffer_holds_unacknowledged (.connect clientIp 2080 serverIp 80) fiveBytesActions
    (by decide +kernel) (by decide +kernel)).1

end TcpSender

end MagiStack
