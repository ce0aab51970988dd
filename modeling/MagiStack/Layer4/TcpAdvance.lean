import MagiStack.Layer4.TcpReceive
import MagiStack.Layer4.TcpTable

/-!
# TcpAdvance — the order of the states of a connection

A connection leaves the handshake and the open states for good.  Every operation on a slot moves its
state forward in this sense, except where a slot is handed out anew.
-/

namespace MagiStack

/-! ## States -/

/-- The handshake is over. -/
def TcpState.pastHandshake : TcpState → Bool
  | .listen | .synSent | .synReceived => false
  | _ => true

/-- The application has closed the connection, or the slot holds none. -/
def TcpState.pastClose : TcpState → Bool
  | .finWait1 | .finWait2 | .closing | .timeWait | .lastAck | .closed => true
  | _ => false

/-- A state that may follow: neither the handshake nor the close is undone, and no connection past its
handshake is established again. -/
structure StateAdvance (before after : TcpState) : Prop where
  pastHandshake : before.pastHandshake = true → after.pastHandshake = true
  pastClose : before.pastClose = true → after.pastClose = true
  established : before.pastHandshake = true → after = .established → before = .established

namespace StateAdvance

theorem refl (state : TcpState) : StateAdvance state state :=
  ⟨id, id, fun _ h => h⟩

theorem trans {a b c : TcpState} (hab : StateAdvance a b) (hbc : StateAdvance b c) :
    StateAdvance a c := by
  refine ⟨fun h => hbc.pastHandshake (hab.pastHandshake h), fun h => hbc.pastClose (hab.pastClose h),
    ?_⟩
  intro hpast hest
  exact hab.established hpast (hbc.established (hab.pastHandshake hpast) hest)

/-- Every state may go on to one past the close. -/
theorem of_pastClose (before : TcpState) {after : TcpState} (h : after.pastClose = true) :
    StateAdvance before after := by
  refine ⟨fun _ => ?_, fun _ => h, fun _ hest => ?_⟩
  · cases after
    all_goals first | rfl | cases h
  · rw [hest] at h
    cases h

/-- A state of the handshake may go on to any other. -/
theorem of_handshake {before : TcpState} (after : TcpState) (h : before.pastHandshake = false)  :
    StateAdvance before after := by
  have hclose : before.pastClose = false := by
    cases before
    all_goals first | rfl | cases h
  refine ⟨fun hpast => ?_, fun hpast => ?_, fun hpast => ?_⟩
  · cases h.symm.trans hpast
  · cases hclose.symm.trans hpast
  · cases h.symm.trans hpast

end StateAdvance

/-! ## Arriving segments -/

theorem tcpReceiveFin_stateAdvance {socket : TcpSocket} (segment : TcpSegment) {next : TcpState}
    (h : StateAdvance socket.state next) :
    StateAdvance socket.state (tcpReceiveFin socket segment next).socket.state := by
  rw [tcpReceiveFin]
  split
  · exact StateAdvance.refl _
  · exact h

theorem tcpReceiveEstablished_stateAdvance {socket : TcpSocket}
    (hstate : socket.state = .established) (segment response : TcpSegment) :
    StateAdvance socket.state (tcpReceiveEstablished socket segment response).socket.state := by
  have hack : (if segment.hasFlag tcpFlagAck then tcpAcknowledgeData socket segment.ackNum
      else socket).state = socket.state := by
    split
    · rcases tcpAcknowledgeData_frame socket segment.ackNum with ⟨_, _, h⟩
      rw [h]
    · rfl
  simp only [tcpReceiveEstablished]
  generalize (if segment.hasFlag tcpFlagAck then tcpAcknowledgeData socket segment.ackNum
    else socket) = acknowledged at hack ⊢
  have hbuffered := (tcpBufferPayload_state acknowledged segment.seqNum segment.payload).trans hack
  generalize (tcpBufferPayload acknowledged segment.seqNum segment.payload).2 = buffered
    at hbuffered ⊢
  rw [← hbuffered] at hstate ⊢
  split
  · refine tcpReceiveFin_stateAdvance segment ?_
    rw [hstate]
    exact ⟨by decide, by decide, by decide⟩
  · split
    · exact StateAdvance.refl _
    · split
      all_goals exact StateAdvance.refl _

theorem tcpReceiveFinWait1_stateAdvance (socket : TcpSocket) (segment response : TcpSegment) :
    StateAdvance socket.state (tcpReceiveFinWait1 socket segment response).socket.state := by
  have hbuffered := tcpBufferPayload_state socket segment.seqNum segment.payload
  simp only [tcpReceiveFinWait1]
  generalize (tcpBufferPayload socket segment.seqNum segment.payload).2 = buffered at hbuffered ⊢
  rw [← hbuffered]
  split
  · refine tcpReceiveFin_stateAdvance segment (StateAdvance.of_pastClose _ ?_)
    split
    all_goals rfl
  · split
    · exact StateAdvance.of_pastClose _ rfl
    · split
      all_goals exact StateAdvance.refl _

theorem tcpReceiveFinWait2_stateAdvance (socket : TcpSocket) (segment response : TcpSegment) :
    StateAdvance socket.state (tcpReceiveFinWait2 socket segment response).socket.state := by
  have hbuffered := tcpBufferPayload_state socket segment.seqNum segment.payload
  simp only [tcpReceiveFinWait2]
  generalize (tcpBufferPayload socket segment.seqNum segment.payload).2 = buffered at hbuffered ⊢
  rw [← hbuffered]
  split
  · exact tcpReceiveFin_stateAdvance segment (StateAdvance.of_pastClose _ rfl)
  · split
    all_goals exact StateAdvance.refl _

/-- An arriving segment moves a socket's state forward. -/
theorem tcpSocketReceiveSegment_stateAdvance (socket : TcpSocket) (segment : TcpSegment)
    (srcIp dstIp : IpAddress) (response : TcpSegment) :
    StateAdvance socket.state
      (tcpSocketReceiveSegment socket segment srcIp dstIp response).socket.state := by
  rw [tcpSocketReceiveSegment]
  split
  · rw [tcpReceiveByState]
    cases hstate : socket.state with
    -- From the handshake every state is an advance.
    | listen => exact StateAdvance.of_handshake _ rfl
    | synSent => exact StateAdvance.of_handshake _ rfl
    | synReceived => exact StateAdvance.of_handshake _ rfl
    | established =>
        have h := tcpReceiveEstablished_stateAdvance hstate segment response
        rwa [hstate] at h
    | finWait1 =>
        have h := tcpReceiveFinWait1_stateAdvance socket segment response
        rwa [hstate] at h
    | finWait2 =>
        have h := tcpReceiveFinWait2_stateAdvance socket segment response
        rwa [hstate] at h
    | closing =>
        simp only [tcpReceiveClosing]
        split
        · exact StateAdvance.of_pastClose _ rfl
        · exact StateAdvance.of_pastClose _ (by rw [tcpIgnore, hstate]; rfl)
    | lastAck =>
        simp only [tcpReceiveLastAck]
        split
        · exact StateAdvance.of_pastClose _ rfl
        · exact StateAdvance.of_pastClose _ (by rw [tcpIgnore, hstate]; rfl)
    | timeWait => exact StateAdvance.of_pastClose _ (by simp only [tcpAbsorb, hstate]; rfl)
    | closed => exact StateAdvance.of_pastClose _ (by simp only [tcpIgnore, hstate]; rfl)
    | closeWait =>
        simp only [tcpIgnore, hstate]
        exact StateAdvance.refl _
  · exact StateAdvance.refl _

/-! ## Calls of the application -/

theorem magiSendTcp_stateAdvance {socket socket' : TcpSocket} {data : List UInt8}
    {segment : TcpSegment} (h : magiSendTcp socket data = some (socket', segment)) :
    StateAdvance socket.state socket'.state := by
  obtain ⟨-, sendBuffer, rfl, -⟩ := magiSendTcp_eq_some h
  exact StateAdvance.refl _

@[simp] theorem tcpSocketRecv_state (socket : TcpSocket) (maxLen : Nat) :
    (tcpSocketRecv socket maxLen).2.state = socket.state := by
  rw [tcpSocketRecv]
  split
  all_goals rfl

/-- After `magi_close` the connection is closed, if the call reached it at all. -/
theorem magiCloseTcp_pastClose (socket : TcpSocket) :
    (magiCloseTcp socket).1.state.pastClose = true := by
  rw [magiCloseTcp]
  cases hstate : socket.state
  all_goals first | rfl | simp only [hstate, TcpState.pastClose, tcpSocketClose]

/-! ## The slots of a host -/

/-- The slot in which `host_receive` makes a child for a segment, if it does. -/
def tcpChildSlot (sockets : TcpTable) (ipAddress : IpAddress) (segment : TcpSegment)
    (srcIp dstIp : IpAddress) : Option (Fin tcpMaxSockets) :=
  if tcpValidateChecksum segment srcIp dstIp then
    match tcpSocketFind sockets ipAddress segment.dstPort srcIp segment.srcPort with
    | none => none
    | some slot =>
        if (sockets slot).isListening && tcpIsOpeningSyn segment then tcpAllocSlot sockets else none
  else
    none

theorem hostDeliverTcp_stateAdvance (sockets : TcpTable) (slot i : Fin tcpMaxSockets)
    (segment : TcpSegment) (srcIp dstIp : IpAddress) :
    StateAdvance (sockets i).state
      ((hostDeliverTcp sockets slot segment srcIp dstIp).1 i).state := by
  simp only [hostDeliverTcp]
  by_cases h : i = slot
  · subst h
    rw [Function.update_self]
    exact tcpSocketReceiveSegment_stateAdvance _ _ _ _ _
  · rw [Function.update_of_ne h]
    exact StateAdvance.refl _

/-- A segment moves the state of every slot forward, except that of the slot a child is made in. -/
theorem hostReceiveTcp_stateAdvance (sockets : TcpTable) (ipAddress : IpAddress)
    (segment : TcpSegment) (srcIp dstIp : IpAddress) (i : Fin tcpMaxSockets) :
    tcpChildSlot sockets ipAddress segment srcIp dstIp = some i ∨
      StateAdvance (sockets i).state
        ((hostReceiveTcp sockets ipAddress segment srcIp dstIp).1 i).state := by
  rw [tcpChildSlot, hostReceiveTcp]
  split
  · cases tcpSocketFind sockets ipAddress segment.dstPort srcIp segment.srcPort with
    | none => exact Or.inr (StateAdvance.refl _)
    | some slot =>
        simp only
        split
        · rw [tcpSocketAlloc]
          cases tcpAllocSlot sockets with
          | none => exact Or.inr (StateAdvance.refl _)
          | some child =>
              by_cases h : i = child
              · exact Or.inl (by rw [h])
              · refine Or.inr ?_
                have hadvance := hostDeliverTcp_stateAdvance
                  (Function.update (Function.update sockets child tcpSocketAllocated) child
                    (tcpChildSocket slot
                      (Function.update sockets child tcpSocketAllocated slot).localIp segment
                      srcIp)) child i segment srcIp dstIp
                rwa [Function.update_of_ne h, Function.update_of_ne h] at hadvance
        · exact Or.inr (hostDeliverTcp_stateAdvance _ _ _ _ _ _)
  · exact Or.inr (StateAdvance.refl _)

end MagiStack
