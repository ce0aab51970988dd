import MagiStack.Layer4.TcpTransition
import MagiStack.Layer7.SocketDemux

/-!
# SlotSteps — what a step of a run does to a slot

In every step a slot is handed out by `tcp_socket_alloc`, or freed by `tcp_socket_free`, or it keeps its
addresses and its parent, and TIME_WAIT for as long as it is in it.
-/

namespace MagiStack

variable {H : Type*} [DecidableEq H]

/-- A slot that is neither handed out nor freed. -/
structure SlotKept (before after : TcpSocket) : Prop where
  fixed : after.fixed = before.fixed
  timeWait : before.state = .timeWait → after.state = .timeWait

theorem slotKept_refl (socket : TcpSocket) : SlotKept socket socket where
  fixed := rfl
  timeWait := id

/-- Kept or freed. -/
def SlotStays (before after : TcpSocket) : Prop :=
  after = tcpSocketFree ∨ SlotKept before after

namespace SlotKept

variable {before after : TcpSocket} (h : SlotKept before after)
include h

theorem inUse : after.inUse = before.inUse :=
  congrArg (fun fields => fields.1.1) h.fixed

theorem isListening : after.isListening = before.isListening :=
  congrArg (fun fields => fields.1.2.1) h.fixed

theorem localIp : after.localIp = before.localIp :=
  congrArg (fun fields => fields.1.2.2.1) h.fixed

theorem localPort : after.localPort = before.localPort :=
  congrArg (fun fields => fields.1.2.2.2.1) h.fixed

theorem parent : after.parent = before.parent :=
  congrArg Prod.snd h.fixed

end SlotKept

theorem slotStays_refl (socket : TcpSocket) : SlotStays socket socket :=
  Or.inr (slotKept_refl socket)

/-- A slot that is in use afterwards is not freed. -/
theorem SlotStays.kept {before after : TcpSocket} (h : SlotStays before after)
    (huse : after.inUse = true) : SlotKept before after := by
  obtain hfree | hkept := h
  · rw [hfree] at huse
    cases huse
  · exact hkept

theorem SlotStays.of_eq {before after : TcpSocket} (h : after = before) : SlotStays before after := by
  rw [h]
  exact slotStays_refl before

/-! ## One socket -/

theorem tcpSocketReceiveSegment_stays (socket : TcpSocket) (segment : TcpSegment)
    (srcIp dstIp : IpAddress) (response : TcpSegment) :
    SlotStays socket (tcpSocketReceiveSegment socket segment srcIp dstIp response).socket := by
  obtain hfixed | hfree := tcpSocketReceiveSegment_fixed socket segment srcIp dstIp response
  · refine Or.inr ⟨hfixed, fun htimeWait => ?_⟩
    rw [(tcpSocketReceiveSegment_lawful socket segment srcIp dstIp response).timeWait htimeWait]
    exact htimeWait
  · exact Or.inl hfree

theorem magiSendTcp_stays {socket socket' : TcpSocket} {data : List UInt8} {segment : TcpSegment}
    (h : magiSendTcp socket data = some (socket', segment)) : SlotStays socket socket' := by
  obtain ⟨-, sendBuffer, rfl, -⟩ := magiSendTcp_eq_some h
  exact Or.inr ⟨rfl, id⟩

theorem tcpSocketRecv_stays (socket : TcpSocket) (maxLen : Nat) :
    SlotStays socket (tcpSocketRecv socket maxLen).2 := by
  obtain ⟨rest, hasData, heq, -⟩ := tcpSocketRecv_frame socket maxLen
  rw [heq]
  exact Or.inr ⟨rfl, id⟩

theorem magiCloseTcp_stays (socket : TcpSocket) : SlotStays socket (magiCloseTcp socket).1 := by
  rw [magiCloseTcp]
  cases hstate : socket.state
  case established | closeWait =>
    refine Or.inr ⟨?_, fun htimeWait => ?_⟩
    · simp only [tcpSocketClose, hstate]
      rfl
    · cases hstate.symm.trans htimeWait
  case closed | listen | synSent | synReceived => exact Or.inl rfl
  all_goals exact slotStays_refl socket

/-! ## A segment -/

/-- The listener that a segment opens a connection at. -/
def tcpListenerOf (sockets : TcpTable) (ipAddress : IpAddress) (segment : TcpSegment)
    (srcIp dstIp : IpAddress) : Option (Fin tcpMaxSockets) :=
  if tcpValidateChecksum segment srcIp dstIp && tcpIsOpeningSyn segment then
    (tcpSocketFind sockets ipAddress segment.dstPort srcIp segment.srcPort).filter fun i =>
      (sockets i).isListening
  else
    none

theorem tcpSocketListens_of_find {sockets : TcpTable} {ipAddress srcIp : IpAddress}
    {localPort remotePort : UInt16} {i : Fin tcpMaxSockets}
    (h : tcpSocketFind sockets ipAddress localPort srcIp remotePort = some i)
    (hlistening : (sockets i).isListening = true) :
    tcpSocketListens (sockets i) ipAddress localPort = true := by
  rw [tcpSocketFind, Option.or_eq_some_iff] at h
  obtain hmatch | ⟨-, hlistens⟩ := h
  · have hmatches := tcpFirstSlot_eq_some hmatch
    simp [tcpSocketMatches, hlistening] at hmatches
  · exact tcpFirstSlot_eq_some hlistens

/-- A child has the listener that its segment opens a connection at. -/
theorem tcpChildSlot_listener {sockets : TcpTable} {ipAddress : IpAddress} {segment : TcpSegment}
    {srcIp dstIp : IpAddress} {child : Fin tcpMaxSockets}
    (h : tcpChildSlot sockets ipAddress segment srcIp dstIp = some child) :
    ∃ listener, tcpListenerOf sockets ipAddress segment srcIp dstIp = some listener ∧
      (sockets listener).inUse = true ∧ (sockets listener).isListening = true ∧ listener ≠ child ∧
      (sockets listener).localPort = segment.dstPort ∧
      (hostReceiveTcp sockets ipAddress segment srcIp dstIp).1 = Function.update sockets child
        (tcpSocketReceiveSegment (tcpChildSocket listener (sockets listener).localIp segment srcIp)
          segment srcIp dstIp tcpInit).socket := by
  rw [tcpChildSlot] at h
  split at h
  · rename_i hvalid
    cases hfind : tcpSocketFind sockets ipAddress segment.dstPort srcIp segment.srcPort with
    | none =>
        rw [hfind] at h
        cases h
    | some listener =>
        rw [hfind] at h
        simp only at h
        split at h
        · rename_i hlistens
          obtain ⟨hlistening, hopening⟩ := Bool.and_eq_true_iff.mp hlistens
          have hfound := tcpSocketListens_of_find hfind hlistening
          simp only [tcpSocketListens, Bool.and_eq_true, beq_iff_eq] at hfound
          have huse := hfound.1.1.1
          refine ⟨listener, ?_, huse, hlistening, ?_, hfound.2,
            hostReceiveTcp_opening hvalid hfind hlistening huse hopening h⟩
          · simp only [tcpListenerOf, hvalid, hopening, Bool.and_self, if_true, hfind,
              Option.filter_some, hlistening]
          · rintro rfl
            -- A slot that is handed out is not in use, or does not listen.
            obtain hfree | ⟨hnot, -⟩ := tcpAllocSlot_spec h
            · cases huse.symm.trans hfree
            · cases hlistening.symm.trans hnot
        · cases h
  · cases h

theorem hostDeliverTcp_stays (sockets : TcpTable) (slot i : Fin tcpMaxSockets) (segment : TcpSegment)
    (srcIp dstIp : IpAddress) :
    SlotStays (sockets i) ((hostDeliverTcp sockets slot segment srcIp dstIp).1 i) := by
  simp only [hostDeliverTcp]
  by_cases hi : i = slot
  · rw [hi, Function.update_self]
    exact tcpSocketReceiveSegment_stays (sockets slot) segment srcIp dstIp tcpInit
  · rw [Function.update_of_ne hi]
    exact slotStays_refl (sockets i)

/-- A segment leaves every slot but that of the child it makes. -/
theorem hostReceiveTcp_stays (sockets : TcpTable) (ipAddress : IpAddress) (segment : TcpSegment)
    (srcIp dstIp : IpAddress) (i : Fin tcpMaxSockets) :
    tcpChildSlot sockets ipAddress segment srcIp dstIp = some i ∨
      SlotStays (sockets i) ((hostReceiveTcp sockets ipAddress segment srcIp dstIp).1 i) := by
  cases hchild : tcpChildSlot sockets ipAddress segment srcIp dstIp with
  | some child =>
      obtain ⟨listener, -, -, -, -, -, heq⟩ := tcpChildSlot_listener hchild
      by_cases hi : i = child
      · exact Or.inl (by rw [hi])
      · rw [heq, Function.update_of_ne hi]
        exact Or.inr (slotStays_refl (sockets i))
  | none =>
      -- Without a child the segment is dropped, or goes to the socket that is found.
      refine Or.inr ?_
      rw [tcpChildSlot] at hchild
      rw [hostReceiveTcp]
      split
      · rename_i hvalid
        rw [if_pos hvalid] at hchild
        cases hfind : tcpSocketFind sockets ipAddress segment.dstPort srcIp segment.srcPort with
        | none => exact slotStays_refl (sockets i)
        | some slot =>
            rw [hfind] at hchild
            simp only at hchild ⊢
            split
            · rename_i hlistens
              rw [if_pos hlistens] at hchild
              rw [tcpSocketAlloc, hchild]
              exact slotStays_refl (sockets i)
            · exact hostDeliverTcp_stays sockets slot i segment srcIp dstIp
      · exact slotStays_refl (sockets i)

/-! ## The calls at one slot -/

theorem magiSend_slot (s : MagiSystem H) (sockfd : Int) (data : List UInt8) :
    magiSend s sockfd data = s ∨ ∃ q socket, magiSend s sockfd data = s.setSlot q socket ∧
      SlotStays (s.slot q) socket := by
  rw [magiSend]
  split
  · exact Or.inl rfl
  · split
    · split
      · exact Or.inl rfl
      · rename_i hsend
        exact Or.inr ⟨_, _, rfl, magiSendTcp_stays hsend⟩
    · exact Or.inl rfl

theorem magiRecv_slot (s : MagiSystem H) (sockfd : Int) (bufsize : Nat) :
    (magiRecv s sockfd bufsize).2 = s ∨ ∃ q socket,
      (magiRecv s sockfd bufsize).2 = s.setSlot q socket ∧ SlotStays (s.slot q) socket := by
  rw [magiRecv]
  split
  · exact Or.inl rfl
  · split
    · exact Or.inr ⟨_, _, rfl, tcpSocketRecv_stays _ bufsize⟩
    · exact Or.inl rfl

theorem magiCloseBegin_slot (s : MagiSystem H) (sockfd : Int) :
    (magiCloseBegin s sockfd).2.hosts = s.hosts ∨ ∃ q socket,
      (magiCloseBegin s sockfd).2.hosts = (s.setSlot q socket).hosts ∧
        SlotStays (s.slot q) socket := by
  rw [magiCloseBegin]
  split
  · exact Or.inl rfl
  · split
    · dsimp only
      split
      all_goals exact Or.inr ⟨_, _, rfl, magiCloseTcp_stays _⟩
    · exact Or.inl rfl

namespace MagiWorld

/-! ## One step of a run -/

/-- `tcp_socket_alloc` hands out the slot in this step. -/
def HandsOut (w : MagiWorld H) : MagiAction H → SlotPtr H → Prop
  | .listen sockfd, p | .connect sockfd _ _, p => ∃ d, w.system.allocTarget sockfd = some (d, p)
  | .arrive host segment srcIp dstIp, p => w.childSlot host segment srcIp dstIp = some p
  | _, _ => False

/-- What a step does to a slot and to the count of its allocations. -/
def SlotStep (w : MagiWorld H) (action : MagiAction H) (p : SlotPtr H) : Prop :=
  w.HandsOut action p ∧ (w.step action).gen p = w.gen p + 1 ∨
    (w.step action).gen p = w.gen p ∧ SlotStays (w.system.slot p) ((w.step action).system.slot p)

theorem slotStep_of_hosts {w : MagiWorld H} {action : MagiAction H}
    (hgen : (w.step action).gen = w.gen) (hhosts : (w.step action).system.hosts = w.system.hosts)
    (p : SlotPtr H) : w.SlotStep action p := by
  refine Or.inr ⟨congrFun hgen p, SlotStays.of_eq ?_⟩
  rw [MagiSystem.slot, hhosts]
  rfl

/-- A call that writes to one slot. -/
theorem slotStep_of_setSlot {w : MagiWorld H} {action : MagiAction H} (q : SlotPtr H)
    {socket : TcpSocket} (hgen : (w.step action).gen = w.gen)
    (hhosts : (w.step action).system.hosts = (w.system.setSlot q socket).hosts)
    (hstays : SlotStays (w.system.slot q) socket) (p : SlotPtr H) : w.SlotStep action p := by
  have hslot : (w.step action).system.slot p = if p = q then socket else w.system.slot p := by
    rw [← MagiSystem.slot_setSlot, MagiSystem.slot, hhosts]
    rfl
  refine Or.inr ⟨congrFun hgen p, ?_⟩
  rw [hslot]
  split
  · rename_i hp
    rw [hp]
    exact hstays
  · exact slotStays_refl (w.system.slot p)

theorem slotStep_listen (w : MagiWorld H) (sockfd : Int) (p : SlotPtr H) :
    w.SlotStep (.listen sockfd) p := by
  cases htarget : w.system.allocTarget sockfd with
  | none => exact slotStep_of_hosts (by simp only [step, htarget]) (by simp only [step, htarget]) p
  | some target =>
      obtain ⟨d, q⟩ := target
      by_cases hp : p = q
      · refine Or.inl ⟨⟨d, by rw [hp, htarget]⟩, ?_⟩
        simp only [step, htarget, hp]
        exact Owned.bump_self w.gen q
      · refine Or.inr ⟨?_, SlotStays.of_eq ?_⟩
        · simp only [step, htarget]
          exact Owned.bump_of_ne w.gen hp
        · simp only [step, magiListen, htarget]
          exact (MagiSystem.slot_setSlot _ _ _ _).trans (if_neg hp)

theorem slotStep_connect (w : MagiWorld H) (sockfd : Int) (ip : IpAddress) (port : UInt16)
    (p : SlotPtr H) : w.SlotStep (.connect sockfd ip port) p := by
  cases htarget : w.system.allocTarget sockfd with
  | none => exact slotStep_of_hosts (by simp only [step, htarget]) (by simp only [step, htarget]) p
  | some target =>
      obtain ⟨d, q⟩ := target
      obtain ⟨hosts, hsame, heq | heq⟩ := magiConnectBegin_cases ip port htarget
      all_goals
        by_cases hp : p = q
        · refine Or.inl ⟨⟨d, by rw [hp, htarget]⟩, ?_⟩
          simp only [step, htarget, heq, hp]
          exact Owned.bump_self w.gen q
        · refine Or.inr ⟨?_, SlotStays.of_eq ?_⟩
          · simp only [step, htarget, heq]
            exact Owned.bump_of_ne w.gen hp
          · simp only [step, htarget, heq]
            exact hsame p hp

theorem slotStep_arrive (w : MagiWorld H) (host : H) (segment : TcpSegment) (srcIp dstIp : IpAddress)
    (p : SlotPtr H) : w.SlotStep (.arrive host segment srcIp dstIp) p := by
  by_cases hchild : w.childSlot host segment srcIp dstIp = some p
  · refine Or.inl ⟨hchild, ?_⟩
    rw [step, hchild]
    exact Owned.bump_self w.gen p
  · refine Or.inr ⟨?_, ?_⟩
    · rw [step]
      cases hother : w.childSlot host segment srcIp dstIp with
      | none => rfl
      | some q =>
          refine Owned.bump_of_ne w.gen ?_
          rintro rfl
          exact hchild hother
    · obtain ⟨other, slot⟩ := p
      by_cases hhost : other = host
      · subst hhost
        have hslot : (w.step (.arrive other segment srcIp dstIp)).system.slot (other, slot) =
            (hostReceiveTcp (w.system.hosts other).tcpSockets (w.system.hosts other).ipAddress segment
              srcIp dstIp).1 slot := by
          simp only [step, magiArrive, MagiSystem.slot, Function.update_self]
        rw [hslot]
        refine (hostReceiveTcp_stays _ _ segment srcIp dstIp slot).resolve_left fun hslot => ?_
        rw [childSlot, hslot] at hchild
        exact hchild rfl
      · refine SlotStays.of_eq ?_
        simp only [step, magiArrive, MagiSystem.slot, Function.update_of_ne hhost]

/-- Every step of a run, at every slot. -/
theorem slotStep (w : MagiWorld H) (action : MagiAction H) (p : SlotPtr H) : w.SlotStep action p := by
  cases action with
  | socket domain type =>
      refine slotStep_of_hosts (w.step_gen rfl) ?_ p
      rw [step_socket_system]
      exact magiSocket_hosts w.system domain type
  | attachHost sockfd host =>
      refine slotStep_of_hosts rfl ?_ p
      simp only [step, magiSocketAttachHost]
      split
      all_goals rfl
  | bind sockfd ip port =>
      refine slotStep_of_hosts rfl ?_ p
      simp only [step, magiBind]
      split
      all_goals rfl
  | listen sockfd => exact w.slotStep_listen sockfd p
  | accept sockfd =>
      refine slotStep_of_hosts (w.step_gen rfl) ?_ p
      rw [step_accept_system]
      exact magiAccept_hosts w.system sockfd
  | connect sockfd ip port => exact w.slotStep_connect sockfd ip port p
  | connectReturn =>
      cases hcalls : w.calls with
      | nil => exact slotStep_of_hosts (by simp only [step, hcalls]) (by simp only [step, hcalls]) p
      | cons call rest =>
          cases call with
          | close d =>
              exact slotStep_of_hosts (by simp only [step, hcalls]) (by simp only [step, hcalls]) p
          -- Only a `magi_connect` that has failed frees its slot.
          | connect d =>
              cases htcp : (w.system.sockets d).tcpSock with
              | none =>
                  refine slotStep_of_hosts ?_ ?_ p
                  all_goals simp only [step, hcalls, magiConnectEnd, htcp]
              | some q =>
                  by_cases hstate : (w.system.slot q).state = .established
                  · refine slotStep_of_hosts ?_ ?_ p
                    all_goals
                      simp only [step, hcalls, magiConnectEnd, htcp, hstate, ne_eq, not_true_eq_false,
                        if_false]
                  · refine @slotStep_of_setSlot _ _ w _ q tcpSocketFree ?_ ?_ (Or.inl rfl) p
                    all_goals
                      simp only [step, hcalls, magiConnectEnd, htcp, hstate, ne_eq,
                        not_false_eq_true, if_true]
                    all_goals rfl
  | send sockfd data =>
      obtain heq | ⟨q, socket, heq, hstays⟩ := magiSend_slot w.system sockfd data
      · exact slotStep_of_hosts rfl (by rw [step, heq]) p
      · exact slotStep_of_setSlot q rfl (by rw [step, heq]) hstays p
  | recv sockfd bufsize =>
      obtain heq | ⟨q, socket, heq, hstays⟩ := magiRecv_slot w.system sockfd bufsize
      · exact slotStep_of_hosts rfl (by rw [step, heq]) p
      · exact slotStep_of_setSlot q rfl (by rw [step, heq]) hstays p
  | close sockfd =>
      have hgen := @step_gen H _ w (.close sockfd) rfl
      have hsystem := w.step_close_system sockfd
      obtain heq | ⟨q, socket, heq, hstays⟩ := magiCloseBegin_slot w.system sockfd
      · exact slotStep_of_hosts hgen (hsystem ▸ heq) p
      · exact slotStep_of_setSlot q hgen (hsystem ▸ heq) hstays p
  | closeReturn sent =>
      refine slotStep_of_hosts (w.step_gen rfl) ?_ p
      simp only [step]
      split
      · simp only [magiCloseEnd]
        split
        all_goals rfl
      · rfl
  | arrive host segment srcIp dstIp => exact w.slotStep_arrive host segment srcIp dstIp p

end MagiWorld

/-! ## Segments and runs -/

/-- Every segment to every socket is refused without a trace, or moves the socket lawfully; and whatever
step a system takes, a slot in TIME_WAIT stays in it unless `tcp_socket_alloc` hands it out or
`tcp_socket_free` frees it. -/
theorem tcpSegments_lawful :
    (∀ (socket : TcpSocket) (segment : TcpSegment) (srcIp dstIp : IpAddress) (response : TcpSegment),
      TcpLawful socket segment response
        (tcpSocketReceiveSegment socket segment srcIp dstIp response)) ∧
    ∀ (w : MagiWorld H) (action : MagiAction H) (p : SlotPtr H),
      (w.system.slot p).state = .timeWait →
        ((w.step action).system.slot p).state = .timeWait ∨
          (w.step action).system.slot p = tcpSocketFree ∨ w.HandsOut action p := by
  refine ⟨tcpSocketReceiveSegment_lawful, fun w action p htimeWait => ?_⟩
  obtain ⟨hout, -⟩ | ⟨-, hfree | hkept⟩ := w.slotStep action p
  · exact Or.inr (Or.inr hout)
  · exact Or.inr (Or.inl hfree)
  · exact Or.inl (hkept.timeWait htimeWait)

/-- A server that has closed an accepted connection, while its client has not. -/
def closingServer : MagiWorld Unit :=
  (MagiWorld.initial fun _ => serverIp).run
    (serveClient ++ [.accept 0, .close 1,
      .arrive () (clientSegment 1001 7002 (tcpFlagFin ||| tcpFlagAck)) clientIp serverIp])

/-- A repeated FIN leaves the connection in TIME_WAIT. -/
theorem tcpSegments_lawful_repeatedFin :
    (closingServer.system.slot ((), 1)).state = .timeWait ∧
      (((closingServer.step (.arrive () (clientSegment 1001 7002 (tcpFlagFin ||| tcpFlagAck))
          clientIp serverIp)).system.slot ((), 1)).state = .timeWait ∨
        (closingServer.step (.arrive () (clientSegment 1001 7002 (tcpFlagFin ||| tcpFlagAck))
          clientIp serverIp)).system.slot ((), 1) = tcpSocketFree ∨
        closingServer.HandsOut (.arrive () (clientSegment 1001 7002 (tcpFlagFin ||| tcpFlagAck))
          clientIp serverIp) ((), 1)) := by
  have htimeWait : (closingServer.system.slot ((), 1)).state = .timeWait := by decide +kernel
  exact ⟨htimeWait, tcpSegments_lawful.2 closingServer _ ((), 1) htimeWait⟩

/-- The segment that acknowledges the own FIN and brings the peer's takes FIN_WAIT_1 to TIME_WAIT, and the
diagram has no such edge. -/
theorem tcpSegments_lawful_twoEdges :
    ∃ (socket : TcpSocket) (segment : TcpSegment),
      (tcpSocketReceiveSegment socket segment clientIp serverIp tcpInit).accepted = true ∧
      (tcpSocketReceiveSegment socket segment clientIp serverIp tcpInit).socket.state ≠ socket.state ∧
      socket.state.edge
        (tcpSocketReceiveSegment socket segment clientIp serverIp tcpInit).socket.state = false :=
  ⟨((MagiWorld.initial fun _ => serverIp).run (serveClient ++ [.accept 0, .close 1])).system.slot
    ((), 1), clientSegment 1001 7002 (tcpFlagFin ||| tcpFlagAck), by decide +kernel⟩

end MagiStack
