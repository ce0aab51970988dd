import MagiStack.Layer7.SlotSteps
import MagiStack.Network.HostFrames
import MagiStack.Network.HostStack

/-!
# HostPackets — which packets a host sends, and why

A step of a host is at most one step of its address resolution.  Every packet that it hands to
`host_send_l3_packet` is one that an application sends, with the host's own address and the message of its cause,
or the answer to an echo request that has just come up.
-/

namespace MagiStack

/-! ## Causes -/

/-- The message of `host_send_icmp_echo_request`. -/
def pingMessage (sequence : UInt16) : IcmpMessage :=
  { type := icmpEchoRequest
    code := 0
    checksum := 0
    identifier := 0x1234
    sequence := sequence
    payload := icmpEchoPayload }

/-- A packet carries the message of its cause. -/
def PacketCause.Makes (packet : Ipv4Packet) : PacketCause → Prop
  | .ping sequence => packet.protocol = ipv4ProtocolIcmp ∧ packet.payload = icmpBytes (pingMessage sequence)
  | .datagram srcPort dstPort payload =>
      packet.protocol = ipv4ProtocolUdp ∧ payload.length ≤ udpMaxPayload ∧
        udpMessage packet.srcIp packet.dstIp srcPort dstPort payload = some packet.payload
  | .segment sent =>
      packet.protocol = ipv4ProtocolTcp ∧ sent.dataOffset = 5 ∧ sent.payload.length ≤ tcpMaxPayload ∧
        packet.payload = tcpBytes sent

/-- The answer to an echo request. -/
def echoReplyTo (request : IcmpMessage) : IcmpMessage :=
  { type := icmpEchoReply
    code := 0
    checksum := 0
    identifier := request.identifier
    sequence := request.sequence
    payload := request.payload }

/-- A packet that a host with address `ip` sends. -/
inductive HostSends (ip : IpAddress) (records : List PacketRecord) (packet : Ipv4Packet) : Prop
  | application (cause : PacketCause) (hrecord : .sent cause packet ∈ records)
  | echoReply (request : Ipv4Packet) (icmp : IcmpMessage) (hrecord : .heard request ∈ records)
      (hprotocol : request.protocol = ipv4ProtocolIcmp) (hicmp : receiveIcmp request = some icmp)
      (htype : icmp.type = icmpEchoRequest) (hsrc : packet.srcIp = ip) (hdst : packet.dstIp = request.srcIp)
      (hmine : packet.protocol = ipv4ProtocolIcmp)
      (hpayload : packet.payload = icmpBytes (echoReplyTo icmp))

/-- An accepted packet carries an IPv4 packet. -/
def AcceptedPacket.Carries (accepted : AcceptedPacket) (packet : Ipv4Packet) : Prop :=
  accepted.ethertype = ethernetTypeIpv4 ∧ packet.payload.length ≤ ipv4MaxPayload ∧
    accepted.payload = ipv4Bytes packet

section Steps

variable {Ms : Type}

/-- The open sockets of a host have its address. -/
def HostStack.SocketsOwn (h : HostStack Ms) : Prop :=
  ∀ i, (h.tcpSockets i).inUse = true → (h.tcpSockets i).localIp = h.ipAddress

variable [SimTime Ms]

/-- What a host does in a call, or about a frame that has `arrived`. -/
structure StackSteps (arrived : Option (List UInt8)) (h h' : HostStack Ms) (records : List PacketRecord) :
    Prop where
  run : h'.run = h.run ∨ ∃ action, h'.run = hostStep h.run action ∧ ∀ raw, action = .receive raw →
    arrived = some raw
  accepted : ∀ a ∈ h'.run.accepted, a ∈ h.run.accepted ∨
    ∃ packet, a.Carries packet ∧ HostSends h.ipAddress records packet
  sent : ∀ cause packet, .sent cause packet ∈ records → packet.srcIp = h.ipAddress ∧ cause.Makes packet
  heard : ∀ packet, .heard packet ∈ records → ∃ raw, arrived = some raw ∧
    hostIpv4Packet h.run.host raw = some packet
  sockets : h'.SocketsOwn

namespace StackSteps

variable {arrived : Option (List UInt8)} {h h' : HostStack Ms} {records : List PacketRecord}

theorem stays (hown : h'.SocketsOwn) (hrun : h'.run = h.run) : StackSteps arrived h h' [] where
  run := Or.inl hrun
  accepted := fun _ ha => Or.inl (hrun ▸ ha)
  sent := fun _ _ hrecord => (nomatch hrecord)
  heard := fun _ hrecord => (nomatch hrecord)
  sockets := hown

/-- What comes before a step and does not touch the packets. -/
theorem of_run (hsteps : StackSteps arrived h' h records) {h₀ : HostStack Ms} (hrun : h₀.run = h'.run) :
    StackSteps arrived h₀ h records where
  run := hrun ▸ hsteps.run
  accepted := by
    have hip : h₀.ipAddress = h'.ipAddress := congrArg (fun run => run.host.ipAddress) hrun
    rw [hrun, hip]
    exact hsteps.accepted
  sent := by
    have hip : h₀.ipAddress = h'.ipAddress := congrArg (fun run => run.host.ipAddress) hrun
    rw [hip]
    exact hsteps.sent
  heard := hrun ▸ hsteps.heard
  sockets := hsteps.sockets

/-- Nothing has happened yet, and the host has changed above its packets. -/
theorem before_of_run (hsteps : StackSteps arrived h h records) (hrun : h'.run = h.run)
    (hown : h'.SocketsOwn) : StackSteps arrived h' h' records where
  run := Or.inl rfl
  accepted := fun _ ha => Or.inl ha
  sent := (hsteps.of_run hrun).sent
  heard := (hsteps.of_run hrun).heard
  sockets := hown

end StackSteps

/-- The address of a host is that of its run. -/
theorem ipAddress_hostStep (s : HostRun Ms) (action : HostAction Ms) :
    (hostStep s action).host.ipAddress = s.host.ipAddress := by
  have hsteps : ArpSteps (fun _ _ => True) s.host (hostStep s action).host := .step fun _ _ _ _ => trivial
  exact hsteps.ipAddress

theorem accepted_hostStep_send (s : HostRun Ms) (targetIp : IpAddress) (ethertype : UInt16)
    (payload : List UInt8) (nowMs : Ms) :
    ∀ a ∈ (hostStep s (.send targetIp ethertype payload nowMs)).accepted, a ∈ s.accepted ∨
      (a.ethertype = ethertype ∧ a.payload = payload) := by
  intro a ha
  rw [hostStep] at ha
  split at ha
  · rcases List.mem_append.mp ha with hold | hnew
    · exact Or.inl hold
    · rw [List.mem_singleton.mp hnew]
      exact Or.inr ⟨rfl, rfl⟩
  · exact Or.inl ha

/-! ## Sending -/

theorem tcpToBytes_eq_some {segment : TcpSegment} {outSize : Nat} {raw : List UInt8}
    (h : tcpToBytes segment outSize = some raw) :
    raw = tcpBytes segment ∧ segment.payload.length ≤ tcpMaxPayload := by
  rw [tcpToBytes] at h
  split at h
  · cases h
  rename_i hlength
  split at h
  · cases h
  · exact ⟨(Option.some.inj h).symm, Nat.le_of_not_lt hlength⟩

section Sending

variable {arrived : Option (List UInt8)} {h₀ h : HostStack Ms} {before : List PacketRecord}
  (hbefore : StackSteps arrived h₀ h₀ before) (hrun : h.run = h₀.run) (hown : h.SocketsOwn)

include hbefore hrun hown

/-- A packet of the host's own goes on with what was on record `before`. -/
theorem hostSendIpv4_steps (cause : Option PacketCause) {dstIp : IpAddress} (ttl : UInt8)
    {protocol : UInt8} {message : List UInt8} (nowMs : Ms)
    (hmakes : ∀ packet : Ipv4Packet, packet.srcIp = h.ipAddress → packet.dstIp = dstIp →
      packet.protocol = protocol → packet.payload = message →
      cause.elim (HostSends h.ipAddress before packet) (PacketCause.Makes packet)) :
    StackSteps arrived h₀ (hostSendIpv4 h cause h.ipAddress dstIp ttl protocol message nowMs).2.1
      (before ++ (hostSendIpv4 h cause h.ipAddress dstIp ttl protocol message nowMs).2.2) := by
  replace hbefore := hbefore.before_of_run hrun hown
  refine @StackSteps.of_run _ _ _ _ h _ ?_ _ hrun.symm
  have hnothing : StackSteps arrived h h (before ++ []) := by rwa [List.append_nil]
  rw [hostSendIpv4]
  split
  · exact hnothing
  rename_i packet hpacket
  split
  · exact hnothing
  rename_i ipRaw hraw
  rw [ipv4Create] at hpacket
  split at hpacket
  · cases hpacket
  have hfields := Option.some.inj hpacket
  rcases ipv4ToBytes_eq_some hraw with ⟨rfl, hlength⟩
  have hmade := hmakes packet (by rw [← hfields]) (by rw [← hfields]) (by rw [← hfields])
    (by rw [← hfields])
  dsimp only [hostStackSendL3Packet]
  refine ⟨Or.inr ⟨.send dstIp ethernetTypeIpv4 (ipv4Bytes packet) nowMs, rfl,
    fun raw hcontra => (nomatch hcontra)⟩, fun a ha => ?_, fun c p hrecord => ?_, fun p hrecord => ?_, fun i huse => ?_⟩
  · -- What the host accepts is the packet, which has a cause.
    rcases accepted_hostStep_send h.run dstIp ethernetTypeIpv4 (ipv4Bytes packet) nowMs a ha with
      hold | ⟨htype, hpayload⟩
    · exact Or.inl hold
    · refine Or.inr ⟨packet, ⟨htype, hlength, hpayload⟩, ?_⟩
      cases cause with
      | none => simpa using hmade
      | some c => exact .application c (List.mem_append_right _ List.mem_cons_self)
  · rcases List.mem_append.mp hrecord with hold | hnew
    · exact hbefore.sent c p hold
    · cases cause with
      | none => cases hnew
      | some c' =>
          cases List.mem_singleton.mp hnew
          exact ⟨by rw [← hfields], hmade⟩
  · rcases List.mem_append.mp hrecord with hold | hnew
    · exact hbefore.heard p hold
    · cases cause with
      | none => cases hnew
      | some c' => cases List.mem_singleton.mp hnew
  · exact (hbefore.sockets i huse).trans (ipAddress_hostStep h.run _).symm

/-- `magi_sendto` sends a datagram of its caller. -/
theorem magiSendto_steps (localPort : UInt16) (data : List UInt8) (dstIp : IpAddress) (dstPort : UInt16)
    (nowMs : Ms) :
    StackSteps arrived h₀ (magiSendto h localPort data dstIp dstPort nowMs).2.1
      (before ++ (magiSendto h localPort data dstIp dstPort nowMs).2.2) := by
  have hnothing : StackSteps arrived h₀ h (before ++ []) := by
    rw [List.append_nil]
    exact (hbefore.before_of_run hrun hown).of_run hrun.symm
  rw [magiSendto]
  split
  · exact hnothing
  rename_i hlength
  split
  · exact hnothing
  rename_i message hmessage
  refine hostSendIpv4_steps hbefore hrun hown (some (.datagram localPort dstPort data)) ipv4DefaultTtl nowMs
    fun packet hsrc hdst hprotocol hpayload => ?_
  refine ⟨hprotocol, Nat.le_of_not_lt hlength, ?_⟩
  rw [hsrc, hdst, hpayload]
  exact hmessage

theorem hostSendSegment_steps {segment : TcpSegment} (hoffset : segment.dataOffset = 5) {srcIp : IpAddress}
    (hsrc : srcIp = h.ipAddress) (dstIp : IpAddress) (outSize : Nat) (nowMs : Ms) :
    StackSteps arrived h₀ (hostSendSegment h srcIp dstIp segment outSize nowMs).1
      (before ++ (hostSendSegment h srcIp dstIp segment outSize nowMs).2) := by
  rw [hsrc, hostSendSegment]
  split
  · rw [List.append_nil]
    exact (hbefore.before_of_run hrun hown).of_run hrun.symm
  · rename_i raw hraw
    rcases tcpToBytes_eq_some hraw with ⟨rfl, hlength⟩
    exact hostSendIpv4_steps hbefore hrun hown (some (.segment segment)) ipv4DefaultTtl nowMs
      fun packet _ _ hprotocol hpayload => ⟨hprotocol, hoffset, hlength, hpayload⟩

end Sending

/-! ## Segments -/

@[simp] theorem tcpStoreChecksum_dataOffset (segment : TcpSegment) (outSize : Nat)
    (srcIp dstIp : IpAddress) :
    (tcpStoreChecksum segment outSize srcIp dstIp).dataOffset = segment.dataOffset := by
  obtain ⟨_, h⟩ := tcpStoreChecksum_frame segment outSize srcIp dstIp
  rw [h]

@[simp] theorem tcpPrepareAck_dataOffset (socket : TcpSocket) : (tcpPrepareAck socket).dataOffset = 5 :=
  tcpStoreChecksum_dataOffset _ _ _ _

/-- What a socket answers has no options. -/
theorem tcpSocketReceiveSegment_dataOffset (socket : TcpSocket) (segment : TcpSegment)
    (srcIp dstIp : IpAddress) {response : TcpSegment} (h : response.dataOffset = 5) :
    (tcpSocketReceiveSegment socket segment srcIp dstIp response).response.dataOffset = 5 := by
  rw [tcpSocketReceiveSegment]
  split
  · rw [tcpReceiveByState]
    have hignore : (tcpIgnore socket response).response.dataOffset = 5 := h
    cases socket.state with
    | closed => exact h
    | listen =>
        dsimp only [tcpReceiveListen]
        split
        · exact tcpStoreChecksum_dataOffset _ _ _ _
        · exact h
    | synSent =>
        dsimp only [tcpReceiveSynSent]
        repeat' split
        all_goals first | exact h | exact tcpPrepareAck_dataOffset _
    | synReceived =>
        dsimp only [tcpReceiveSynReceived]
        repeat' split
        all_goals first | exact h | exact tcpPrepareAck_dataOffset _
    | established =>
        dsimp only [tcpReceiveEstablished, tcpReceiveFin]
        repeat' split
        all_goals first | exact h | exact tcpPrepareAck_dataOffset _
    | finWait1 =>
        dsimp only [tcpReceiveFinWait1, tcpReceiveFin]
        repeat' split
        all_goals first | exact h | exact tcpPrepareAck_dataOffset _
    | finWait2 =>
        dsimp only [tcpReceiveFinWait2, tcpReceiveFin]
        repeat' split
        all_goals first | exact h | exact tcpPrepareAck_dataOffset _
    | closing =>
        dsimp only [tcpReceiveClosing]
        repeat' split
        all_goals exact h
    | lastAck =>
        dsimp only [tcpReceiveLastAck]
        repeat' split
        all_goals exact h
    | closeWait => exact h
    | timeWait => exact h
  · exact h

theorem hostDeliverTcp_dataOffset {sockets : TcpTable} {slot : Fin tcpMaxSockets} {segment : TcpSegment}
    {srcIp dstIp : IpAddress} {response : TcpSegment}
    (h : (hostDeliverTcp sockets slot segment srcIp dstIp).2 = some response) :
    response.dataOffset = 5 := by
  rw [hostDeliverTcp, tcpReply] at h
  split at h
  · rw [← Option.some.inj h]
    exact tcpSocketReceiveSegment_dataOffset _ _ _ _ rfl
  · cases h

theorem hostReceiveTcp_dataOffset {sockets : TcpTable} {ipAddress : IpAddress} {segment : TcpSegment}
    {srcIp dstIp : IpAddress} {response : TcpSegment}
    (h : (hostReceiveTcp sockets ipAddress segment srcIp dstIp).2 = some response) :
    response.dataOffset = 5 := by
  rw [hostReceiveTcp] at h
  repeat' split at h
  all_goals first | cases h | exact hostDeliverTcp_dataOffset h

/-- A slot that is kept, or freed, or handed out with the host's address. -/
theorem SlotStays.localIp {before after : TcpSocket} {ip : IpAddress} (h : SlotStays before after)
    (hown : before.inUse = true → before.localIp = ip) (huse : after.inUse = true) :
    after.localIp = ip := by
  have hkept := h.kept huse
  rw [hkept.localIp]
  exact hown (hkept.inUse ▸ huse)

theorem hostReceiveTcp_own {sockets : TcpTable} {ip : IpAddress}
    (hown : ∀ i, (sockets i).inUse = true → (sockets i).localIp = ip) (segment : TcpSegment)
    (srcIp dstIp : IpAddress) (i : Fin tcpMaxSockets)
    (huse : ((hostReceiveTcp sockets ip segment srcIp dstIp).1 i).inUse = true) :
    ((hostReceiveTcp sockets ip segment srcIp dstIp).1 i).localIp = ip := by
  rcases hostReceiveTcp_stays sockets ip segment srcIp dstIp i with hchild | hstays
  · -- a child has the address of its listener
    rcases tcpChildSlot_listener hchild with ⟨listener, -, hlistener, -, -, -, heq⟩
    rw [heq, Function.update_self] at huse ⊢
    exact (tcpSocketReceiveSegment_stays _ segment srcIp dstIp tcpInit).localIp
      (fun _ => hown listener hlistener) huse
  · exact hstays.localIp (hown i) huse

/-! ## Connections -/

omit [SimTime Ms] in
theorem socketsOwn_set {h : HostStack Ms} (hown : h.SocketsOwn) (slot : Fin tcpMaxSockets)
    {socket : TcpSocket} (hsocket : socket.inUse = true → socket.localIp = h.ipAddress) :
    (h.setTcpSocket slot socket).SocketsOwn := by
  intro i huse
  by_cases hi : i = slot
  · subst hi
    simp only [HostStack.setTcpSocket, Function.update_self] at huse ⊢
    exact hsocket huse
  · simp only [HostStack.setTcpSocket, Function.update_of_ne hi] at huse ⊢
    exact hown i huse

theorem hostSelectTcpSourcePort_ipAddress (host : TcpHost) (remoteIp : IpAddress)
    (remotePort initialPreferred : UInt16) :
    (hostSelectTcpSourcePort host remoteIp remotePort initialPreferred).2.ipAddress = host.ipAddress := by
  simp only [hostSelectTcpSourcePort]
  split
  all_goals split
  all_goals rfl

/-- A connection that is opened has the address of its host, and the other slots stay. -/
theorem hostOpenConnection_own {host : TcpHost}
    (hown : ∀ i, (host.tcpSockets i).inUse = true → (host.tcpSockets i).localIp = host.ipAddress)
    (remoteIp : IpAddress) (remotePort preferredPort : UInt16) :
    (∀ i, ((hostOpenConnection host remoteIp remotePort preferredPort).2.tcpSockets i).inUse = true →
      ((hostOpenConnection host remoteIp remotePort preferredPort).2.tcpSockets i).localIp =
        host.ipAddress) ∧
    ∀ slot, (hostOpenConnection host remoteIp remotePort preferredPort).1 = some slot →
      ((hostOpenConnection host remoteIp remotePort preferredPort).2.tcpSockets slot).localIp =
        host.ipAddress := by
  rw [hostOpenConnection, tcpSocketAlloc]
  cases halloc : tcpAllocSlot host.tcpSockets with
  | none => exact ⟨hown, fun slot hcontra => absurd hcontra.symm (Option.some_ne_none slot)⟩
  | some slot =>
      dsimp only [Option.map_some]
      have hsockets := hostSelectTcpSourcePort_tcpSockets
        { host with tcpSockets := Function.update host.tcpSockets slot tcpSocketAllocated } remoteIp
        remotePort preferredPort
      have hip := hostSelectTcpSourcePort_ipAddress
        { host with tcpSockets := Function.update host.tcpSockets slot tcpSocketAllocated } remoteIp
        remotePort preferredPort
      generalize hostSelectTcpSourcePort _ remoteIp remotePort preferredPort = selected at hsockets hip ⊢
      have hothers : ∀ i, i ≠ slot → selected.2.tcpSockets i = host.tcpSockets i := fun i hi => by
        rw [hsockets]
        exact Function.update_of_ne hi _ _
      split
      · -- No port is left, and the slot is given back.
        dsimp only
        refine ⟨fun i huse => ?_, fun slot hcontra => absurd hcontra.symm (Option.some_ne_none slot)⟩
        by_cases hi : i = slot
        · subst hi
          rw [Function.update_self] at huse
          cases huse
        · rw [Function.update_of_ne hi, hothers i hi] at huse ⊢
          exact hown i huse
      · dsimp only
        refine ⟨fun i huse => ?_, fun other hother => ?_⟩
        · by_cases hi : i = slot
          · subst hi
            rw [Function.update_self]
            exact hip
          · rw [Function.update_of_ne hi, hothers i hi] at huse ⊢
            exact hown i huse
        · cases hother
          rw [Function.update_self]
          exact hip

theorem processTcpConnectSyn_steps {h : HostStack Ms} (hown : h.SocketsOwn) (targetIp : IpAddress)
    (dstPort : Int) (nowMs : Ms) :
    StackSteps none h (processTcpConnectSyn h targetIp dstPort nowMs).1
      (processTcpConnectSyn h targetIp dstPort nowMs).2 := by
  have hopened : (∀ i, ((processTcpConnect h.tcpHost targetIp dstPort).2.tcpSockets i).inUse = true →
      ((processTcpConnect h.tcpHost targetIp dstPort).2.tcpSockets i).localIp = h.ipAddress) ∧
      ∀ slot, (processTcpConnect h.tcpHost targetIp dstPort).1 = some slot →
        ((processTcpConnect h.tcpHost targetIp dstPort).2.tcpSockets slot).localIp = h.ipAddress := by
    rw [processTcpConnect]
    split
    · exact ⟨hown, fun slot hcontra => absurd hcontra.symm (Option.some_ne_none slot)⟩
    · exact @hostOpenConnection_own h.tcpHost hown targetIp _ _
  rw [processTcpConnectSyn]
  generalize processTcpConnect h.tcpHost targetIp dstPort = opened at hopened
  rcases opened with ⟨slot, host⟩
  cases slot with
  | none => exact .stays hopened.1 rfl
  | some slot =>
      exact hostSendSegment_steps (h := h.withTcpHost host) (.stays hown rfl) rfl hopened.1
        (tcpStoreChecksum_dataOffset _ _ _ _) (hopened.2 slot rfl) _ _ nowMs

omit [SimTime Ms] in
theorem processTcpListen_own {h : HostStack Ms} (hown : h.SocketsOwn) (port : Int) :
    (processTcpListen h port).SocketsOwn := by
  rw [processTcpListen]
  split
  · exact hown
  rw [tcpSocketAlloc]
  cases tcpAllocSlot h.tcpSockets with
  | none => exact hown
  | some slot =>
      intro i huse
      by_cases hi : i = slot
      · subst hi
        simp [tcpSocketListen, HostStack.ipAddress]
      · simp only [Option.map_some, Function.update_of_ne hi] at huse ⊢
        exact hown i huse

theorem processTcpSend_steps {h : HostStack Ms} (hown : h.SocketsOwn) (data : List UInt8) (nowMs : Ms) :
    StackSteps none h (processTcpSend h data nowMs).1 (processTcpSend h data nowMs).2 := by
  rw [processTcpSend]
  split
  · exact .stays hown rfl
  rename_i slot hslot
  have huse : (h.tcpSockets slot).inUse = true := (Bool.and_eq_true_iff.mp (tcpFirstSlot_eq_some hslot)).1
  split
  · exact .stays hown rfl
  rename_i socket segment hsend
  have hstays := magiSendTcp_stays hsend
  have hset : (h.setTcpSocket slot socket).SocketsOwn := socketsOwn_set hown slot (hstays.localIp (hown slot))
  rcases magiSendTcp_eq_some hsend with ⟨-, sendBuffer, hsocket, hsegment⟩
  refine hostSendSegment_steps (h := h.setTcpSocket slot socket) (.stays hown rfl) rfl hset ?_ ?_ _ _ nowMs
  · rw [hsegment]
    exact tcpStoreChecksum_dataOffset _ _ _ _
  · rw [hsocket]
    exact hown slot huse

omit [SimTime Ms] in
theorem processTcpRecv_own {h : HostStack Ms} (hown : h.SocketsOwn) : (processTcpRecv h).SocketsOwn := by
  rw [processTcpRecv]
  split
  · exact hown
  · rename_i slot hslot
    split
    · exact socketsOwn_set hown slot ((tcpSocketRecv_stays _ _).localIp (hown slot))
    · exact hown

theorem processTcpClose_steps {h : HostStack Ms} (hown : h.SocketsOwn) (nowMs : Ms) :
    StackSteps none h (processTcpClose h nowMs).1 (processTcpClose h nowMs).2 := by
  rw [processTcpClose]
  split
  · exact .stays hown rfl
  rename_i slot hslot
  have huse : (h.tcpSockets slot).inUse = true := (Bool.and_eq_true_iff.mp (tcpFirstSlot_eq_some hslot)).1
  have hstays := magiCloseTcp_stays (h.tcpSockets slot)
  dsimp only
  split
  · exact .stays hown rfl
  · rename_i closed fin hclose
    rw [hclose] at hstays
    have hset : (h.setTcpSocket slot closed).SocketsOwn :=
      socketsOwn_set hown slot (hstays.localIp (hown slot))
    refine hostSendSegment_steps (h := h.setTcpSocket slot closed) (.stays hown rfl) rfl hset ?_
      (hown slot huse) _ _ nowMs
    rw [magiCloseTcp] at hclose
    split at hclose
    all_goals cases hclose
    all_goals exact tcpStoreChecksum_dataOffset _ _ _ _

/-! ## Polling -/

omit [SimTime Ms] in
theorem hostDropReporting_fst [Sub Ms] (targetIp : IpAddress) (nowMs : Ms) (fuel : Nat) (host : ArpHost Ms)
    (icmp : HostIcmp Ms) :
    (hostDropReporting targetIp nowMs fuel (host, icmp)).1 = hostDropLoop targetIp fuel host := by
  induction fuel generalizing host icmp with
  | zero => rfl
  | succ fuel ih =>
      rw [hostDropReporting, hostDropLoop]
      rcases hostDequeuePendingPacketForIp host targetIp with ⟨_ | failed, rest⟩
      · rfl
      · exact ih _ _

theorem hostPollReporting_fst [Sub Ms] (pollMs nowMs : Ms) (fuel : Nat) (host : ArpHost Ms)
    (icmp : HostIcmp Ms) :
    (hostPollReporting pollMs nowMs fuel (host, icmp)).1 = hostPollArpLoop pollMs fuel host := by
  induction fuel generalizing host icmp with
  | zero => rfl
  | succ fuel ih =>
      rw [hostPollReporting, hostPollArpLoop]
      cases host.pending.find? (HostPendingPacket.isDue pollMs) with
      | none => rfl
      | some pending =>
          dsimp only
          split
          · rw [← hostDropReporting_fst pending.targetIp nowMs _ host icmp]
            exact ih _ _
          · exact ih _ _

/-- The reports are beside the polling, which is that of the address resolution alone. -/
theorem hostStackPollArp_run [Sub Ms] (h : HostStack Ms) (pollMs nowMs : Ms) :
    (hostStackPollArp h pollMs nowMs).run = hostStep h.run (.poll pollMs) := by
  rw [hostStackPollArp, hostStep, hostPollArp]
  exact congrArg (fun host => { h.run with host := host })
    (hostPollReporting_fst pollMs nowMs (4 * h.run.host.pendingQueue.size) h.run.host h.icmp)

/-- Every call keeps to what a step of a host may do. -/
theorem hostCall_steps [Zero Ms] [Sub Ms] {h : HostStack Ms} (hown : h.SocketsOwn) (call : HostCall Ms) :
    StackSteps none h (hostCall h call).1 (hostCall h call).2 := by
  have hstart : StackSteps none h h [] := .stays hown rfl
  cases call with
  | ping targetIp ttl sequence nowMs =>
      rw [hostCall, hostSendIcmpEchoRequest]
      split
      · exact hstart
      dsimp only
      have hcreate : icmpCreate icmpEchoRequest 0 0x1234 sequence icmpEchoPayload =
          some (pingMessage sequence) := by
        rw [icmpCreate, if_neg (by decide)]
        rfl
      rw [hcreate]
      dsimp only
      have hlength : (pingMessage sequence).payload.length ≤ icmpMaxPayload := by
        have hpayload : icmpEchoPayload.length ≤ icmpMaxPayload := by decide
        exact hpayload
      rw [icmpToBytes_eq hlength]
      dsimp only
      refine hostSendIpv4_steps hstart ?_ ?_ (some (.ping sequence)) ttl nowMs
        fun packet _ _ hprotocol hpayload => ⟨hprotocol, hpayload⟩
      · rfl
      · exact hown
  | sendto localPort data dstIp dstPort nowMs => exact magiSendto_steps hstart rfl hown localPort data dstIp dstPort nowMs
  | recvfrom localPort bufsize => exact .stays hown rfl
  | udpSend targetIp dstPort data nowMs =>
      rw [hostCall, processUdpSend]
      split
      · exact hstart
      · exact magiSendto_steps hstart rfl hown _ _ targetIp _ nowMs
  | tcpConnect targetIp dstPort nowMs => exact processTcpConnectSyn_steps hown targetIp dstPort nowMs
  | tcpListen port =>
      refine .stays (processTcpListen_own hown port) ?_
      rw [hostCall, processTcpListen]
      split
      · rfl
      · split
        all_goals rfl
  | tcpSend data nowMs => exact processTcpSend_steps hown data nowMs
  | tcpRecv =>
      refine .stays (processTcpRecv_own hown) ?_
      rw [hostCall, processTcpRecv]
      split
      · rfl
      · split
        all_goals rfl
  | tcpClose nowMs => exact processTcpClose_steps hown nowMs
  | dnsQuery serverIp queryId hostname reads =>
      rw [hostCall, cliDnsQuery]
      split
      · exact hstart
      split
      · exact hstart
      split
      · refine magiSendto_steps hstart ?_ ?_ _ _ serverIp _ reads.nowMs
        · rfl
        · exact hown
      · exact hstart
  | pollArp pollMs nowMs =>
      -- Nothing new is accepted: what waits is asked for again or dropped.
      have hrun := hostStackPollArp_run h pollMs nowMs
      refine ⟨Or.inr ⟨.poll pollMs, hrun, fun raw hcontra => (nomatch hcontra)⟩, fun a ha => ?_,
        fun _ _ hrecord => (nomatch hrecord), fun _ hrecord => (nomatch hrecord), fun i huse => ?_⟩
      · rw [hostCall, hrun] at ha
        exact Or.inl ha
      · have hip : (hostStackPollArp h pollMs nowMs).ipAddress = h.ipAddress := by
          rw [HostStack.ipAddress, hrun]
          exact ipAddress_hostStep h.run (.poll pollMs)
        exact (hown i huse).trans hip.symm

/-! ## Receiving -/

theorem icmpMessage_eq_some {type code : UInt8} {identifier sequence : UInt16} {payload raw : List UInt8}
    (h : icmpMessage type code identifier sequence payload = some raw) :
    raw = icmpBytes ⟨type, code, 0, identifier, sequence, payload⟩ := by
  by_cases hlength : payload.length ≤ icmpMaxPayload
  · rw [icmpMessage_eq hlength] at h
    exact (Option.some.inj h).symm
  · simp [icmpMessage, icmpCreate, Nat.lt_of_not_le hlength] at h

/-- What a host does about a packet that has come up. -/
theorem hostReceiveIpv4_steps [Sub Ms] {raw : List UInt8} {h : HostStack Ms} (hown : h.SocketsOwn)
    {packet : Ipv4Packet} (hpacket : hostIpv4Packet h.run.host raw = some packet) (reads : HostReads Ms) :
    StackSteps (some raw) h (hostReceiveIpv4 h packet reads).1
      ([.heard packet] ++ (hostReceiveIpv4 h packet reads).2) := by
  have hstart : StackSteps (some raw) h h [.heard packet] := by
    refine ⟨Or.inl rfl, fun a ha => Or.inl ha, fun cause p hrecord => ?_, fun p hrecord => ?_, hown⟩
    · cases List.mem_singleton.mp hrecord
    · cases List.mem_singleton.mp hrecord
      exact ⟨raw, rfl, hpacket⟩
  have hnothing : ∀ {h' : HostStack Ms}, h'.run = h.run → h'.SocketsOwn →
      StackSteps (some raw) h h' ([.heard packet] ++ []) := by
    intro h' hrun hown'
    exact (hstart.before_of_run hrun hown').of_run hrun.symm
  rw [hostReceiveIpv4]
  split
  · -- A datagram, for the DHCP server, the DNS server or a mailbox.
    rw [hostReceiveDatagram]
    split
    · exact hnothing rfl hown
    rename_i udp hudp
    dsimp only
    split
    · rw [hostDhcpDispatch]
      dsimp only
      split
      · exact hnothing rfl hown
      · split
        · refine magiSendto_steps hstart ?_ ?_ _ _ _ _ _
          · rfl
          · exact hown
        · exact hnothing rfl hown
    · rw [hostDnsDispatch]
      split
      · exact hnothing rfl hown
      · exact hnothing rfl hown
      · split
        · refine magiSendto_steps hstart ?_ ?_ _ _ _ _ _
          · rfl
          · exact hown
        · exact hnothing rfl hown
    · exact hnothing rfl hown
  split
  · -- A segment, which the socket that takes it may answer.
    rw [hostReceiveSegment]
    split
    · exact hnothing rfl hown
    rename_i segment hsegment
    have hsockets := @hostReceiveTcp_own h.tcpSockets h.ipAddress hown segment packet.srcIp packet.dstIp
    dsimp only
    split
    · exact hnothing rfl hsockets
    · rename_i response hreply
      refine hostSendSegment_steps hstart ?_ ?_ (hostReceiveTcp_dataOffset hreply) rfl _ _ _
      · rfl
      · exact hsockets
  split
  · -- An ICMP message: echo requests are answered, and the rest is kept for the application.
    rename_i hprotocol
    rw [hostReceiveIcmp]
    split
    · exact hnothing rfl hown
    rename_i icmp hicmp
    dsimp only
    split
    · rename_i htype
      split
      · exact hnothing rfl hown
      · rename_i icmpRaw hmessage
        refine hostSendIpv4_steps hstart ?_ ?_ none ipv4DefaultTtl _
          fun answer hsrc hdst hmine hpayload => ?_
        · rfl
        · exact hown
        exact .echoReply packet icmp List.mem_cons_self hprotocol hicmp htype hsrc hdst hmine
          (hpayload.trans (icmpMessage_eq_some hmessage))
    · split
      · exact hnothing rfl hown
      · exact hnothing rfl hown
  · exact hnothing rfl hown

/-- What a host does about a frame. -/
theorem hostStackReceive_steps [Sub Ms] {h : HostStack Ms} (hown : h.SocketsOwn) (raw : List UInt8)
    (reads : HostReads Ms) :
    StackSteps (some raw) h (hostStackReceive h raw reads).1 (hostStackReceive h raw reads).2 := by
  rw [hostStackReceive]
  split
  · rename_i packet hpacket
    exact hostReceiveIpv4_steps hown hpacket reads
  · refine ⟨Or.inr ⟨.receive raw, rfl, fun other hother => ?_⟩, fun a ha => Or.inl ha,
      fun _ _ hrecord => (nomatch hrecord), fun _ hrecord => (nomatch hrecord), fun i huse => ?_⟩
    · cases hother
      rfl
    · exact (hown i huse).trans (ipAddress_hostStep h.run (.receive raw)).symm

end Steps

end MagiStack
