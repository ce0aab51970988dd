import MagiStack.Layer2.HostPending
import MagiStack.Layer7.MagiSocket

/-!
# CallFailure — what a call that returns `-1` leaves behind

`magi_send` and `magi_close` of `layer7/magi_socket.c` with the host they send through.  Both change the
connection and then call `host_send_l3_packet`, which can still refuse the packet.  It refuses before anything
is handed to the interface, so nothing comes back in the middle of a call that fails.
-/

namespace MagiStack

/-- The descriptors and TCP tables, and what resolves addresses on each host. -/
structure MagiNet (H : Type*) (Ms : Type) where
  system : MagiSystem H
  arpHosts : H → ArpHost Ms

/-- The IPv4 packet of a segment: `packet_to_bytes`, `ipv4_create`, `packet_to_bytes`. -/
def tcpPacketBytes (segment : TcpSegment) (outSize : Nat) (srcIp dstIp : IpAddress) :
    Option (List UInt8) := do
  let tcpRaw ← tcpToBytes segment outSize
  let packet ← ipv4Create srcIp dstIp ipv4DefaultTtl ipv4ProtocolTcp tcpRaw
  ipv4ToBytes packet (ipv4HeaderSize + ipv4MaxPayload)

section Calls

variable {H : Type*} [DecidableEq H] {Ms : Type}

namespace MagiNet

/-- `*p = socket`. -/
def setSlot (n : MagiNet H Ms) (p : H × Fin tcpMaxSockets) (socket : TcpSocket) : MagiNet H Ms :=
  { n with system := n.system.setSlot p socket }

/-- `memset(sock, 0, sizeof(MagiSocket))`. -/
def clearSocket (n : MagiNet H Ms) (d : Fin magiSocketMaxSockets) : MagiNet H Ms :=
  { n with system := n.system.setSocket d magiSocketZero }

/-- `host_send_l3_packet` of an IPv4 packet. -/
def hostSend (n : MagiNet H Ms) (host : H) (targetIp : IpAddress) (ipRaw : List UInt8) (nowMs : Ms)
    (number : Nat) : Bool × MagiNet H Ms :=
  let (sent, arpHost) :=
    hostSendL3Packet (n.arpHosts host) targetIp ethernetTypeIpv4 ipRaw nowMs number
  (sent, { n with arpHosts := Function.update n.arpHosts host arpHost })

end MagiNet

/-- `magi_send` on a TCP descriptor: what it returns, and the state after it. -/
def magiSendCall (n : MagiNet H Ms) (sockfd : Int) (data : List UInt8) (nowMs : Ms) (number : Nat) :
    Int × MagiNet H Ms :=
  match n.system.lookup sockfd with
  | none => (-1, n)
  | some d =>
      match (n.system.sockets d).sockType, (n.system.sockets d).tcpSock,
        (n.system.sockets d).host with
      | .tcp, some p, some host =>
          if data.isEmpty || tcpMaxPayload < data.length then
            (-1, n)
          else
            match tcpSocketSend (n.system.slot p) data with
            | none => (-1, n)
            | some socket =>
                match tcpPacketBytes (tcpDataSegment socket data) (tcpHeaderSize + tcpMaxPayload)
                    socket.localIp socket.remoteIp with
                | none => (-1, n.setSlot p socket)
                | some ipRaw =>
                    let n := n.setSlot p
                      { socket with sendSeq := socket.sendSeq + UInt32.ofNat data.length }
                    let (sent, n) := n.hostSend host socket.remoteIp ipRaw nowMs number
                    (if sent then data.length else -1, n)
      | _, _, _ => (-1, n)

/-- `magi_close` in `TCP_ESTABLISHED` and `TCP_CLOSE_WAIT`. -/
def magiCloseFin (n : MagiNet H Ms) (d : Fin magiSocketMaxSockets) (p : H × Fin tcpMaxSockets)
    (host : H) (nowMs : Ms) (number : Nat) : Int × MagiNet H Ms :=
  let socket := n.system.slot p
  match tcpPacketBytes (tcpFinSegment socket) tcpHeaderSize socket.localIp socket.remoteIp with
  | none => (-1, n)
  | some ipRaw =>
      match tcpSocketClose socket with
      | (false, _) => (-1, n)
      | (true, socket) =>
          let n := n.setSlot p { socket with sendSeq := socket.sendSeq + 1 }
          let (sent, n) := n.hostSend host socket.remoteIp ipRaw nowMs number
          if sent then (1, n.clearSocket d) else (-1, n)

/-- `magi_close`: what it returns, and the state after it. -/
def magiCloseCall (n : MagiNet H Ms) (sockfd : Int) (nowMs : Ms) (number : Nat) :
    Int × MagiNet H Ms :=
  match n.system.lookup sockfd with
  | none => (-1, n)
  | some d =>
      match (n.system.sockets d).sockType, (n.system.sockets d).tcpSock,
        (n.system.sockets d).host with
      | .tcp, some p, some host =>
          match (n.system.slot p).state with
          | .established | .closeWait => magiCloseFin n d p host nowMs number
          | .closed | .listen | .synSent | .synReceived =>
              (1, (n.setSlot p tcpSocketFree).clearSocket d)
          | _ => (1, n.clearSocket d)
      | _, _, _ => (1, n.clearSocket d)

/-! ## Failing without a trace -/

/-- A call on a connection. -/
inductive MagiTcpCall
  | send (sockfd : Int) (data : List UInt8)
  | close (sockfd : Int)

namespace MagiTcpCall

def sockfd : MagiTcpCall → Int
  | .send sockfd _ => sockfd
  | .close sockfd => sockfd

/-- What has to be as it was. -/
def Keeps : MagiTcpCall → TcpSocket → TcpSocket → Prop
  | .send _ _, before, after =>
      after.state = before.state ∧ after.sendSeq = before.sendSeq ∧
        after.sendBuffer = before.sendBuffer
  | .close _, before, after => after.state = before.state ∧ after.sendSeq = before.sendSeq

/-- The call passes all checks before the packet is handed to the host. -/
def Starts (socket : TcpSocket) : MagiTcpCall → Prop
  | .send _ data =>
      data ≠ [] ∧ data.length ≤ tcpMaxPayload ∧ socket.state = .established ∧
        socket.sendBuffer.data.length + data.length ≤ tcpSocketBufferSize
  | .close _ => socket.state = .established ∨ socket.state = .closeWait

end MagiTcpCall

/-- `host_send_l3_packet` does not take a packet: the host has no address, or it does not know the next hop
and its queue is full. -/
def hostRefuses (host : ArpHost Ms) (targetIp : IpAddress) : Prop :=
  ipIsBroadcast targetIp = false ∧
    (host.hasIp = false ∨
      arpTableGetConst host.arpTable (hostNextHop host targetIp) = none ∧
        hostPendingQueueMaxEntries ≤ host.pendingQueue.size)

namespace MagiNet

def call (n : MagiNet H Ms) (call : MagiTcpCall) (nowMs : Ms) (number : Nat) : Int × MagiNet H Ms :=
  match call with
  | .send sockfd data => magiSendCall n sockfd data nowMs number
  | .close sockfd => magiCloseCall n sockfd nowMs number

/-- The slot of a TCP descriptor. -/
def tcpSlot (n : MagiNet H Ms) (sockfd : Int) : Option (H × Fin tcpMaxSockets) :=
  (n.system.lookup sockfd).bind fun d =>
    if (n.system.sockets d).sockType = .tcp then (n.system.sockets d).tcpSock else none

/-- A call that returns `-1` leaves the descriptor with its slot, and the connection in it. -/
def FailureKeeps (n : MagiNet H Ms) (call : MagiTcpCall) (nowMs : Ms) (number : Nat) : Prop :=
  ∀ p, n.tcpSlot call.sockfd = some p → (n.call call nowMs number).1 = -1 →
    (n.call call nowMs number).2.tcpSlot call.sockfd = some p ∧
      call.Keeps (n.system.slot p) ((n.call call nowMs number).2.system.slot p)

/-- The condition: a call that passes its checks is on a host that takes the packet. -/
def CallOk (n : MagiNet H Ms) (call : MagiTcpCall) : Prop :=
  ∀ d p host, n.system.lookup call.sockfd = some d → (n.system.sockets d).sockType = .tcp →
    (n.system.sockets d).tcpSock = some p → (n.system.sockets d).host = some host →
    call.Starts (n.system.slot p) → ¬ hostRefuses (n.arpHosts host) (n.system.slot p).remoteIp

end MagiNet

/-! ## When the host refuses -/

theorem hostSendL3Packet_false_iff (host : ArpHost Ms) (targetIp : IpAddress) (ethertype : UInt16)
    {payload : List UInt8} (hpayload : payload.length ≤ ethernetMaxPayload) (nowMs : Ms)
    (number : Nat) :
    (hostSendL3Packet host targetIp ethertype payload nowMs number).1 = false ↔
      hostRefuses host targetIp := by
  rw [hostSendL3Packet, if_neg (not_lt.mpr hpayload), hostRefuses]
  cases hbroadcast : ipIsBroadcast targetIp with
  | true =>
      rw [if_pos rfl, hostSendEthernetFrame_eq _ _ _ _ hpayload]
      exact ⟨fun h => (by cases h), fun h => by cases h.1⟩
  | false =>
      rw [if_neg Bool.false_ne_true]
      cases hhasIp : host.hasIp with
      | false => exact ⟨fun _ => ⟨rfl, Or.inl rfl⟩, fun _ => rfl⟩
      | true =>
          rw [Bool.not_true, if_neg Bool.false_ne_true]
          dsimp only
          cases hentry : arpTableGetConst host.arpTable (hostNextHop host targetIp) with
          | some mac =>
              dsimp only
              rw [hostSendEthernetFrame_eq _ _ _ _ hpayload]
              exact ⟨fun h => (by cases h), fun h => h.2.elim (fun h => by cases h) fun h => by cases h.1⟩
          | none =>
              dsimp only
              rw [hostQueuePendingPacketWithArpState, dif_pos hpayload]
              by_cases hfull : hostPendingQueueMaxEntries ≤ host.pendingQueue.size
              · rw [if_pos hfull]
                exact ⟨fun _ => ⟨rfl, Or.inr ⟨rfl, hfull⟩⟩, fun _ => rfl⟩
              · rw [if_neg hfull]
                dsimp only
                refine ⟨fun h => ?_, fun h => h.2.elim (fun h => by cases h) fun h => absurd h.2 hfull⟩
                -- The request for the address always goes out.
                split at h
                · cases h
                · have hasks := fun packet => @hostSendArpRequest_eq Ms
                    { host with pendingQueue := host.pendingQueue.push packet } hhasIp
                    (hostNextHop host targetIp)
                  rcases hasks _ with ⟨frame, hsent⟩
                  rw [hsent] at h
                  cases h

/-- A segment of at most the maximum payload fits an Ethernet frame. -/
theorem tcpPacketBytes_eq {segment : TcpSegment} (outSize : Nat) (srcIp dstIp : IpAddress)
    (hpayload : segment.payload.length ≤ tcpMaxPayload)
    (hroom : tcpHeaderSize + segment.payload.length ≤ outSize) :
    ∃ ipRaw, tcpPacketBytes segment outSize srcIp dstIp = some ipRaw ∧
      ipRaw.length ≤ ethernetMaxPayload := by
  have hlength := tcpBytes_length segment
  have hfits : (tcpBytes segment).length ≤ ipv4MaxPayload := by
    rw [hlength]
    exact Nat.add_le_add_left hpayload 20
  rw [tcpPacketBytes, tcpToBytes, if_neg (not_lt.mpr hpayload), if_neg (not_lt.mpr hroom),
    Option.bind_eq_bind, Option.bind_some, ipv4Create, if_neg (not_lt.mpr hfits), Option.bind_eq_bind,
    Option.bind_some, ipv4ToBytes_eq hfits]
  refine ⟨_, rfl, ?_⟩
  rw [ipv4Bytes_length]
  exact Nat.add_le_add_left hfits 20

/-! ## The calls -/

theorem hostSend_fst (n : MagiNet H Ms) (host : H) (targetIp : IpAddress) {ipRaw : List UInt8}
    (hfits : ipRaw.length ≤ ethernetMaxPayload) (nowMs : Ms) (number : Nat) :
    (n.hostSend host targetIp ipRaw nowMs number).1 = false ↔ hostRefuses (n.arpHosts host) targetIp :=
  hostSendL3Packet_false_iff (n.arpHosts host) targetIp ethernetTypeIpv4 hfits nowMs number

theorem slot_self (s : MagiSystem H) (p : H × Fin tcpMaxSockets) (socket : TcpSocket) :
    (s.setSlot p socket).slot p = socket :=
  (MagiSystem.slot_setSlot s p p socket).trans (if_pos rfl)

/-- The descriptors and tables after the call are those of `magiSend`. -/
theorem magiSendCall_system (n : MagiNet H Ms) (sockfd : Int) (data : List UInt8) (nowMs : Ms)
    (number : Nat) :
    (magiSendCall n sockfd data nowMs number).2.system = magiSend n.system sockfd data := by
  rw [magiSendCall, magiSend]
  cases n.system.lookup sockfd with
  | none => rfl
  | some d =>
      dsimp only
      -- Without a connection both give up.
      cases (n.system.sockets d).sockType with
      | unused => rfl
      | udp => rfl
      | tcp =>
          cases (n.system.sockets d).tcpSock with
          | none => rfl
          | some p =>
              cases (n.system.sockets d).host with
              | none => rfl
              | some host =>
                  dsimp only [magiSendTcp]
                  by_cases hchecks : (data.isEmpty || decide (tcpMaxPayload < data.length)) = true
                  · rw [if_pos hchecks, if_pos hchecks]
                  · rw [if_neg hchecks, if_neg hchecks]
                    cases tcpSocketSend (n.system.slot p) data with
                    | none => rfl
                    | some socket =>
                        rw [Bool.or_eq_true, not_or, decide_eq_true_iff, not_lt] at hchecks
                        have hpayload : (tcpDataSegment socket data).payload = data :=
                          tcpStoreChecksum_payload _ _ _ _
                        rcases tcpPacketBytes_eq (tcpHeaderSize + tcpMaxPayload) socket.localIp
                          socket.remoteIp (hpayload.symm ▸ hchecks.2)
                          (hpayload.symm ▸ Nat.add_le_add_left hchecks.2 tcpHeaderSize) with
                          ⟨ipRaw, hpacket, -⟩
                        dsimp only [Option.map_some]
                        rw [hpacket]
                        rfl

/-- `magi_send` past its checks. -/
theorem magiSendCall_starts {n : MagiNet H Ms} {sockfd : Int} {data : List UInt8}
    {d : Fin magiSocketMaxSockets} {p : H × Fin tcpMaxSockets} {host : H}
    (hlookup : n.system.lookup sockfd = some d) (htype : (n.system.sockets d).sockType = .tcp)
    (hslot : (n.system.sockets d).tcpSock = some p) (hhost : (n.system.sockets d).host = some host)
    (hstarts : (MagiTcpCall.send sockfd data).Starts (n.system.slot p)) (nowMs : Ms) (number : Nat) :
    ((magiSendCall n sockfd data nowMs number).1 = -1 ↔
        hostRefuses (n.arpHosts host) (n.system.slot p).remoteIp) ∧
      ((magiSendCall n sockfd data nowMs number).2.system.slot p).sendSeq =
        (n.system.slot p).sendSeq + UInt32.ofNat data.length := by
  rcases hstarts with ⟨hdata, hlength, hstate, hroom⟩
  have hempty : data.isEmpty = false := by
    simpa using hdata
  have hchecks : ¬ (data.isEmpty || decide (tcpMaxPayload < data.length)) = true := by
    rw [hempty, Bool.false_or, decide_eq_true_iff]
    exact not_lt.mpr hlength
  -- The data fit into the send buffer and their segment into a packet, so that only the host can refuse.
  have hbuffered : ∃ socket, tcpSocketSend (n.system.slot p) data = some socket ∧
      socket.sendSeq = (n.system.slot p).sendSeq ∧ socket.remoteIp = (n.system.slot p).remoteIp := by
    rw [tcpSocketSend, hempty, if_neg Bool.false_ne_true, if_neg (not_not.mpr hstate),
      if_neg (not_lt.mpr hroom)]
    exact ⟨_, rfl, rfl, rfl⟩
  rcases hbuffered with ⟨socket, hbuffered, hseq, hremote⟩
  constructor
  case right =>
    rw [magiSendCall_system, magiSend, hlookup]
    dsimp only
    rw [htype, hslot, hhost]
    dsimp only
    rw [magiSendTcp, if_neg hchecks, hbuffered, ← hseq]
    exact congrArg TcpSocket.sendSeq (slot_self n.system p _)
  have hpayload : (tcpDataSegment socket data).payload = data := tcpStoreChecksum_payload _ _ _ _
  rcases tcpPacketBytes_eq (tcpHeaderSize + tcpMaxPayload) socket.localIp socket.remoteIp
    (hpayload.symm ▸ hlength) (hpayload.symm ▸ Nat.add_le_add_left hlength tcpHeaderSize) with
    ⟨ipRaw, hpacket, hfits⟩
  have hsent := hostSend_fst (n.setSlot p
    { socket with sendSeq := socket.sendSeq + UInt32.ofNat data.length }) host socket.remoteIp hfits
    nowMs number
  rw [magiSendCall, hlookup]
  dsimp only
  rw [htype, hslot, hhost]
  dsimp only
  rw [if_neg hchecks, hbuffered]
  dsimp only
  rw [hpacket]
  rw [← hremote]
  refine Iff.trans ?_ hsent
  dsimp only
  cases (MagiNet.hostSend _ host socket.remoteIp ipRaw nowMs number).1 with
  | false => simp
  | true => simp

/-- `magi_send` that does not come past its checks. -/
theorem magiSendCall_stays {n : MagiNet H Ms} {sockfd : Int} {data : List UInt8}
    {d : Fin magiSocketMaxSockets} {p : H × Fin tcpMaxSockets}
    (hlookup : n.system.lookup sockfd = some d) (hslot : (n.system.sockets d).tcpSock = some p)
    (hnot : ∀ host, (n.system.sockets d).host = some host →
      ¬ (MagiTcpCall.send sockfd data).Starts (n.system.slot p)) (nowMs : Ms) (number : Nat) :
    (magiSendCall n sockfd data nowMs number).2 = n := by
  rw [magiSendCall, hlookup]
  dsimp only
  split
  · rename_i q host _ hq hhost
    cases hslot.symm.trans hq
    split
    · rfl
    · rename_i hchecks
      rw [Bool.or_eq_true, not_or, decide_eq_true_iff, not_lt] at hchecks
      have hdata : data ≠ [] := by
        simpa using hchecks.1
      -- Of the checks of `tcp_socket_send` one fails.
      have hnone : tcpSocketSend (n.system.slot p) data = none := by
        rw [tcpSocketSend, if_neg hchecks.1]
        by_cases hstate : (n.system.slot p).state = .established
        · rw [if_neg (not_not.mpr hstate)]
          refine if_pos (not_le.mp fun hroom => hnot host hhost ?_)
          exact ⟨hdata, hchecks.2, hstate, hroom⟩
        · exact if_pos hstate
      rw [hnone]
  · rfl

/-- `magi_close` that sends a FIN. -/
theorem magiCloseCall_starts {n : MagiNet H Ms} {sockfd : Int}
    {d : Fin magiSocketMaxSockets} {p : H × Fin tcpMaxSockets} {host : H}
    (hlookup : n.system.lookup sockfd = some d) (htype : (n.system.sockets d).sockType = .tcp)
    (hslot : (n.system.sockets d).tcpSock = some p) (hhost : (n.system.sockets d).host = some host)
    (hstarts : (MagiTcpCall.close sockfd).Starts (n.system.slot p)) (nowMs : Ms) (number : Nat) :
    ((magiCloseCall n sockfd nowMs number).1 = -1 ↔
        hostRefuses (n.arpHosts host) (n.system.slot p).remoteIp) ∧
      ∃ socket, (socket.state = .finWait1 ∨ socket.state = .lastAck) ∧
        socket.sendSeq = (n.system.slot p).sendSeq + 1 ∧
        (magiCloseCall n sockfd nowMs number).2.system.slot p = socket ∧
        ((magiCloseCall n sockfd nowMs number).1 = -1 →
          (magiCloseCall n sockfd nowMs number).2.system = n.system.setSlot p socket) := by
  have hfin : magiCloseCall n sockfd nowMs number = magiCloseFin n d p host nowMs number := by
    rw [magiCloseCall, hlookup]
    dsimp only
    rw [htype, hslot, hhost]
    dsimp only
    rcases hstarts with hstate | hstate
    · rw [hstate]
    · rw [hstate]
  -- The socket is closed whether or not its FIN can be sent.
  have hclosed : ∃ socket, tcpSocketClose (n.system.slot p) = (true, socket) ∧
      (socket.state = .finWait1 ∨ socket.state = .lastAck) ∧
      socket.sendSeq = (n.system.slot p).sendSeq ∧ socket.remoteIp = (n.system.slot p).remoteIp := by
    rw [tcpSocketClose]
    rcases hstarts with hstate | hstate
    · rw [hstate]
      exact ⟨_, rfl, Or.inl rfl, rfl, rfl⟩
    · rw [hstate]
      exact ⟨_, rfl, Or.inr rfl, rfl, rfl⟩
  rcases hclosed with ⟨socket, hclosed, hstate, hseq, hremote⟩
  have hpayload : (tcpFinSegment (n.system.slot p)).payload = [] := tcpStoreChecksum_payload _ _ _ _
  have hshort : (tcpFinSegment (n.system.slot p)).payload.length ≤ tcpMaxPayload := by
    rw [hpayload]
    exact Nat.zero_le _
  have hroom : tcpHeaderSize + (tcpFinSegment (n.system.slot p)).payload.length ≤ tcpHeaderSize := by
    rw [hpayload]
    exact le_refl _
  rcases tcpPacketBytes_eq tcpHeaderSize (n.system.slot p).localIp (n.system.slot p).remoteIp hshort
    hroom with ⟨ipRaw, hpacket, hfits⟩
  have hsent := hostSend_fst (n.setSlot p { socket with sendSeq := socket.sendSeq + 1 }) host
    socket.remoteIp hfits nowMs number
  have hslot' := slot_self n.system p { socket with sendSeq := socket.sendSeq + 1 }
  rw [hfin, magiCloseFin]
  dsimp only
  rw [hpacket, hclosed, ← hremote, ← hseq]
  refine ⟨Iff.trans ?_ hsent, { socket with sendSeq := socket.sendSeq + 1 }, hstate, rfl, ?_, ?_⟩
  · dsimp only
    cases (MagiNet.hostSend _ host socket.remoteIp ipRaw nowMs number).1 with
    | false => simp
    | true => simp
  · dsimp only
    split
    · exact hslot'
    · exact hslot'
  · dsimp only
    split
    · exact fun h => (nomatch h)
    · exact fun _ => rfl

/-- `magi_close` that sends nothing does not fail. -/
theorem magiCloseCall_stays {n : MagiNet H Ms} {sockfd : Int} {d : Fin magiSocketMaxSockets}
    {p : H × Fin tcpMaxSockets} (hlookup : n.system.lookup sockfd = some d)
    (hslot : (n.system.sockets d).tcpSock = some p)
    (hnot : ∀ host, (n.system.sockets d).host = some host →
      ¬ (MagiTcpCall.close sockfd).Starts (n.system.slot p)) (nowMs : Ms) (number : Nat) :
    (magiCloseCall n sockfd nowMs number).1 ≠ -1 := by
  rw [magiCloseCall, hlookup]
  dsimp only
  split
  · rename_i q host _ hq hhost
    cases hslot.symm.trans hq
    split
    · rename_i hstate
      exact absurd (Or.inl hstate) (hnot host hhost)
    · rename_i hstate
      exact absurd (Or.inr hstate) (hnot host hhost)
    all_goals exact fun h => (nomatch h)
  · exact fun h => (nomatch h)

/-- After a `magi_close` that failed for the host the FIN is never sent: the next `magi_close` clears the
descriptor and leaves every host alone. -/
theorem magiCloseCall_after_failure {n : MagiNet H Ms} {sockfd : Int} {d : Fin magiSocketMaxSockets}
    {p : H × Fin tcpMaxSockets} {host : H} (hlookup : n.system.lookup sockfd = some d)
    (htype : (n.system.sockets d).sockType = .tcp) (hslot : (n.system.sockets d).tcpSock = some p)
    (hhost : (n.system.sockets d).host = some host)
    (hstarts : (MagiTcpCall.close sockfd).Starts (n.system.slot p)) {nowMs : Ms} {number : Nat}
    (hfails : (magiCloseCall n sockfd nowMs number).1 = -1) (later : MagiNet H Ms)
    (hlater : later.system = (magiCloseCall n sockfd nowMs number).2.system) (laterMs : Ms)
    (laterNumber : Nat) :
    magiCloseCall later sockfd laterMs laterNumber = (1, later.clearSocket d) := by
  rcases magiCloseCall_starts hlookup htype hslot hhost hstarts nowMs number with
    ⟨-, socket, hstate, -, -, hsystem⟩
  rw [hsystem hfails] at hlater
  have hsockets : later.system.sockets = n.system.sockets := by
    rw [hlater]
    rfl
  have hlookup' : later.system.lookup sockfd = some d := by
    rw [MagiSystem.lookup, hsockets]
    exact hlookup
  have hfound : later.system.slot p = socket := by
    rw [hlater]
    exact slot_self n.system p socket
  rw [magiCloseCall, hlookup']
  dsimp only
  rw [hsockets, htype, hslot, hhost]
  dsimp only
  rw [hfound]
  rcases hstate with hstate | hstate
  · rw [hstate]
  · rw [hstate]

namespace MagiTcpCall

theorem keeps_refl (call : MagiTcpCall) (socket : TcpSocket) : call.Keeps socket socket := by
  cases call with
  | send _ _ => exact ⟨rfl, rfl, rfl⟩
  | close _ => exact ⟨rfl, rfl⟩

theorem Keeps.sendSeq {call : MagiTcpCall} {before after : TcpSocket}
    (h : call.Keeps before after) : after.sendSeq = before.sendSeq := by
  cases call with
  | send _ _ => exact h.2.1
  | close _ => exact h.2

end MagiTcpCall

namespace MagiNet

omit [DecidableEq H] in
theorem tcpSlot_eq_some_iff {n : MagiNet H Ms} {sockfd : Int} {p : H × Fin tcpMaxSockets} :
    n.tcpSlot sockfd = some p ↔
      ∃ d, n.system.lookup sockfd = some d ∧ (n.system.sockets d).sockType = .tcp ∧
        (n.system.sockets d).tcpSock = some p := by
  rw [tcpSlot, Option.bind_eq_some_iff]
  refine exists_congr fun d => and_congr Iff.rfl ?_
  by_cases htype : (n.system.sockets d).sockType = .tcp
  · rw [if_pos htype, and_iff_right htype]
  · rw [if_neg htype]
    exact ⟨fun h => (nomatch h), fun h => absurd h.1 htype⟩

/-- A call past its checks fails when the host refuses, and counts on whether it does or not. -/
theorem call_starts {n : MagiNet H Ms} {call : MagiTcpCall} {d : Fin magiSocketMaxSockets}
    {p : H × Fin tcpMaxSockets} {host : H} (hlookup : n.system.lookup call.sockfd = some d)
    (htype : (n.system.sockets d).sockType = .tcp) (hslot : (n.system.sockets d).tcpSock = some p)
    (hhost : (n.system.sockets d).host = some host) (hstarts : call.Starts (n.system.slot p))
    (nowMs : Ms) (number : Nat) :
    ((n.call call nowMs number).1 = -1 ↔
        hostRefuses (n.arpHosts host) (n.system.slot p).remoteIp) ∧
      ((n.call call nowMs number).2.system.slot p).sendSeq ≠ (n.system.slot p).sendSeq := by
  cases call with
  | send sockfd data =>
      have hcall := magiSendCall_starts hlookup htype hslot hhost hstarts nowMs number
      refine ⟨hcall.1, fun hsame => ?_⟩
      have hcount : UInt32.ofNat data.length = 0 :=
        add_eq_left.mp (hcall.2.symm.trans hsame)
      have hlength : data.length < UInt32.size := hstarts.2.1.trans_lt (by decide)
      have hzero : data.length = 0 :=
        (UInt32.toNat_ofNat_of_lt' hlength).symm.trans (congrArg UInt32.toNat hcount)
      exact hstarts.1 (List.length_eq_zero_iff.mp hzero)
  | close sockfd =>
      rcases magiCloseCall_starts hlookup htype hslot hhost hstarts nowMs number with
        ⟨hfails, socket, -, hseq, hslot', -⟩
      refine ⟨hfails, fun hsame => ?_⟩
      have hstill := (congrArg TcpSocket.sendSeq hslot').symm.trans hsame
      exact absurd (add_eq_left.mp (hseq.symm.trans hstill)) (by decide)

/-- A call that fails before that changes nothing. -/
theorem call_stays {n : MagiNet H Ms} {call : MagiTcpCall} {d : Fin magiSocketMaxSockets}
    {p : H × Fin tcpMaxSockets} (hlookup : n.system.lookup call.sockfd = some d)
    (hslot : (n.system.sockets d).tcpSock = some p)
    (hnot : ∀ host, (n.system.sockets d).host = some host → ¬ call.Starts (n.system.slot p))
    (nowMs : Ms) (number : Nat) (hfails : (n.call call nowMs number).1 = -1) :
    (n.call call nowMs number).2 = n := by
  cases call with
  | send sockfd data => exact magiSendCall_stays hlookup hslot hnot nowMs number
  | close sockfd =>
      exact absurd hfails (magiCloseCall_stays hlookup hslot hnot nowMs number)

end MagiNet

/-- A call that fails leaves the connection as it was exactly when it fails its own checks, or is on a host that
takes the packet. -/
theorem failed_call_keeps_iff (n : MagiNet H Ms) (call : MagiTcpCall) (nowMs : Ms) (number : Nat) :
    n.FailureKeeps call nowMs number ↔ n.CallOk call := by
  constructor
  · intro hkeeps d p host hlookup htype hslot hhost hstarts hrefuses
    have hcall := MagiNet.call_starts hlookup htype hslot hhost hstarts nowMs number
    have hp := MagiNet.tcpSlot_eq_some_iff.mpr ⟨d, hlookup, htype, hslot⟩
    exact hcall.2 (MagiTcpCall.Keeps.sendSeq (hkeeps p hp (hcall.1.mpr hrefuses)).2)
  · intro hok p hp hfails
    rcases MagiNet.tcpSlot_eq_some_iff.mp hp with ⟨d, hlookup, htype, hslot⟩
    have hnot : ∀ host, (n.system.sockets d).host = some host →
        ¬ call.Starts (n.system.slot p) := by
      intro host hhost hstarts
      have hcall := MagiNet.call_starts hlookup htype hslot hhost hstarts nowMs number
      exact hok d p host hlookup htype hslot hhost hstarts (hcall.1.mp hfails)
    rw [MagiNet.call_stays hlookup hslot hnot nowMs number hfails]
    exact ⟨hp, call.keeps_refl _⟩

end Calls

/-- The descriptor `0` of one host: an established connection from `10.0.0.1` to `10.0.0.2`.  The host waits for
the address of `10.0.0.9` with a full queue and has forgotten that of `10.0.0.2`. -/
def waitingNet : MagiNet Unit Nat :=
  { system :=
      { hosts := fun _ =>
          { ipAddress := ⟨10, 0, 0, 1, 24⟩
            tcpSockets := fun _ =>
              { tcpSocketFree with
                inUse := true
                state := .established
                localIp := ⟨10, 0, 0, 1, 24⟩
                localPort := 49152
                remoteIp := ⟨10, 0, 0, 2, 0⟩
                remotePort := 80
                sendSeq := 1001
                recvSeq := 1 }
            nextTcpSourcePort := 49153 }
        sockets := fun _ =>
          { (magiSocketZero : MagiSocket Unit) with
            inUse := true
            sockType := .tcp
            tcpSock := some ((), 0)
            host := some () } }
    arpHosts := fun _ =>
      { hasIp := true
        ipAddress := ⟨10, 0, 0, 1, 24⟩
        defaultGateway := ipZero
        macAddress := ⟨2, 0, 0, 0, 0, 1⟩
        arpTable := arpTableInit
        pendingQueue :=
          { items := fun _ =>
              { targetIp := ⟨10, 0, 0, 9, 24⟩
                ethertype := ethernetTypeIpv4
                payload := []
                payload_le := Nat.zero_le _
                arpAttempts := 1
                arpLastAttemptMs := 0
                number := 0 }
            head := 0
            tail := 0
            size := 64 }
        log := [] } }

/-- `magi_send` of one byte returns `-1` and keeps the byte and the advanced sequence number; `magi_close` returns
`-1` in the state after the FIN, and the next one clears the descriptor and sends nothing. -/
theorem failed_call_keeps_iff_waiting :
    ¬ waitingNet.FailureKeeps (.send 0 [65]) 0 0 ∧ ¬ waitingNet.FailureKeeps (.close 0) 0 0 ∧
      magiCloseCall (magiCloseCall waitingNet 0 0 0).2 0 0 1 =
        (1, (magiCloseCall waitingNet 0 0 0).2.clearSocket 0) := by
  have hfull : hostPendingQueueMaxEntries ≤ (waitingNet.arpHosts ()).pendingQueue.size := by
    decide
  have hrefuses : hostRefuses (waitingNet.arpHosts ()) ⟨10, 0, 0, 2, 0⟩ :=
    ⟨rfl, Or.inr ⟨rfl, hfull⟩⟩
  have hcloses : (MagiTcpCall.close 0).Starts (waitingNet.system.slot ((), 0)) := Or.inl rfl
  have hclose := @MagiNet.call_starts Unit _ Nat waitingNet (.close 0) 0 ((), 0) () rfl rfl rfl rfl hcloses 0 0
  have hfails : (magiCloseCall waitingNet 0 0 0).1 = -1 := hclose.1.mpr hrefuses
  refine ⟨fun hkeeps => ?_, fun hkeeps => ?_, ?_⟩
  · have hstarts : (MagiTcpCall.send 0 [65]).Starts (waitingNet.system.slot ((), 0)) :=
      ⟨by decide, by decide, rfl, by decide⟩
    have hcall := @MagiNet.call_starts Unit _ Nat waitingNet _ 0 ((), 0) () rfl rfl rfl rfl hstarts 0 0
    exact hcall.2 (hkeeps ((), 0) rfl (hcall.1.mpr hrefuses)).2.sendSeq
  · exact hclose.2 (hkeeps ((), 0) rfl hfails).2.sendSeq
  · exact @magiCloseCall_after_failure Unit _ Nat waitingNet 0 0 ((), 0) () rfl rfl rfl rfl hcloses 0 0 hfails
      (magiCloseCall waitingNet 0 0 0).2 rfl 0 1

end MagiStack
