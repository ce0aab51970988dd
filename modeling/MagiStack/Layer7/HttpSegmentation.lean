import MagiStack.Layer4.TcpWindow
import MagiStack.Layer7.HttpRequest
import MagiStack.Layer7.SocketDemux
import MagiStack.Library.Returning

/-!
# HttpSegmentation — a request in several segments

`host_receive` calls the dispatcher after the first segment with data, and the dispatcher answers what has
arrived by then and closes the connection.  So the reply is the one to the bytes of that segment; what the
peer sends later is buffered and never read.
-/

namespace MagiStack

open Returning

variable {H : Type*} [DecidableEq H]

/-! ## Receiving a request -/

/-- The bytes an operation has written on a connection. -/
def HttpEffect.bytesOn (effect : HttpEffect H) (c : Connection H) : List UInt8 :=
  match effect.operation with
  | .wrote data => if effect.doneOn = some c then data else []
  | _ => []

/-- The bytes that have been written on a connection. -/
def HttpWorld.written (w : HttpWorld H) (c : Connection H) : List UInt8 :=
  w.effects.reverse.flatMap fun effect => effect.bytesOn c

/-- The host takes every segment, and what is in progress goes on until nothing is. -/
def HttpWorld.Settles (handle : List UInt8 → Option (List UInt8)) (w w' : HttpWorld H) : Prop :=
  ∃ n, Returns (fun _ w => HttpWorld.resume handle w true) (fun w => w.frames = []) 0 w n w'

/-- Segments arrive at a host, each one when the one before has been dealt with. -/
inductive HttpWorld.Receives (handle : List UInt8 → Option (List UInt8)) (host : H)
    (srcIp dstIp : IpAddress) : HttpWorld H → List TcpSegment → HttpWorld H → Prop
  | nil (w : HttpWorld H) : Receives handle host srcIp dstIp w [] w
  | cons {w w' w'' : HttpWorld H} {segment : TcpSegment} {rest : List TcpSegment}
      (settles : (w.arrive host segment srcIp dstIp).Settles handle w')
      (receives : Receives handle host srcIp dstIp w' rest w'') :
      Receives handle host srcIp dstIp w (segment :: rest) w''

/-- Segments of a connection with consecutive bytes, the first one from `seqNum` on; none has a FIN. -/
def Consecutive (tuple : Option TcpTuple) (ipAddress srcIp dstIp : IpAddress) :
    UInt32 → List TcpSegment → Prop
  | _, [] => True
  | seqNum, segment :: rest =>
      segment.seqNum = seqNum ∧ some (segment.tuple ipAddress srcIp) = tuple ∧
        tcpValidateChecksum segment srcIp dstIp = true ∧ segment.hasFlag tcpFlagFin = false ∧
          Consecutive tuple ipAddress srcIp dstIp (seqNum + UInt32.ofNat segment.payload.length) rest

instance Consecutive.decidable (tuple : Option TcpTuple) (ipAddress srcIp dstIp : IpAddress) :
    (seqNum : UInt32) → (segments : List TcpSegment) →
      Decidable (Consecutive tuple ipAddress srcIp dstIp seqNum segments)
  | _, [] => inferInstanceAs (Decidable True)
  | seqNum, segment :: rest =>
      have := Consecutive.decidable tuple ipAddress srcIp dstIp
        (seqNum + UInt32.ofNat segment.payload.length) rest
      inferInstanceAs (Decidable (_ ∧ _ ∧ _ ∧ _ ∧ Consecutive _ _ _ _ _ rest))

/-- The bytes of segments. -/
def segmentBytes (segments : List TcpSegment) : List UInt8 :=
  segments.flatMap TcpSegment.payload

/-- The data of the first segment that has any. -/
def firstData (segments : List TcpSegment) : List UInt8 :=
  ((segments.map TcpSegment.payload).find? fun payload => !payload.isEmpty).getD []

theorem firstData_cons_of_nil {segment : TcpSegment} (h : segment.payload = [])
    (rest : List TcpSegment) : firstData (segment :: rest) = firstData rest := by
  simp [firstData, h]

theorem firstData_cons_of_ne_nil {segment : TcpSegment} (h : segment.payload ≠ [])
    (rest : List TcpSegment) : firstData (segment :: rest) = segment.payload := by
  simp [firstData, h]

/-- Slot `p` holds the only connection of the HTTP server; it is established, and nothing has been
received or sent on it. -/
structure HttpWorld.SoleConnection (w : HttpWorld H) (p : SlotPtr H) : Prop where
  idle : w.frames = []
  running : w.server.running = true
  bound : w.server.boundHost = some p.1
  pending : ∀ q, w.pending q = true ↔ q = p
  descriptor : w.magi.system.freeSocket.isSome = true
  port : (w.magi.system.slot p).localPort = httpServerPort
  apart : w.magi.system.Demux
  inOrder : InOrder (w.magi.system.slot p)
  unread : (w.magi.system.slot p).recvBuffer.data = []
  unsent : (w.magi.system.slot p).sendBuffer.data = []

/-! ## One socket -/

theorem tcpValidateChecksum_length {segment : TcpSegment} {srcIp dstIp : IpAddress}
    (h : tcpValidateChecksum segment srcIp dstIp = true) :
    segment.payload.length ≤ tcpMaxPayload := by
  by_contra hlong
  rw [tcpValidateChecksum, tcpToBytes, if_pos (Nat.lt_of_not_le hlong)] at h
  cases h

/-- A segment without a FIN after the own FIN: the connection does not come back. -/
theorem tcpSocketReceiveSegment_finWait {socket : TcpSocket}
    (hstate : socket.state = .finWait1 ∨ socket.state = .finWait2) {segment : TcpSegment}
    (hfin : segment.hasFlag tcpFlagFin = false) (srcIp dstIp : IpAddress) (response : TcpSegment) :
    let after := (tcpSocketReceiveSegment socket segment srcIp dstIp response).socket
    (after.state = .finWait1 ∨ after.state = .finWait2) ∧ after.identity = socket.identity := by
  rw [tcpSocketReceiveSegment]
  split
  · rw [tcpReceiveByState]
    obtain hstate | hstate := hstate
    · refine ⟨?_, ?_⟩
      · simp only [hstate, tcpReceiveFinWait1, hfin, Bool.false_eq_true, if_false]
        split
        · exact Or.inr rfl
        · split
          · exact Or.inl ((tcpBufferPayload_state _ _ _).trans hstate)
          · exact Or.inl ((tcpBufferPayload_state _ _ _).trans hstate)
      · rw [hstate]
        exact congrArg Prod.fst (tcpReceiveFinWait1_fixed socket segment response)
    · refine ⟨?_, ?_⟩
      · simp only [hstate, tcpReceiveFinWait2, hfin, Bool.false_eq_true, if_false]
        split
        · exact Or.inr ((tcpBufferPayload_state _ _ _).trans hstate)
        · exact Or.inr ((tcpBufferPayload_state _ _ _).trans hstate)
      · rw [hstate]
        exact congrArg Prod.fst (tcpReceiveFinWait2_fixed socket segment response)
  · exact ⟨hstate, rfl⟩

/-! ## One segment -/

namespace HttpWorld

variable {handle : List UInt8 → Option (List UInt8)} {w w' : HttpWorld H} {p : SlotPtr H}

/-- Nothing is in progress any more. -/
theorem Settles.now (h : w.frames = []) : w.Settles handle w :=
  ⟨0, .now h⟩

/-- The innermost code goes on. -/
theorem Settles.later (hbusy : w.frames ≠ []) (h : (w.resume handle true).Settles handle w') :
    w.Settles handle w' := by
  obtain ⟨n, hreturns⟩ := h
  exact ⟨n + 1, .later hbusy hreturns.shift⟩

theorem Receives.unique {host : H} {srcIp dstIp : IpAddress} {segments : List TcpSegment}
    {w'' : HttpWorld H} (h : Receives handle host srcIp dstIp w segments w')
    (h' : Receives handle host srcIp dstIp w segments w'') : w' = w'' := by
  induction h with
  | nil w =>
      cases h' with
      | nil => rfl
  | cons settles receives ih =>
      cases h' with
      | cons settles' receives' =>
          obtain ⟨n, hreturns⟩ := settles
          obtain ⟨m, hreturns'⟩ := settles'
          rw [← hreturns.unique hreturns'] at receives'
          exact ih receives'

/-- A segment of an open connection changes its slot, and nothing else. -/
theorem arrive_connection (hapart : w.magi.system.Demux)
    {segment : TcpSegment} {srcIp dstIp : IpAddress}
    (hvalid : tcpValidateChecksum segment srcIp dstIp = true)
    (htuple : (w.magi.system.slot p).tuple =
      some (segment.tuple (w.magi.system.hosts p.1).ipAddress srcIp)) :
    let outcome := tcpSocketReceiveSegment (w.magi.system.slot p) segment srcIp dstIp tcpInit
    w.arrive p.1 segment srcIp dstIp =
      { w.withSystem (w.magi.system.setSlot p outcome.socket) with
        frames :=
          if outcome.accepted then .received p.1 (p, w.magi.gen p) :: w.frames else w.frames } := by
  obtain ⟨host, slot⟩ := p
  intro outcome
  have hfind := tcpSocketFind_of_tuple (hapart host) htuple
  have hmatches := tcpSocketMatches_iff.mpr htuple
  have hlisten : (w.magi.system.slot (host, slot)).isListening = false := by
    simp only [tcpSocketMatches, Bool.and_eq_true] at hmatches
    simpa using hmatches.1.1.1.1.1.2
  rw [MagiSystem.slot] at hlisten
  have hreceive := hostReceiveTcp_connection hvalid hmatches fun i hi =>
    (hapart host).unique i slot _ (tcpSocketMatches_iff.mp hi) htuple
  have hslot : hostAcceptedSlot (w.magi.system.hosts host).tcpSockets
      (w.magi.system.hosts host).ipAddress segment srcIp dstIp =
        if outcome.accepted then some slot else none := by
    rw [hostAcceptedSlot, if_pos hvalid, hfind]
    simp only [hlisten, Bool.false_and, Bool.false_eq_true, if_false]
    rfl
  -- A connection takes the segment itself, and no child is made.
  have hgen : w.magi.childSlot host segment srcIp dstIp = none := by
    rw [MagiWorld.childSlot, tcpChildSlot, if_pos hvalid, hfind]
    simp only [hlisten, Bool.false_and, Bool.false_eq_true, if_false, Option.map_none]
  have hmagi : w.magi.step (.arrive host segment srcIp dstIp) =
      { w.magi with system := w.magi.system.setSlot (host, slot) outcome.socket } := by
    rw [MagiWorld.step, hgen, magiArrive, hreceive]
    rfl
  rw [arrive, hslot, hmagi]
  by_cases haccepted : outcome.accepted = true
  · rw [if_pos haccepted, if_pos haccepted]
    rfl
  · rw [if_neg haccepted, if_neg haccepted]
    rfl

/-- A slot that was written is read. -/
theorem slot_withSystem (w : HttpWorld H) (p : SlotPtr H) (socket : TcpSocket) :
    (w.withSystem (w.magi.system.setSlot p socket)).magi.system.slot p = socket :=
  (MagiSystem.slot_setSlot w.magi.system p p socket).trans (if_pos rfl)

theorem ipAddress_withSystem (w : HttpWorld H) (p : SlotPtr H) (socket : TcpSocket) :
    ((w.withSystem (w.magi.system.setSlot p socket)).magi.system.hosts p.1).ipAddress =
      (w.magi.system.hosts p.1).ipAddress := by
  simp only [withSystem, MagiSystem.setSlot, Function.update_self]

variable (handle) in
/-- When the slot then calls for no dispatch, that is all. -/
theorem arrive_settles (hidle : w.frames = [])
    (hapart : w.magi.system.Demux)
    {segment : TcpSegment} {srcIp dstIp : IpAddress}
    (hvalid : tcpValidateChecksum segment srcIp dstIp = true)
    (htuple : (w.magi.system.slot p).tuple =
      some (segment.tuple (w.magi.system.hosts p.1).ipAddress srcIp))
    {socket : TcpSocket}
    (hsocket : (tcpSocketReceiveSegment (w.magi.system.slot p) segment srcIp dstIp tcpInit).socket =
      socket)
    (hquiet : socket.state = .established → socket.hasData = false) :
    (w.arrive p.1 segment srcIp dstIp).Settles handle
      (w.withSystem (w.magi.system.setSlot p socket)) := by
  rw [arrive_connection hapart hvalid htuple, hsocket]
  dsimp only
  have hpopped : { w.withSystem (w.magi.system.setSlot p socket) with frames := w.frames } =
      w.withSystem (w.magi.system.setSlot p socket) := rfl
  split
  · refine Settles.later (List.cons_ne_nil _ _) ?_
    have hcalls : (w.withSystem (w.magi.system.setSlot p socket)).calls p.1 (p, w.magi.gen p) =
        false := by
      rw [calls, slot_withSystem]
      by_cases hstate : socket.state = .established
      · simp [hquiet hstate]
      · simp [hstate]
    rw [resume]
    dsimp only
    rw [hpopped, hcalls]
    exact Settles.now hidle
  · rw [hpopped]
    exact Settles.now hidle

/-! ## One dispatch -/

/-- A slot is written twice. -/
theorem hosts_setSlot {s s₀ : MagiSystem H} {socket : TcpSocket}
    (h : s.hosts = (s₀.setSlot p socket).hosts) (after : TcpSocket) :
    (s.setSlot p after).hosts = (s₀.setSlot p after).hosts := by
  simp only [MagiSystem.setSlot, h, Function.update_self, Function.update_idem]

theorem written_log {conn : Fin magiSocketMaxSockets}
    (hrefers : (w.magi.system.sockets conn).Refers p) (operation : HttpOperation) (c : Connection H) :
    (w.log operation c conn).written (p, w.magi.gen p) =
      w.written (p, w.magi.gen p) ++
        match operation with
        | .wrote data => data
        | _ => [] := by
  have hon : w.connectionOf conn = some (p, w.magi.gen p) := by
    rw [connectionOf, hrefers.tcpSock]
    rfl
  rw [written, written, log, List.reverse_cons, List.flatMap_append, List.flatMap_singleton, hon]
  cases operation with
  | read request => rfl
  | wrote data =>
      rw [HttpEffect.bytesOn]
      dsimp only
      rw [if_pos rfl]
  | closed => rfl

/-- A dispatch has written a response and closed its connection; the slot keeps its identity. -/
structure Answered (w : HttpWorld H) (p : SlotPtr H) (response : List UInt8) (w' : HttpWorld H) :
    Prop where
  idle : w'.frames = []
  written : w'.written (p, w.magi.gen p) = w.written (p, w.magi.gen p) ++ response
  gen : w'.magi.gen = w.magi.gen
  slot : ∃ socket : TcpSocket, w'.magi.system.hosts = (w.magi.system.setSlot p socket).hosts ∧
    socket.state = .finWait1 ∧ socket.identity = (w.magi.system.slot p).identity

theorem closeConn_answered {conn : Fin magiSocketMaxSockets}
    (hrefers : (w.magi.system.sockets conn).Refers p)
    (hstate : (w.magi.system.slot p).state = .established) (hidle : w.frames = []) (c : Connection H) :
    ∃ w', (w.closeConn c conn).Settles handle w' ∧ w.Answered p [] w' := by
  obtain ⟨host, hhost⟩ := Option.isSome_iff_exists.mp hrefers.host
  have hclose : magiCloseBegin w.magi.system (fd conn) =
      (some conn, w.magi.system.setSlot p (magiCloseTcp (w.magi.system.slot p)).1) := by
    simp only [magiCloseBegin, MagiSystem.lookup_fd hrefers.inUse, hrefers.sockType, hrefers.tcpSock,
      hhost, magiCloseTcp, hstate]
  have hlog := written_log hrefers .closed c
  rw [List.append_nil] at hlog
  rw [closeConn, hclose]
  dsimp only
  refine ⟨_, Settles.later (List.cons_ne_nil _ _) (Settles.now ?_), ?_⟩
  · exact hidle
  · refine ⟨hidle, hlog.trans (List.append_nil _).symm, rfl, _, rfl, ?_, ?_⟩
    · rw [magiCloseTcp, hstate]
      dsimp only
      rw [tcpSocketClose, hstate]
    · rw [magiCloseTcp, hstate]
      dsimp only
      rw [tcpSocketClose, hstate]
      rfl

/-- What was done before a dispatch goes on. -/
theorem Answered.after {w₀ w w' : HttpWorld H} {response : List UInt8} {socket : TcpSocket}
    (h : w.Answered p response w') (data : List UInt8) (hgen : w.magi.gen = w₀.magi.gen)
    (hwritten : w.written (p, w.magi.gen p) = w₀.written (p, w₀.magi.gen p) ++ data)
    (hhosts : w.magi.system.hosts = (w₀.magi.system.setSlot p socket).hosts)
    (hidentity : socket.identity = (w₀.magi.system.slot p).identity) :
    w₀.Answered p (data ++ response) w' := by
  obtain ⟨after, hafter, hstate, hsame⟩ := h.slot
  refine ⟨h.idle, ?_, h.gen.trans hgen, after, ?_, hstate, ?_⟩
  · rw [← List.append_assoc, ← hwritten, ← h.written, hgen]
  · exact hafter.trans (hosts_setSlot hhosts after)
  · have hslot : w.magi.system.slot p = socket := by
      rw [MagiSystem.slot, hhosts]
      exact slot_withSystem w₀ p socket
    rw [hsame, hslot, hidentity]

/-- `magi_send` of a part of a response for which the send buffer has room. -/
theorem magiSend_established {s : MagiSystem H} {conn : Fin magiSocketMaxSockets}
    (hrefers : (s.sockets conn).Refers p) (hstate : (s.slot p).state = .established) {data : List UInt8}
    (hdata : data ≠ []) (hlen : data.length ≤ tcpMaxPayload)
    (hroom : (s.slot p).sendBuffer.data.length + data.length ≤ tcpSocketBufferSize) :
    (∃ segment, magiSendSegment s (fd conn) data = some segment) ∧
      ∃ socket : TcpSocket, magiSend s (fd conn) data = s.setSlot p socket ∧
        socket.state = .established ∧ socket.identity = (s.slot p).identity ∧
          socket.sendBuffer.data = (s.slot p).sendBuffer.data ++ data := by
  obtain ⟨host, hhost⟩ := Option.isSome_iff_exists.mp hrefers.host
  have hsome : data.isEmpty = false := by simpa using hdata
  have hsent : magiSendTcp (s.slot p) data = (tcpSocketSend (s.slot p) data).map fun socket =>
      ({ socket with sendSeq := socket.sendSeq + UInt32.ofNat data.length },
        tcpDataSegment socket data) := by
    rw [magiSendTcp, if_neg]
    simp [hsome, hlen]
  rw [tcpSocketSend, hsome, if_neg Bool.false_ne_true, if_neg (not_not.mpr hstate),
    if_neg (Nat.not_lt.mpr hroom), Option.map_some] at hsent
  simp only [magiSendSegment, magiSend, MagiSystem.lookup_fd hrefers.inUse, hrefers.sockType,
    hrefers.tcpSock, hhost, hsent]
  exact ⟨⟨_, rfl⟩, _, rfl, hstate, rfl, rfl⟩

theorem sendResponse_answered {conn : Fin magiSocketMaxSockets} (c : Connection H)
    (response : List UInt8) {w : HttpWorld H} (hrefers : (w.magi.system.sockets conn).Refers p)
    (hstate : (w.magi.system.slot p).state = .established) (hidle : w.frames = [])
    (hroom : (w.magi.system.slot p).sendBuffer.data.length + response.length ≤ tcpSocketBufferSize) :
    ∃ w', (w.sendResponse c conn response).Settles handle w' ∧ w.Answered p response w' := by
  -- Each round sends a part of the response and goes on with a shorter one.
  induction hlen : response.length using Nat.strongRecOn generalizing w response with
  | ind len ih =>
      rw [sendResponse]
      by_cases hempty : response = []
      · subst hempty
        rw [if_pos rfl]
        exact closeConn_answered hrefers hstate hidle c
      · rw [if_neg hempty]
        dsimp only
        have hpos : 0 < response.length := List.length_pos_iff.mpr hempty
        have hchunk : response.take tcpMaxPayload ≠ [] := by
          rw [ne_eq, List.take_eq_nil_iff, not_or]
          exact ⟨by decide, hempty⟩
        have hparts : (response.take tcpMaxPayload).length + (response.drop tcpMaxPayload).length =
            response.length := by
          rw [← List.length_append, List.take_append_drop]
        obtain ⟨⟨segment, hsegment⟩, socket, hsend, hsocket, hidentity, hbuffer⟩ :=
          magiSend_established hrefers hstate hchunk (List.length_take_le _ _) (by omega)
        rw [hsegment, hsend]
        dsimp only
        generalize hafter : (w.log (.wrote (response.take tcpMaxPayload)) c conn).withSystem
          (w.magi.system.setSlot p socket) = after
        have hslot : after.magi.system.slot p = socket := by
          rw [← hafter]
          exact slot_withSystem w p socket
        have hafterRefers : (after.magi.system.sockets conn).Refers p := by
          rw [← hafter]
          exact hrefers
        have hafterIdle : after.frames = [] := by
          rw [← hafter]
          exact hidle
        have hless : (response.drop tcpMaxPayload).length < len := by
          have hchunkPos := List.length_pos_iff.mpr hchunk
          omega
        have hafterRoom : (after.magi.system.slot p).sendBuffer.data.length +
            (response.drop tcpMaxPayload).length ≤ tcpSocketBufferSize := by
          rw [hslot, hbuffer, List.length_append]
          omega
        rw [← hslot] at hsocket
        obtain ⟨w', hsettles, hanswered⟩ := ih (response.drop tcpMaxPayload).length hless
          (response.drop tcpMaxPayload) hafterRefers hsocket hafterIdle hafterRoom rfl
        refine ⟨w', Settles.later (List.cons_ne_nil _ _) ?_, ?_⟩
        · rw [resume]
          dsimp only
          rw [if_pos rfl]
          have hpopped : { after with frames := after.frames } = after := rfl
          rw [hpopped]
          exact hsettles
        · have hgen : after.magi.gen = w.magi.gen := by
            rw [← hafter]
            rfl
          have hwritten : after.written (p, after.magi.gen p) =
              w.written (p, w.magi.gen p) ++ response.take tcpMaxPayload := by
            rw [← hafter]
            exact written_log hrefers (.wrote (response.take tcpMaxPayload)) c
          have hhosts : after.magi.system.hosts = (w.magi.system.setSlot p socket).hosts := by
            rw [← hafter]
            rfl
          have hwhole := hanswered.after _ hgen hwritten hhosts hidentity
          rwa [List.take_append_drop] at hwhole

/-- A read that takes everything. -/
theorem tcpSocketRecv_all {socket : TcpSocket} {maxLen : Nat} (hdata : socket.hasData = true)
    (hsome : socket.recvBuffer.data ≠ []) (hfits : socket.recvBuffer.data.length ≤ maxLen) :
    ∃ after : TcpSocket, tcpSocketRecv socket maxLen = (socket.recvBuffer.data, after) ∧
      after.state = socket.state ∧ after.identity = socket.identity ∧
        after.sendBuffer = socket.sendBuffer := by
  have hpos := List.length_pos_iff.mpr hsome
  have hread : ¬(maxLen = 0 ∨ socket.hasData = false ∨ socket.recvBuffer.data.isEmpty = true) := by
    rintro (hzero | hnone | hempty)
    · omega
    · rw [hdata] at hnone
      cases hnone
    · exact hsome (List.isEmpty_iff.mp hempty)
  rw [tcpSocketRecv, if_neg hread, List.take_of_length_le hfits]
  exact ⟨_, rfl, rfl, rfl, rfl⟩

variable (handle) in
/-- The dispatcher answers what the connection holds. -/
theorem dispatch_answered (hidle : w.frames = []) (hpending : ∀ q, w.pending q = true ↔ q = p)
    (hdescriptor : w.magi.system.freeSocket.isSome = true)
    (hstate : (w.magi.system.slot p).state = .established)
    (hunsent : (w.magi.system.slot p).sendBuffer.data = [])
    (hdata : (w.magi.system.slot p).hasData = true) {request response : List UInt8}
    (hbuffer : (w.magi.system.slot p).recvBuffer.data = request) (hsome : request ≠ [])
    (hfits : request.length ≤ httpBufferSize - 1) (hhandle : handle request = some response)
    (hroom : response.length ≤ tcpSocketBufferSize) (c : Connection H) :
    ∃ w', (w.dispatch handle c).Settles handle w' ∧ w.Answered p response w' := by
  obtain ⟨-, hnone⟩ | ⟨conn, child, hchild, hfree, haccept⟩ :=
    MagiSystem.magiAccept_cases w.magi.system w.server.listenSockfd
  -- There is a child to accept and a descriptor for it.
  · obtain hnone | hnone := hnone
    · exact absurd ((hpending p).mpr rfl) (not_pending_of_no_child hnone p)
    · rw [hnone] at hdescriptor
      cases hdescriptor
  · obtain rfl := (hpending child).mp (pending_of_child hchild).1
    have hrefers : ((w.magi.system.setSocket conn (w.magi.system.acceptedSocket child)).sockets
        conn).Refers child := by
      simp only [MagiSystem.setSocket, Function.update_self]
      exact w.magi.system.acceptedSocket_refers child
    rw [← hbuffer] at hfits
    obtain ⟨socket, hrecv, hsocket, hidentity, hsendBuffer⟩ :=
      tcpSocketRecv_all hdata (by rwa [hbuffer]) hfits
    rw [hbuffer] at hrecv
    have hslot : (w.magi.system.setSocket conn (w.magi.system.acceptedSocket child)).slot child =
        w.magi.system.slot child := rfl
    simp only [dispatch, haccept, MagiSystem.magiRecv_refers hrefers, hslot, hrecv, if_neg hsome,
      hhandle]
    -- `read` is the world after the request is read, before the response is sent.
    generalize hread : ((w.withSystem (w.magi.system.setSocket conn
      (w.magi.system.acceptedSocket child))).log (.read request) c conn).withSystem _ = read
    have hreadSlot : read.magi.system.slot child = socket := by
      rw [← hread]
      exact (MagiSystem.slot_setSlot _ child child _).trans (if_pos rfl)
    have hreadRefers : (read.magi.system.sockets conn).Refers child := by
      rw [← hread]
      exact hrefers
    have hreadIdle : read.frames = [] := by
      rw [← hread]
      exact hidle
    have hreadState : (read.magi.system.slot child).state = .established := by
      rw [hreadSlot, hsocket]
      exact hstate
    have hreadRoom : (read.magi.system.slot child).sendBuffer.data.length + response.length ≤
        tcpSocketBufferSize := by
      rw [hreadSlot, hsendBuffer, hunsent, List.length_nil, Nat.zero_add]
      exact hroom
    obtain ⟨w', hsettles, hanswered⟩ :=
      sendResponse_answered c response hreadRefers hreadState hreadIdle hreadRoom
    refine ⟨w', hsettles, hanswered.after [] ?_ ?_ ?_ hidentity⟩
    · rw [← hread]
      rfl
    · rw [← hread]
      exact written_log (w := w.withSystem (w.magi.system.setSocket conn
        (w.magi.system.acceptedSocket child))) hrefers (.read request) c
    · rw [← hread]
      rfl

/-! ## The segments of a request -/

/-- A slot that changes, but not in what makes a connection pending. -/
theorem pending_setSlot (w : HttpWorld H) (p : SlotPtr H) (socket : TcpSocket)
    (hidentity : socket.identity = (w.magi.system.slot p).identity)
    (hstate : socket.state = (w.magi.system.slot p).state)
    (hparent : socket.parent = (w.magi.system.slot p).parent) (q : SlotPtr H) :
    (w.withSystem (w.magi.system.setSlot p socket)).pending q = w.pending q := by
  have huse : socket.inUse = (w.magi.system.slot p).inUse := congrArg Prod.fst hidentity
  have hslot := MagiSystem.slot_setSlot w.magi.system p q socket
  by_cases hq : q = p
  · subst hq
    rw [if_pos rfl] at hslot
    simp only [pending, withSystem, hslot, huse, hstate, hparent]
    rfl
  · rw [if_neg hq] at hslot
    simp only [pending, withSystem, hslot]
    rfl

theorem SoleConnection.state (h : w.SoleConnection p) :
    (w.magi.system.slot p).state = .established := by
  have hpending := (h.pending p).mpr rfl
  rw [HttpWorld.pending] at hpending
  split at hpending
  · cases hpending
  · simp only [Bool.and_eq_true, beq_iff_eq] at hpending
    exact hpending.1.1.2

theorem SoleConnection.listening (h : w.SoleConnection p) : 0 ≤ w.server.listenSockfd := by
  have hpending := (h.pending p).mpr rfl
  rw [HttpWorld.pending, MagiSystem.lookup] at hpending
  split at hpending
  · cases hpending
  · rename_i hlookup
    split at hlookup
    · rename_i hrange
      exact hrange.1
    · cases hlookup

variable (handle) in
/-- A segment without data leaves the connection as it is. -/
theorem SoleConnection.quiet (h : w.SoleConnection p) {segment : TcpSegment}
    {srcIp dstIp : IpAddress} (hvalid : tcpValidateChecksum segment srcIp dstIp = true)
    (htuple : (w.magi.system.slot p).tuple =
      some (segment.tuple (w.magi.system.hosts p.1).ipAddress srcIp))
    (hfin : segment.hasFlag tcpFlagFin = false) (hdata : segment.payload = []) :
    ∃ socket : TcpSocket, (w.arrive p.1 segment srcIp dstIp).Settles handle
        (w.withSystem (w.magi.system.setSlot p socket)) ∧
      (w.withSystem (w.magi.system.setSlot p socket)).SoleConnection p ∧
      socket.tuple = (w.magi.system.slot p).tuple ∧
      socket.recvSeq = (w.magi.system.slot p).recvSeq := by
  obtain ⟨⟨sendBuffer, sendAck, hsocket, hunsent⟩, -⟩ :=
    tcpSocketReceiveSegment_noFin h.state hvalid hfin tcpInit
  replace hunsent := hunsent h.unsent
  rw [hdata] at hsocket
  replace hsocket : (tcpSocketReceiveSegment (w.magi.system.slot p) segment srcIp dstIp
      tcpInit).socket = { w.magi.system.slot p with sendBuffer := sendBuffer, sendAck := sendAck } :=
    hsocket
  have hnoData : (w.magi.system.slot p).hasData = false := by
    rw [h.inOrder.buffer.hasData_eq, h.unread]
    rfl
  have hsettles := arrive_settles handle h.idle h.apart hvalid htuple hsocket
    fun _ => hnoData
  -- Only the send side of the socket has changed, on which no condition but the last looks.
  refine ⟨_, hsettles, ?_, rfl, rfl⟩
  exact
    { idle := h.idle
      running := h.running
      bound := h.bound
      pending := fun q => by
        have hsame := pending_setSlot w p { w.magi.system.slot p with
          sendBuffer := sendBuffer, sendAck := sendAck } rfl rfl rfl q
        rw [hsame]
        exact h.pending q
      descriptor := h.descriptor
      port := by
        rw [slot_withSystem]
        exact h.port
      apart := h.apart.setSlot ⟨Or.inr rfl, fun hlisten => ⟨hlisten, rfl⟩⟩
      inOrder := by
        rw [slot_withSystem]
        have hbuffer := h.inOrder.buffer
        exact ⟨⟨hbuffer.gap, hbuffer.inside, hbuffer.count_eq, hbuffer.room, hbuffer.hasData_eq⟩,
          h.inOrder.none_pending⟩
      unread := by
        rw [slot_withSystem]
        exact h.unread
      unsent := by
        rw [slot_withSystem]
        exact hunsent }

/-- A segment with data is answered. -/
theorem SoleConnection.answered (h : w.SoleConnection p) {segment : TcpSegment}
    {srcIp dstIp : IpAddress} (hvalid : tcpValidateChecksum segment srcIp dstIp = true)
    (htuple : (w.magi.system.slot p).tuple =
      some (segment.tuple (w.magi.system.hosts p.1).ipAddress srcIp))
    (hfin : segment.hasFlag tcpFlagFin = false)
    (hseq : segment.seqNum = (w.magi.system.slot p).recvSeq) (hdata : segment.payload ≠ [])
    {response : List UInt8} (hhandle : handle segment.payload = some response)
    (hroom : response.length ≤ tcpSocketBufferSize) :
    ∃ w', (w.arrive p.1 segment srcIp dstIp).Settles handle w' ∧ w.Answered p response w' := by
  obtain ⟨⟨sendBuffer, sendAck, hsocket, hunsent⟩, haccepted⟩ :=
    tcpSocketReceiveSegment_noFin h.state hvalid hfin tcpInit
  replace hunsent := hunsent h.unsent
  -- The segment is in order and fits: the buffer holds its data and no more.
  have hwhole := (h.inOrder.acceptedWhole_iff segment.payload).mpr (by
    rw [h.unread, List.length_nil, Nat.zero_add]
    exact (tcpValidateChecksum_length hvalid).trans (by decide))
  have hbuffer := hwhole.2.2
  have hnext := (h.inOrder.next segment.payload).buffer.hasData_eq
  rw [h.unread, List.nil_append] at hbuffer
  rw [hbuffer] at hnext
  have hnew : (tcpBufferPayload (w.magi.system.slot p) (w.magi.system.slot p).recvSeq
      segment.payload).2.hasData = true := by
    rw [hnext]
    simpa using hdata
  rw [hseq] at hsocket
  obtain ⟨recvBuffer, recvSeq, hasData, hframe⟩ := tcpBufferPayload_frame
    (w.magi.system.slot p) (w.magi.system.slot p).recvSeq segment.payload
  rw [hframe] at hsocket hbuffer hnew
  dsimp only at hsocket hbuffer hnew
  rw [arrive_connection h.apart hvalid htuple, if_pos (haccepted hdata).1, hsocket]
  -- The socket after the segment is the same connection, with data: `host_receive` calls the dispatcher.
  generalize hafter : { w.magi.system.slot p with
    recvBuffer := recvBuffer, recvSeq := recvSeq, hasData := hasData, sendBuffer := sendBuffer,
    sendAck := sendAck } = after
  have hslot := slot_withSystem w p after
  have hidentity : after.identity = (w.magi.system.slot p).identity := by
    rw [← hafter]
    rfl
  have hpending : ∀ q, (w.withSystem (w.magi.system.setSlot p after)).pending q = true ↔ q = p := by
    intro q
    rw [pending_setSlot w p after hidentity (by rw [← hafter]) (by rw [← hafter])]
    exact h.pending q
  have hstate : after.state = .established := by
    rw [← hafter]
    exact h.state
  have hcalls : (w.withSystem (w.magi.system.setSlot p after)).calls p.1 (p, w.magi.gen p) = true := by
    have hport : after.localPort = httpServerPort := by
      rw [← hafter]
      exact h.port
    have hafterData : after.hasData = true := by
      rw [← hafter]
      exact hnew
    have hserver : (w.withSystem (w.magi.system.setSlot p after)).server = w.server := rfl
    rw [calls]
    dsimp only
    rw [hslot, hserver]
    simp [hstate, hafterData, hport, h.bound, h.running, h.listening]
  obtain ⟨w', hsettles, hanswered⟩ := dispatch_answered handle
    (w := w.withSystem (w.magi.system.setSlot p after)) h.idle hpending h.descriptor
    (by rw [hslot]; exact hstate) (by rw [hslot, ← hafter]; exact hunsent)
    (by rw [hslot, ← hafter]; exact hnew) (by rw [hslot, ← hafter]; exact hbuffer) hdata
    ((tcpValidateChecksum_length hvalid).trans (by decide)) hhandle hroom (p, w.magi.gen p)
  refine ⟨w', Settles.later (List.cons_ne_nil _ _) ?_, ?_⟩
  · rw [resume]
    dsimp only
    have hpopped : { w.withSystem (w.magi.system.setSlot p after) with frames := w.frames } =
        w.withSystem (w.magi.system.setSlot p after) := rfl
    rw [hpopped, hcalls, if_pos rfl]
    exact hsettles
  · exact hanswered.after [] rfl (List.append_nil _).symm rfl hidentity

/-- The connection is closed by the server, and nothing is in progress. -/
structure Closed (w : HttpWorld H) (p : SlotPtr H) : Prop where
  idle : w.frames = []
  apart : w.magi.system.Demux
  state : (w.magi.system.slot p).state = .finWait1 ∨ (w.magi.system.slot p).state = .finWait2

theorem finWait_open {state : TcpState} (h : state = .finWait1 ∨ state = .finWait2) :
    state ≠ .closed ∧ state ≠ .listen ∧ state ≠ .established := by
  obtain rfl | rfl := h
  · decide
  · decide

omit [DecidableEq H] in
/-- A connection is no listener. -/
theorem not_listening (h : w.magi.system.Demux)
    (hstate : (w.magi.system.slot p).state ≠ .listen) :
    (w.magi.system.slot p).isListening = false := by
  by_contra hlisten
  exact hstate ((h p.1).listening p.2 ((Bool.not_eq_false _).mp hlisten))

theorem SoleConnection.closed (h : w.SoleConnection p) {response : List UInt8}
    (hanswered : w.Answered p response w') :
    w'.Closed p ∧ (w'.magi.system.slot p).tuple = (w.magi.system.slot p).tuple := by
  obtain ⟨socket, hhosts, hstate, hidentity⟩ := hanswered.slot
  have hslot : w'.magi.system.slot p = socket := by
    rw [MagiSystem.slot, hhosts]
    exact slot_withSystem w p socket
  have hopen : (w.magi.system.slot p).state ≠ .closed ∧ (w.magi.system.slot p).state ≠ .listen := by
    rw [h.state]
    decide
  have hclosed : socket.state ≠ .closed := by
    rw [hstate]
    decide
  have hsettles := tcpSettles_of_identity hidentity (not_listening h.apart hopen.2) fun hcontra =>
    absurd hcontra hopen.1
  rw [hslot]
  refine ⟨⟨hanswered.idle, (h.apart.setSlot hsettles).of_hosts hhosts, ?_⟩,
    TcpSocket.tuple_of_identity hidentity hopen.1 hclosed⟩
  rw [hslot]
  exact Or.inl hstate

variable (handle) in
/-- What arrives on a closed connection is not answered. -/
theorem Closed.receives (h : w.Closed p) {srcIp dstIp : IpAddress} {seqNum : UInt32}
    {segments : List TcpSegment}
    (hsegments : Consecutive (w.magi.system.slot p).tuple (w.magi.system.hosts p.1).ipAddress srcIp
      dstIp seqNum segments) :
    ∃ w', Receives handle p.1 srcIp dstIp w segments w' ∧ w'.effects = w.effects := by
  induction segments generalizing w seqNum with
  | nil => exact ⟨w, .nil w, rfl⟩
  | cons segment rest ih =>
      obtain ⟨-, htuple, hvalid, hfin, hrest⟩ := hsegments
      obtain ⟨hstate, hidentity⟩ := tcpSocketReceiveSegment_finWait h.state hfin srcIp dstIp tcpInit
      generalize hsocket : (tcpSocketReceiveSegment (w.magi.system.slot p) segment srcIp dstIp
        tcpInit).socket = socket at hstate hidentity
      have hslot := slot_withSystem w p socket
      have hip := ipAddress_withSystem w p socket
      have hopen := finWait_open h.state
      have hopenAfter := finWait_open hstate
      have hsettles := arrive_settles handle h.idle h.apart hvalid htuple.symm hsocket
        fun hestablished => absurd hestablished hopenAfter.2.2
      have hclosed : (w.withSystem (w.magi.system.setSlot p socket)).Closed p := by
        refine ⟨h.idle, h.apart.setSlot ?_, by rw [hslot]; exact hstate⟩
        exact tcpSettles_of_identity hidentity (not_listening h.apart hopen.2.1) fun hcontra =>
          absurd hcontra hopen.1
      rw [← TcpSocket.tuple_of_identity hidentity hopen.1 hopenAfter.1, ← hslot, ← hip] at hrest
      obtain ⟨w', hreceives, heffects⟩ := ih hclosed hrest
      exact ⟨w', .cons hsettles hreceives, heffects⟩

/-! ## What a request is answered -/

/-- What an HTTP server with these answers sends when a request arrives at once; without a byte it is not
asked. -/
def replyTo (handle : List UInt8 → Option (List UInt8)) (request : List UInt8) : List UInt8 :=
  if request = [] then [] else (handle request).getD []

/-- A request in several segments is answered as the data of the first one. -/
theorem SoleConnection.receives (h : w.SoleConnection p) {srcIp dstIp : IpAddress}
    {segments : List TcpSegment}
    (hsegments : Consecutive (w.magi.system.slot p).tuple (w.magi.system.hosts p.1).ipAddress srcIp
      dstIp (w.magi.system.slot p).recvSeq segments)
    (hhandle : ∀ request, ∃ response, handle request = some response ∧
      response.length ≤ tcpSocketBufferSize) :
    ∃ w', Receives handle p.1 srcIp dstIp w segments w' ∧
      w'.written (p, w.magi.gen p) =
        w.written (p, w.magi.gen p) ++ replyTo handle (firstData segments) := by
  induction segments generalizing w with
  | nil => exact ⟨w, .nil w, (List.append_nil _).symm⟩
  | cons segment rest ih =>
      obtain ⟨hseq, htuple, hvalid, hfin, hrest⟩ := hsegments
      -- Segments without data are waited out; the first one with data is answered, and closes.
      by_cases hdata : segment.payload = []
      · obtain ⟨socket, hsettles, hsole, hsame, hrecvSeq⟩ :=
          h.quiet handle hvalid htuple.symm hfin hdata
        have hslot := slot_withSystem w p socket
        have hip := ipAddress_withSystem w p socket
        have hnone : (w.magi.system.slot p).recvSeq + UInt32.ofNat segment.payload.length =
            (w.magi.system.slot p).recvSeq := by
          rw [hdata]
          exact UInt32.add_zero _
        rw [hnone, ← hsame, ← hrecvSeq, ← hslot, ← hip] at hrest
        obtain ⟨w', hreceives, hwritten⟩ := ih hsole hrest
        rw [firstData_cons_of_nil hdata]
        exact ⟨w', .cons hsettles hreceives, hwritten⟩
      · obtain ⟨response, hresponse, hfits⟩ := hhandle segment.payload
        obtain ⟨answered, hsettles, hanswered⟩ :=
          h.answered hvalid htuple.symm hfin hseq hdata hresponse hfits
        obtain ⟨hclosed, hsame⟩ := h.closed hanswered
        have hip : (answered.magi.system.hosts p.1).ipAddress =
            (w.magi.system.hosts p.1).ipAddress := by
          obtain ⟨socket, hhosts, -⟩ := hanswered.slot
          rw [hhosts]
          simp only [MagiSystem.setSlot, Function.update_self]
        rw [← hsame, ← hip] at hrest
        obtain ⟨w', hreceives, heffects⟩ := hclosed.receives handle hrest
        refine ⟨w', .cons hsettles hreceives, ?_⟩
        rw [firstData_cons_of_ne_nil hdata, replyTo, if_neg hdata, hresponse, Option.getD_some, written, heffects]
        exact hanswered.written

end HttpWorld

/-- The answers of `http_server_handle_request`, as the dispatcher asks for them. -/
def httpHandle (request : List UInt8) : Option (List UInt8) :=
  httpServerHandleRequest request httpBufferSize

theorem httpHandle_fits (request : List UInt8) :
    ∃ response, httpHandle request = some response ∧ response.length ≤ tcpSocketBufferSize := by
  obtain ⟨response, hanswer⟩ := httpServerHandleRequest_answer request
  exact ⟨response, hanswer.handled, hanswer.fits⟩

/-- The first data of a request are its first bytes. -/
theorem segmentBytes_eq (segments : List TcpSegment) :
    ∃ more, segmentBytes segments = firstData segments ++ more := by
  induction segments with
  | nil => exact ⟨[], rfl⟩
  | cons segment rest ih =>
      by_cases hdata : segment.payload = []
      · have hbytes : segmentBytes (segment :: rest) = segmentBytes rest := by
          simp [segmentBytes, hdata]
        rw [firstData_cons_of_nil hdata, hbytes]
        exact ih
      · rw [firstData_cons_of_ne_nil hdata]
        exact ⟨segmentBytes rest, List.flatMap_cons⟩

theorem firstData_eq_nil {segments : List TcpSegment} (h : firstData segments = []) :
    segmentBytes segments = [] := by
  rw [segmentBytes, List.flatMap_eq_nil_iff]
  intro segment hsegment
  cases hfind : (segments.map TcpSegment.payload).find? fun payload => !payload.isEmpty with
  | none =>
      have hnone := List.find?_eq_none.mp hfind segment.payload (List.mem_map_of_mem hsegment)
      simpa using hnone
  | some payload =>
      have hsome := List.find?_some hfind
      rw [firstData, hfind, Option.getD_some] at h
      rw [h] at hsome
      cases hsome

/-- The replies to the first data and to all of a request are the same if and only if the request is
refused, or its first data are accepted. -/
theorem replyTo_firstData_iff (segments : List TcpSegment) :
    HttpWorld.replyTo httpHandle (firstData segments) =
        HttpWorld.replyTo httpHandle (segmentBytes segments) ↔
      httpParseRequest (segmentBytes segments) 16 512 = none ∨
        (httpParseRequest (firstData segments) 16 512).isSome = true := by
  by_cases hdata : firstData segments = []
  · rw [firstData_eq_nil hdata, hdata]
    exact iff_of_true rfl (Or.inl rfl)
  · obtain ⟨more, hbytes⟩ := segmentBytes_eq segments
    have hsome : segmentBytes segments ≠ [] := by
      rw [hbytes]
      exact List.append_ne_nil_of_left_ne_nil hdata more
    obtain ⟨first, hfirst⟩ := httpServerHandleRequest_answer (firstData segments)
    obtain ⟨whole, hwhole⟩ := httpServerHandleRequest_answer (segmentBytes segments)
    rw [HttpWorld.replyTo, HttpWorld.replyTo, if_neg hdata, if_neg hsome, httpHandle, httpHandle,
      hfirst.handled, hwhole.handled, Option.getD_some, Option.getD_some]
    rw [hbytes] at hwhole ⊢
    exact hfirst.append_eq_iff hwhole

/-- A request on the only connection of the HTTP server, cut into consecutive segments in any way: the
server deals with all of them, and it replies as to the whole request, which is what it does when the
request arrives in one segment, exactly when it refuses the request or accepts its first data. -/
theorem http_reply_segmentation_iff {w : HttpWorld H} {p : SlotPtr H} (h : w.SoleConnection p)
    {srcIp dstIp : IpAddress} {cut : List TcpSegment}
    (hcut : Consecutive (w.magi.system.slot p).tuple (w.magi.system.hosts p.1).ipAddress srcIp dstIp
      (w.magi.system.slot p).recvSeq cut) :
    (∃ w', HttpWorld.Receives httpHandle p.1 srcIp dstIp w cut w') ∧
      (∀ w', HttpWorld.Receives httpHandle p.1 srcIp dstIp w cut w' →
        (w'.written (p, w.magi.gen p) =
            w.written (p, w.magi.gen p) ++ HttpWorld.replyTo httpHandle (segmentBytes cut) ↔
          httpParseRequest (segmentBytes cut) 16 512 = none ∨
            (httpParseRequest (firstData cut) 16 512).isSome = true)) ∧
      ∀ whole w', whole.payload = segmentBytes cut →
        Consecutive (w.magi.system.slot p).tuple (w.magi.system.hosts p.1).ipAddress srcIp dstIp
          (w.magi.system.slot p).recvSeq [whole] →
        HttpWorld.Receives httpHandle p.1 srcIp dstIp w [whole] w' →
          w'.written (p, w.magi.gen p) =
            w.written (p, w.magi.gen p) ++ HttpWorld.replyTo httpHandle (segmentBytes cut) := by
  obtain ⟨wCut, hreceives, hwritten⟩ := h.receives hcut httpHandle_fits
  refine ⟨⟨wCut, hreceives⟩, fun w' hw' => ?_, fun whole w' hpayload hwhole hw' => ?_⟩
  · rw [← hreceives.unique hw', hwritten, List.append_cancel_left_eq]
    exact replyTo_firstData_iff cut
  · obtain ⟨wWhole, hall, hreply⟩ := h.receives hwhole httpHandle_fits
    have hfirst : firstData [whole] = segmentBytes cut := by
      rw [← hpayload]
      by_cases hdata : whole.payload = []
      · rw [firstData_cons_of_nil hdata, hdata]
        rfl
      · exact firstData_cons_of_ne_nil hdata []
    rw [← hall.unique hw', hreply, hfirst]

/-! ## A request cut in two -/

/-- The server with one client, whose handshake is behind it. -/
def greetedServer : HttpWorld Unit :=
  (HttpWorld.initial fun _ => serverIp).run httpHandle ([.start, .attach ()] ++ httpHandshake 5000)

set_option maxRecDepth 10000 in
theorem greetedServer_recvBuffer :
    (greetedServer.magi.system.slot ((), 1)).recvBuffer = tcpSocketFree.recvBuffer := by
  with_unfolding_all rfl

theorem greetedServer_soleConnection : greetedServer.SoleConnection ((), 1) := by
  have hidle : greetedServer.frames.isEmpty = true := by
    decide +kernel
  have htuple : ∀ i, (greetedServer.magi.system.slot ((), i)).tuple.isSome = true → i = 1 := by
    decide +kernel
  have hlisten : ∀ i, (greetedServer.magi.system.slot ((), i)).isListening = true →
      (greetedServer.magi.system.slot ((), i)).state = .listen := by
    decide +kernel
  exact
    { idle := List.isEmpty_iff.mp hidle
      running := by decide +kernel
      bound := by decide +kernel
      pending := by decide +kernel
      descriptor := by decide +kernel
      port := by decide +kernel
      apart := fun _ =>
        { unique := fun i j tuple hi hj =>
            (htuple i (Option.isSome_of_eq_some hi)).trans (htuple j (Option.isSome_of_eq_some hj)).symm
          listening := hlisten }
      inOrder := InOrder.of_empty greetedServer_recvBuffer (by decide +kernel)
      unread := by
        rw [greetedServer_recvBuffer]
        rfl
      unsent := by decide +kernel }

def httpGet : List UInt8 :=
  text "GET / HTTP/1.1\r\n\r\n"

/-- A segment of the client with bytes of a request, `start` bytes of which came before. -/
def getSegment (start : Nat) (payload : List UInt8) : TcpSegment :=
  httpClientSegment 5000 (1001 + UInt32.ofNat start) 7001 (tcpFlagAck ||| tcpFlagPsh) payload

/-- The request in two segments. -/
def cutGet (n : Nat) : List TcpSegment :=
  [getSegment 0 (httpGet.take n), getSegment n (httpGet.drop n)]

theorem getSegment_payload (start : Nat) (payload : List UInt8) :
    (getSegment start payload).payload = payload := by
  rw [getSegment, httpClientSegment]
  obtain ⟨checksum, hstored⟩ := tcpStoreChecksum_frame
    { tcpInit with
      srcPort := 5000
      dstPort := httpServerPort
      seqNum := 1001 + UInt32.ofNat start
      ackNum := 7001
      flags := tcpFlagAck ||| tcpFlagPsh
      payload := payload } (tcpHeaderSize + tcpMaxPayload) clientIp serverIp
  rw [hstored]

theorem segmentBytes_cutGet (n : Nat) : segmentBytes (cutGet n) = httpGet := by
  rw [segmentBytes, cutGet, List.flatMap_cons, List.flatMap_cons, List.flatMap_nil,
    getSegment_payload, getSegment_payload, List.append_nil, List.take_append_drop]

/-- Cut behind `GET /`, the request is answered with the page. -/
theorem http_reply_segmentation_iff_page :
    ∃ w', HttpWorld.Receives httpHandle () clientIp serverIp greetedServer (cutGet 5) w' ∧
      w'.written (((), 1), greetedServer.magi.gen ((), 1)) =
        greetedServer.written (((), 1), greetedServer.magi.gen ((), 1)) ++
          HttpWorld.replyTo httpHandle (segmentBytes (cutGet 5)) := by
  have hcut : Consecutive (greetedServer.magi.system.slot ((), 1)).tuple
      (greetedServer.magi.system.hosts ()).ipAddress clientIp serverIp
      (greetedServer.magi.system.slot ((), 1)).recvSeq (cutGet 5) := by
    decide +kernel
  obtain ⟨⟨w', hreceives⟩, hreply, -⟩ :=
    http_reply_segmentation_iff greetedServer_soleConnection hcut
  exact ⟨w', hreceives, (hreply w' hreceives).mpr (Or.inr (by decide +kernel))⟩

/-- Cut behind `GET`, it is refused. -/
theorem http_reply_segmentation_iff_refused :
    ∃ wCut wWhole,
      HttpWorld.Receives httpHandle () clientIp serverIp greetedServer (cutGet 3) wCut ∧
        HttpWorld.Receives httpHandle () clientIp serverIp greetedServer [getSegment 0 httpGet]
          wWhole ∧
            segmentBytes (cutGet 3) = httpGet ∧
              wCut.written (((), 1), greetedServer.magi.gen ((), 1)) ≠
                wWhole.written (((), 1), greetedServer.magi.gen ((), 1)) := by
  have hsole := greetedServer_soleConnection
  have hconsecutive : Consecutive (greetedServer.magi.system.slot ((), 1)).tuple
      (greetedServer.magi.system.hosts ()).ipAddress clientIp serverIp
      (greetedServer.magi.system.slot ((), 1)).recvSeq (cutGet 3) := by
    decide +kernel
  have hsingle : Consecutive (greetedServer.magi.system.slot ((), 1)).tuple
      (greetedServer.magi.system.hosts ()).ipAddress clientIp serverIp
      (greetedServer.magi.system.slot ((), 1)).recvSeq [getSegment 0 httpGet] := by
    decide +kernel
  obtain ⟨wCut, hcut, hcutReply⟩ := hsole.receives hconsecutive httpHandle_fits
  obtain ⟨wWhole, hwhole, hwholeReply⟩ := hsole.receives hsingle httpHandle_fits
  refine ⟨wCut, wWhole, hcut, hwhole, segmentBytes_cutGet 3, ?_⟩
  have hfirst : firstData [getSegment 0 httpGet] = segmentBytes (cutGet 3) := by
    rw [segmentBytes_cutGet, firstData, List.map_singleton, getSegment_payload]
    rfl
  rw [hcutReply, hwholeReply, ne_eq, List.append_cancel_left_eq, hfirst, replyTo_firstData_iff,
    segmentBytes_cutGet]
  decide +kernel

end MagiStack
