import MagiStack.Layer7.Ownership
import Mathlib.Data.Fintype.Prod

/-!
# HttpServer — which connection an answer goes to

Embedding of `http_server_start`, `http_server_attach_host`, `http_server_stop` and
`http_server_dispatch` of `layer7/http_server.c`, and of the end of the TCP branch of `host_receive`, which
calls the dispatcher.  The answer to a request is a parameter, `handle`.

A dispatch hands segments to the network in the middle, and everything that follows from them happens
before it goes on.  So each one is given in pieces, and a run interleaves the pieces of any number of
them, innermost first, with arriving segments, with the datagram sockets of the other servers, and, when
none is in progress, with all descriptor calls.

The dispatcher is not told which connection received data.  It answers the right one exactly when that
connection is the one `magi_accept` comes to first and its slot is not given away meanwhile.
-/

namespace MagiStack

def httpServerPort : UInt16 := 80
def httpBufferSize : Nat := 4096

/-! ## State -/

/-- `g_server`, without the directory, which nothing here reads. -/
structure HttpServer (H : Type*) where
  running : Bool
  boundHost : Option H
  listenSockfd : Int

/-- `http_server_init`. -/
def httpServerInit {H : Type*} : HttpServer H :=
  { running := false, boundHost := none, listenSockfd := -1 }

/-- What the dispatcher does to a connection. -/
inductive HttpOperation
  | read (request : List UInt8)
  | wrote (data : List UInt8)
  | closed
  deriving DecidableEq, Repr

/-- An operation: the connection whose segment the dispatch was called for, and the connection it was
done on. -/
structure HttpEffect (H : Type*) where
  operation : HttpOperation
  calledFor : Connection H
  doneOn : Option (Connection H)
  deriving DecidableEq

/-- Code that waits for the network: `host_receive` after its reply, and a dispatch after a part of the
response, with what is left of it, or after the FIN. -/
inductive HttpFrame (H : Type*)
  | received (host : H) (connection : Connection H)
  | sending (connection : Connection H) (conn : Fin magiSocketMaxSockets) (rest : List UInt8)
  | closing (connection : Connection H) (conn : Fin magiSocketMaxSockets)

namespace HttpFrame

variable {H : Type*}

def connection : HttpFrame H → Connection H
  | received _ connection => connection
  | sending connection _ _ => connection
  | closing connection _ => connection

/-- `conn_fd`. -/
def conn : HttpFrame H → Option (Fin magiSocketMaxSockets)
  | received _ _ => none
  | sending _ conn _ => some conn
  | closing _ conn => some conn

end HttpFrame

/-- The descriptors and hosts, the server, the code in progress (the innermost first) and everything the
dispatcher has done (the latest first). -/
structure HttpWorld (H : Type*) where
  magi : MagiWorld H
  server : HttpServer H
  frames : List (HttpFrame H)
  effects : List (HttpEffect H)

inductive HttpAction (H : Type*)
  | start
  | attach (host : H)
  | stop
  | magi (action : MagiAction H)
  | resume (sent : Bool)

/-! ## The server -/

/-- The slot `socket` points to when `host_receive` has processed a segment it accepts. -/
def hostAcceptedSlot (sockets : TcpTable) (ipAddress : IpAddress) (segment : TcpSegment)
    (srcIp dstIp : IpAddress) : Option (Fin tcpMaxSockets) :=
  if tcpValidateChecksum segment srcIp dstIp then
    match tcpSocketFind sockets ipAddress segment.dstPort srcIp segment.srcPort with
    | none => none
    | some slot =>
        if (sockets slot).isListening && tcpIsOpeningSyn segment then
          match tcpSocketAlloc sockets with
          | none => none
          | some (child, sockets) =>
              let socket := tcpChildSocket slot (sockets slot).localIp segment srcIp
              if (tcpSocketReceiveSegment socket segment srcIp dstIp tcpInit).accepted then some child
              else none
        else if (tcpSocketReceiveSegment (sockets slot) segment srcIp dstIp tcpInit).accepted then
          some slot
        else
          none
  else
    none

/-- The segment `magi_send` hands to the network on a TCP descriptor; `none` when it fails before. -/
def magiSendSegment {H : Type*} (s : MagiSystem H) (sockfd : Int) (data : List UInt8) :
    Option TcpSegment :=
  match s.lookup sockfd with
  | none => none
  | some d =>
      match (s.sockets d).sockType, (s.sockets d).tcpSock, (s.sockets d).host with
      | .tcp, some p, some _ => (magiSendTcp (s.slot p) data).map Prod.snd
      | _, _, _ => none

namespace HttpWorld

variable {H : Type*} [DecidableEq H]

/-- `conn` as an argument. -/
def fd (conn : Fin magiSocketMaxSockets) : Int :=
  conn.val

/-- A call of the server on the descriptors. -/
def withSystem (w : HttpWorld H) (s : MagiSystem H) : HttpWorld H :=
  { w with magi := { w.magi with system := s } }

/-- The connection a descriptor refers to. -/
def connectionOf (w : HttpWorld H) (conn : Fin magiSocketMaxSockets) : Option (Connection H) :=
  (w.magi.system.sockets conn).tcpSock.map fun p => (p, w.magi.gen p)

/-- An operation of a dispatch on its descriptor. -/
def log (w : HttpWorld H) (operation : HttpOperation) (calledFor : Connection H)
    (conn : Fin magiSocketMaxSockets) : HttpWorld H :=
  { w with
    effects :=
      { operation := operation, calledFor := calledFor, doneOn := w.connectionOf conn } ::
        w.effects }

/-- `magi_close(conn_fd)` at the end of a dispatch, up to its FIN. -/
def closeConn (w : HttpWorld H) (c : Connection H) (conn : Fin magiSocketMaxSockets) : HttpWorld H :=
  let closed := magiCloseBegin w.magi.system (fd conn)
  let w := (w.log .closed c conn).withSystem closed.2
  match closed.1 with
  | none => w
  | some _ => { w with frames := .closing c conn :: w.frames }

/-- The loop of `http_server_dispatch` over the response, up to the next segment. -/
def sendResponse (w : HttpWorld H) (c : Connection H) (conn : Fin magiSocketMaxSockets)
    (response : List UInt8) : HttpWorld H :=
  if response = [] then
    w.closeConn c conn
  else
    let chunk := response.take tcpMaxPayload
    match magiSendSegment w.magi.system (fd conn) chunk with
    | none => w.closeConn c conn
    | some _ =>
        let w := (w.log (.wrote chunk) c conn).withSystem (magiSend w.magi.system (fd conn) chunk)
        { w with frames := .sending c conn (response.drop tcpMaxPayload) :: w.frames }

/-- What `host_receive` asks before it calls the dispatcher, and the dispatcher before it accepts. -/
def calls (w : HttpWorld H) (host : H) (c : Connection H) : Bool :=
  let socket := w.magi.system.slot c.1
  socket.state == .established && socket.hasData && socket.localPort == httpServerPort &&
    w.server.boundHost == some host && w.server.running && decide (0 ≤ w.server.listenSockfd)

/-- `http_server_dispatch`, called for connection `c`, up to the first segment. -/
def dispatch (handle : List UInt8 → Option (List UInt8)) (w : HttpWorld H) (c : Connection H) :
    HttpWorld H :=
  match magiAccept w.magi.system w.server.listenSockfd with
  | (none, s) => w.withSystem s
  | (some (conn, _), s) =>
      let w := w.withSystem s
      let (request, s) := magiRecv s (fd conn) (httpBufferSize - 1)
      let w := (w.log (.read request) c conn).withSystem s
      if request = [] then
        w.closeConn c conn
      else
        match handle request with
        | none => w.closeConn c conn
        | some response => w.sendResponse c conn response

/-- The innermost code goes on; `sent` is what `host_send_l3_packet` returned to it. -/
def resume (handle : List UInt8 → Option (List UInt8)) (w : HttpWorld H) (sent : Bool) : HttpWorld H :=
  match w.frames with
  | [] => w
  | .received host c :: rest =>
      let w := { w with frames := rest }
      if w.calls host c then w.dispatch handle c else w
  | .sending c conn response :: rest =>
      let w := { w with frames := rest }
      if sent then w.sendResponse c conn response else w.closeConn c conn
  | .closing _ conn :: rest =>
      { w with frames := rest }.withSystem (magiCloseEnd w.magi.system conn sent)

/-- `host_receive` on a segment, up to its reply. -/
def arrive (w : HttpWorld H) (host : H) (segment : TcpSegment) (srcIp dstIp : IpAddress) :
    HttpWorld H :=
  let magi := w.magi.step (.arrive host segment srcIp dstIp)
  match hostAcceptedSlot (w.magi.system.hosts host).tcpSockets (w.magi.system.hosts host).ipAddress
      segment srcIp dstIp with
  | none => { w with magi := magi }
  | some slot =>
      { w with
        magi := magi
        frames := .received host ((host, slot), magi.gen (host, slot)) :: w.frames }

/-- The calls the datagram servers make while other code waits. -/
def datagram (w : HttpWorld H) : MagiAction H → Bool
  | .socket _ type => type == sockDgram
  | .attachHost sockfd _ | .bind sockfd _ _ | .close sockfd =>
      (w.magi.system.lookup sockfd).any fun d => (w.magi.system.sockets d).sockType == .udp
  | _ => false

/-- `http_server_attach_host`. -/
def attachHost (w : HttpWorld H) (host : H) : HttpWorld H :=
  if w.server.running then
    match (magiSocket w.magi.system afInet sockStream).1 with
    | none => w
    | some d =>
        let magi := w.magi.run
          [.socket afInet sockStream, .attachHost (fd d) (some host),
            .bind (fd d) (w.magi.system.hosts host).ipAddress httpServerPort]
        match magi.system.allocTarget (fd d) with
        | none => { w with magi := magi.step (.close (fd d)) }
        | some _ =>
            { w with
              magi := magi.step (.listen (fd d))
              server := { w.server with boundHost := some host, listenSockfd := fd d } }
  else
    w

/-- `http_server_stop`. -/
def stop (w : HttpWorld H) : HttpWorld H :=
  if w.server.running then
    { w with
      magi :=
        if 0 ≤ w.server.listenSockfd then w.magi.step (.close w.server.listenSockfd) else w.magi
      server := httpServerInit }
  else
    w

def step (handle : List UInt8 → Option (List UInt8)) (w : HttpWorld H) : HttpAction H → HttpWorld H
  | .start =>
      if w.frames.isEmpty then { w with server := { w.server with running := true } } else w
  | .attach host => if w.frames.isEmpty then w.attachHost host else w
  | .stop => if w.frames.isEmpty then w.stop else w
  | .magi (.arrive host segment srcIp dstIp) => w.arrive host segment srcIp dstIp
  | .magi action =>
      if w.frames.isEmpty || w.datagram action then { w with magi := w.magi.step action } else w
  | .resume sent => w.resume handle sent

/-- No server, every slot free, no descriptor in use. -/
def initial (hosts : H → IpAddress) : HttpWorld H :=
  { magi := MagiWorld.initial hosts, server := httpServerInit, frames := [], effects := [] }

def run (handle : List UInt8 → Option (List UInt8)) (w : HttpWorld H)
    (actions : List (HttpAction H)) : HttpWorld H :=
  actions.foldl (step handle) w

/-! ## The property and the condition -/

/-- Everything the dispatcher did, it did on the connection it was called for. -/
def AnswersOwn (w : HttpWorld H) : Prop :=
  ∀ effect ∈ w.effects, effect.doneOn = some effect.calledFor

/-- An established connection of the server's listener. -/
def pending (w : HttpWorld H) (p : SlotPtr H) : Bool :=
  match w.magi.system.lookup w.server.listenSockfd with
  | none => false
  | some d =>
      let sock := w.magi.system.sockets d
      sock.isListening && sock.host == some p.1 && (w.magi.system.slot p).inUse &&
        (w.magi.system.slot p).state == .established &&
        (w.magi.system.slot p).parent.isSome &&
        (w.magi.system.slot p).parent.map (fun slot => (p.1, slot)) == sock.tcpSock

/-- The condition on a step.  Where `host_receive` calls the dispatcher for connection `c`, a descriptor
is free and the listener has an established connection, `c` is one, in the first slot of them all, and
still in its slot.  Where a dispatch goes on after a part of its response, its connection is still in
its slot. -/
def StepOk (w : HttpWorld H) : HttpAction H → Prop
  | .resume _ =>
      match w.frames with
      | .received host c :: _ =>
          w.calls host c = true → w.magi.system.freeSocket.isSome = true →
            (∃ p, w.pending p = true) →
              w.pending c.1 = true ∧ (∀ p, w.pending p = true → c.1.2 ≤ p.2) ∧
                w.magi.gen c.1 = c.2
      | .sending c _ _ :: _ => w.magi.gen c.1 = c.2
      | _ => True
  | _ => True

/-- Every step of the run meets the condition. -/
def RunOk (handle : List UInt8 → Option (List UInt8)) (w : HttpWorld H) : List (HttpAction H) → Prop
  | [] => True
  | action :: rest => w.StepOk action ∧ (w.step handle action).RunOk handle rest

/-! ## What `magi_accept` comes to -/

end HttpWorld

theorem tcpFirstSlot_le {p : Fin tcpMaxSockets → Bool} {i j : Fin tcpMaxSockets}
    (h : tcpFirstSlot p = some i) (hj : p j = true) : i ≤ j := by
  rw [tcpFirstSlot, List.find?_eq_some_iff_getElem] at h
  rcases h with ⟨-, k, hk, hik, hbefore⟩
  rw [List.getElem_finRange] at hik
  by_contra hlt
  have hjk : j.val < k := by
    rw [← hik, not_le] at hlt
    exact hlt
  have hnot := hbefore j.val hjk
  rw [List.getElem_finRange] at hnot
  simp [hj] at hnot

namespace HttpWorld

variable {H : Type*} [DecidableEq H]

/-- The listener's established connections, as `magi_accept` looks for them. -/
theorem pending_iff {w : HttpWorld H} {d : Fin magiSocketMaxSockets}
    (hd : w.magi.system.lookup w.server.listenSockfd = some d) {host : H} {listener : SlotPtr H}
    (hlisten : (w.magi.system.sockets d).isListening = true)
    (htcp : (w.magi.system.sockets d).tcpSock = some listener)
    (hhost : (w.magi.system.sockets d).host = some host) (p : SlotPtr H) :
    w.pending p = true ↔ p.1 = host ∧
      ((w.magi.system.slot (host, p.2)).inUse &&
        (w.magi.system.slot (host, p.2)).parent.map (fun slot => (host, slot)) == some listener &&
        (w.magi.system.slot (host, p.2)).state == .established) = true := by
  rcases p with ⟨other, i⟩
  simp only [pending, hd, hlisten, htcp, hhost, Bool.true_and, Bool.and_eq_true, beq_iff_eq,
    Option.some.injEq]
  constructor
  · rintro ⟨⟨⟨⟨rfl, huse⟩, hstate⟩, -⟩, hparent⟩
    exact ⟨rfl, ⟨huse, hparent⟩, hstate⟩
  · rintro ⟨rfl, ⟨huse, hparent⟩, hstate⟩
    refine ⟨⟨⟨⟨rfl, huse⟩, hstate⟩, ?_⟩, hparent⟩
    rcases Option.map_eq_some_iff.mp hparent with ⟨slot, hslot, -⟩
    rw [hslot]
    rfl

/-- `magi_accept` comes first to the established connection in the first slot. -/
theorem pending_of_child {w : HttpWorld H} {p : SlotPtr H}
    (h : magiPendingChild w.magi.system w.server.listenSockfd = some p) :
    w.pending p = true ∧ ∀ q, w.pending q = true → p.2 ≤ q.2 := by
  rw [magiPendingChild] at h
  split at h
  · cases h
  · rename_i d hd
    split at h
    · rename_i listener host hlisten htcp hhost
      have hpending := pending_iff hd hlisten htcp hhost
      rcases Option.map_eq_some_iff.mp h with ⟨i, hi, rfl⟩
      refine ⟨(hpending _).mpr ⟨rfl, tcpFirstSlot_eq_some hi⟩, fun q hq => ?_⟩
      exact tcpFirstSlot_le hi ((hpending q).mp hq).2
    · cases h

/-- It finds none only when there is none. -/
theorem not_pending_of_no_child {w : HttpWorld H}
    (h : magiPendingChild w.magi.system w.server.listenSockfd = none) (p : SlotPtr H) :
    w.pending p ≠ true := by
  intro hp
  rw [magiPendingChild] at h
  cases hd : w.magi.system.lookup w.server.listenSockfd with
  | none => simp [pending, hd] at hp
  | some d =>
      simp only [hd] at h
      split at h
      · rename_i listener host hlisten htcp hhost
        have hfound := ((pending_iff hd hlisten htcp hhost p).mp hp).2
        have hnone := tcpFirstSlot_eq_none (Option.map_eq_none_iff.mp h) p.2
        exact Bool.false_ne_true (hnone.symm.trans hfound)
      · rename_i hnot
        simp only [pending, hd, Bool.and_eq_true, beq_iff_eq] at hp
        rcases hp with ⟨⟨⟨⟨⟨hlisten, hhost⟩, -⟩, -⟩, hsome⟩, hparent⟩
        rcases Option.isSome_iff_exists.mp hsome with ⟨slot, hslot⟩
        rw [hslot, Option.map_some] at hparent
        exact hnot _ _ hlisten hparent.symm hhost
/-! ## A descriptor and its slot -/

end HttpWorld

variable {H : Type*}

/-- A TCP descriptor in use refers to a slot. -/
structure MagiSocket.Refers (sock : MagiSocket H) (p : SlotPtr H) : Prop where
  inUse : sock.inUse = true
  sockType : sock.sockType = .tcp
  tcpSock : sock.tcpSock = some p
  host : sock.host.isSome = true

namespace MagiSystem

theorem lookup_fd {s : MagiSystem H} {conn : Fin magiSocketMaxSockets}
    (huse : (s.sockets conn).inUse = true) : s.lookup (HttpWorld.fd conn) = some conn := by
  have hrange : 0 ≤ HttpWorld.fd conn ∧ (HttpWorld.fd conn).toNat < magiSocketMaxSockets :=
    ⟨Int.natCast_nonneg _, conn.isLt⟩
  rw [MagiSystem.lookup, dif_pos hrange]
  exact if_pos huse

variable [DecidableEq H] {s : MagiSystem H}

/-- The descriptor `magi_accept` sets up for a child. -/
def acceptedSocket (s : MagiSystem H) (child : SlotPtr H) : MagiSocket H :=
  { (magiSocketZero : MagiSocket H) with
    inUse := true
    sockType := .tcp
    host := some child.1
    tcpSock := some child
    localIp := (s.slot child).localIp
    localPort := (s.slot child).localPort
    remoteIp := (s.slot child).remoteIp
    remotePort := (s.slot child).remotePort }

omit [DecidableEq H] in
theorem acceptedSocket_refers (s : MagiSystem H) (child : SlotPtr H) :
    (s.acceptedSocket child).Refers child where
  inUse := rfl
  sockType := rfl
  tcpSock := rfl
  host := rfl

/-- `magi_accept` fails, or sets up a free descriptor for the child it came to. -/
theorem magiAccept_cases (s : MagiSystem H) (sockfd : Int) :
    (magiAccept s sockfd = (none, s) ∧
        (magiPendingChild s sockfd = none ∨ s.freeSocket = none)) ∨
      ∃ conn child, magiPendingChild s sockfd = some child ∧ s.freeSocket = some conn ∧
        magiAccept s sockfd = (some (conn, child), s.setSocket conn (s.acceptedSocket child)) := by
  rw [magiAccept]
  cases hchild : magiPendingChild s sockfd with
  | none => exact Or.inl ⟨rfl, Or.inl rfl⟩
  | some child =>
      cases hfree : s.freeSocket with
      | none =>
          refine Or.inl ⟨?_, Or.inr rfl⟩
          simp [magiSocket, hfree]
      | some conn =>
          have hsome : magiSocket s afInet sockStream =
              (some conn, s.setSocket conn
                { magiSocketZero with inUse := true, sockType := .tcp }) := by
            simp [magiSocket, hfree]
          refine Or.inr ⟨conn, child, rfl, rfl, ?_⟩
          simp only [hsome, MagiSystem.setSocket, Function.update_self, Function.update_idem]
          rfl

theorem magiRecv_refers {conn : Fin magiSocketMaxSockets} {p : SlotPtr H}
    (h : (s.sockets conn).Refers p) (bufsize : Nat) :
    magiRecv s (HttpWorld.fd conn) bufsize =
      ((tcpSocketRecv (s.slot p) bufsize).1, s.setSlot p (tcpSocketRecv (s.slot p) bufsize).2) := by
  simp only [magiRecv, lookup_fd h.inUse, h.sockType, h.tcpSock]

/-- `magi_send` fails, or changes the slot of its descriptor. -/
theorem magiSend_refers {conn : Fin magiSocketMaxSockets} {p : SlotPtr H}
    (h : (s.sockets conn).Refers p) (data : List UInt8) :
    magiSendSegment s (HttpWorld.fd conn) data = none ∨
      ∃ socket, magiSend s (HttpWorld.fd conn) data = s.setSlot p socket := by
  rcases Option.isSome_iff_exists.mp h.host with ⟨host, hhost⟩
  simp only [magiSendSegment, magiSend, lookup_fd h.inUse, h.sockType, h.tcpSock, hhost]
  cases magiSendTcp (s.slot p) data with
  | none => exact Or.inl rfl
  | some sent => exact Or.inr ⟨sent.1, rfl⟩

/-- `magi_close` waits for its FIN, or clears the descriptor at once. -/
theorem magiCloseBegin_refers {conn : Fin magiSocketMaxSockets} {p : SlotPtr H}
    (h : (s.sockets conn).Refers p) :
    ∃ socket, magiCloseBegin s (HttpWorld.fd conn) = (some conn, s.setSlot p socket) ∨
      magiCloseBegin s (HttpWorld.fd conn) =
        (none, (s.setSlot p socket).setSocket conn magiSocketZero) := by
  rcases Option.isSome_iff_exists.mp h.host with ⟨host, hhost⟩
  refine ⟨(magiCloseTcp (s.slot p)).1, ?_⟩
  simp only [magiCloseBegin, lookup_fd h.inUse, h.sockType, h.tcpSock, hhost]
  cases (magiCloseTcp (s.slot p)).2 with
  | none => exact Or.inr rfl
  | some segment => exact Or.inl rfl

end MagiSystem

/-- Every dispatch in progress has a descriptor of its own, which refers to the slot of the connection
it was called for. -/
structure FramesHold (sockets : Fin magiSocketMaxSockets → MagiSocket H)
    (frames : List (HttpFrame H)) : Prop where
  refers : ∀ frame ∈ frames, ∀ conn ∈ frame.conn, (sockets conn).Refers frame.connection.1
  distinct : (frames.filterMap HttpFrame.conn).Nodup

namespace FramesHold

variable {sockets : Fin magiSocketMaxSockets → MagiSocket H} {frames : List (HttpFrame H)}

theorem nil : FramesHold sockets [] where
  refers := fun _ hframe => nomatch hframe
  distinct := List.nodup_nil

theorem inUse (h : FramesHold sockets frames) {conn : Fin magiSocketMaxSockets}
    (hconn : conn ∈ frames.filterMap HttpFrame.conn) :
    (sockets conn).inUse = true ∧ (sockets conn).sockType = .tcp := by
  rcases List.mem_filterMap.mp hconn with ⟨frame, hframe, hsome⟩
  have hrefers := h.refers frame hframe conn hsome
  exact ⟨hrefers.inUse, hrefers.sockType⟩

/-- A descriptor of no dispatch may change. -/
theorem update (h : FramesHold sockets frames) {conn : Fin magiSocketMaxSockets}
    (sock : MagiSocket H) (hconn : conn ∉ frames.filterMap HttpFrame.conn) :
    FramesHold (Function.update sockets conn sock) frames where
  refers := by
    intro frame hframe other hother
    have hne : other ≠ conn := by
      rintro rfl
      exact hconn (List.mem_filterMap.mpr ⟨frame, hframe, hother⟩)
    rw [Function.update_of_ne hne]
    exact h.refers frame hframe other hother
  distinct := h.distinct

theorem push (h : FramesHold sockets frames) {frame : HttpFrame H}
    (hrefers : ∀ conn ∈ frame.conn, (sockets conn).Refers frame.connection.1)
    (hnew : ∀ conn ∈ frame.conn, conn ∉ frames.filterMap HttpFrame.conn) :
    FramesHold sockets (frame :: frames) where
  refers := by
    intro other hother
    rcases List.mem_cons.mp hother with rfl | hmem
    · exact hrefers
    · exact h.refers other hmem
  distinct := by
    cases hconn : frame.conn with
    | none =>
        rw [List.filterMap_cons_none hconn]
        exact h.distinct
    | some conn =>
        rw [List.filterMap_cons_some hconn, List.nodup_cons]
        exact ⟨hnew conn hconn, h.distinct⟩

theorem pop {frame : HttpFrame H} (h : FramesHold sockets (frame :: frames)) :
    FramesHold sockets frames ∧
      ∀ conn ∈ frame.conn, (sockets conn).Refers frame.connection.1 ∧
        conn ∉ frames.filterMap HttpFrame.conn := by
  refine ⟨⟨fun other hother => h.refers other (List.mem_cons_of_mem frame hother), ?_⟩, ?_⟩
  · exact (List.Sublist.filterMap _ (List.sublist_cons_self frame frames)).nodup h.distinct
  · intro conn hconn
    refine ⟨h.refers frame List.mem_cons_self conn hconn, ?_⟩
    have hdistinct := h.distinct
    rw [List.filterMap_cons_some hconn, List.nodup_cons] at hdistinct
    exact hdistinct.1

end FramesHold

namespace HttpWorld

variable [DecidableEq H]

/-! ## What a dispatch does -/

/-- A piece of a dispatch, called for connection `c`, has acted on the connection in slot `p` alone. -/
structure ServedBy (w w' : HttpWorld H) (c : Connection H) (p : SlotPtr H) : Prop where
  effects : ∃ new, new ≠ [] ∧ w'.effects = new ++ w.effects ∧
    ∀ effect ∈ new, effect.calledFor = c ∧ effect.doneOn = some (p, w.magi.gen p)
  gen : w'.magi.gen = w.magi.gen
  slots : ∀ q, q ≠ p → w'.magi.system.slot q = w.magi.system.slot q
  frames : p = c.1 → FramesHold w'.magi.system.sockets w'.frames

omit [DecidableEq H] in
/-- It acted on its own connection exactly when slot `p` holds that one. -/
theorem ServedBy.answersOwn_iff {w w' : HttpWorld H} {c : Connection H} {p : SlotPtr H}
    (h : ServedBy w w' c p) (hown : w.AnswersOwn) : w'.AnswersOwn ↔ (p, w.magi.gen p) = c := by
  rcases h.effects with ⟨new, hne, heffects, hnew⟩
  rw [AnswersOwn, heffects]
  constructor
  · intro hall
    rcases List.exists_mem_of_ne_nil new hne with ⟨effect, heffect⟩
    have hdone := hall effect (List.mem_append_left _ heffect)
    rw [(hnew effect heffect).1, (hnew effect heffect).2] at hdone
    exact Option.some.inj hdone
  · intro heq effect heffect
    rcases List.mem_append.mp heffect with hnewer | holder
    · rw [(hnew effect hnewer).1, (hnew effect hnewer).2, heq]
    · exact hown effect holder

/-- A slot that changes, as the pieces change it. -/
theorem slot_of_ne {s : MagiSystem H} {p q : SlotPtr H} (hq : q ≠ p) (socket : TcpSocket) :
    (s.setSlot p socket).slot q = s.slot q :=
  (MagiSystem.slot_setSlot s p q socket).trans (if_neg hq)

theorem closeConn_served {w : HttpWorld H} {conn : Fin magiSocketMaxSockets} {p : SlotPtr H}
    (hrefers : (w.magi.system.sockets conn).Refers p)
    (hframes : FramesHold w.magi.system.sockets w.frames)
    (hnew : conn ∉ w.frames.filterMap HttpFrame.conn) (c : Connection H) :
    ServedBy w (w.closeConn c conn) c p := by
  have hon : w.connectionOf conn = some (p, w.magi.gen p) := by
    rw [connectionOf, hrefers.tcpSock]
    rfl
  rcases MagiSystem.magiCloseBegin_refers hrefers with ⟨socket, hclose | hclose⟩
  · simp only [closeConn, hclose]
    refine ⟨⟨[_], List.cons_ne_nil _ _, rfl, ?_⟩, rfl, fun q hq => slot_of_ne hq socket, ?_⟩
    · intro effect heffect
      rw [List.mem_singleton.mp heffect]
      exact ⟨rfl, hon⟩
    · rintro rfl
      refine hframes.push ?_ ?_
      all_goals
        rintro other ⟨⟩
        assumption
  · simp only [closeConn, hclose]
    refine ⟨⟨[_], List.cons_ne_nil _ _, rfl, ?_⟩, rfl, fun q hq => slot_of_ne hq socket, ?_⟩
    · intro effect heffect
      rw [List.mem_singleton.mp heffect]
      exact ⟨rfl, hon⟩
    · intro _
      exact hframes.update magiSocketZero hnew

theorem sendResponse_served {w : HttpWorld H} {conn : Fin magiSocketMaxSockets} {p : SlotPtr H}
    (hrefers : (w.magi.system.sockets conn).Refers p)
    (hframes : FramesHold w.magi.system.sockets w.frames)
    (hnew : conn ∉ w.frames.filterMap HttpFrame.conn) (c : Connection H) (response : List UInt8) :
    ServedBy w (w.sendResponse c conn response) c p := by
  have hon : w.connectionOf conn = some (p, w.magi.gen p) := by
    rw [connectionOf, hrefers.tcpSock]
    rfl
  have hclose := closeConn_served hrefers hframes hnew c
  rw [sendResponse]
  split
  · exact hclose
  · simp only
    split
    · exact hclose
    · rename_i hsegment
      rcases MagiSystem.magiSend_refers hrefers (response.take tcpMaxPayload) with hnone | ⟨socket, hsend⟩
      · cases hnone.symm.trans hsegment
      · rw [hsend]
        refine ⟨⟨[_], List.cons_ne_nil _ _, rfl, ?_⟩, rfl, fun q hq => slot_of_ne hq socket, ?_⟩
        · intro effect heffect
          rw [List.mem_singleton.mp heffect]
          exact ⟨rfl, hon⟩
        · rintro rfl
          refine hframes.push ?_ ?_
          all_goals
            rintro other ⟨⟩
            assumption

omit [DecidableEq H] in
/-- What comes before a piece may log a read on the same connection. -/
theorem ServedBy.afterRead {w w' w'' : HttpWorld H} {c : Connection H} {p : SlotPtr H}
    (h : ServedBy w' w'' c p) {effect : HttpEffect H} (heffects : w'.effects = effect :: w.effects)
    (heffect : effect.calledFor = c ∧ effect.doneOn = some (p, w.magi.gen p))
    (hgen : w'.magi.gen = w.magi.gen)
    (hslots : ∀ q, q ≠ p → w'.magi.system.slot q = w.magi.system.slot q) : ServedBy w w'' c p := by
  rcases h.effects with ⟨new, -, hnewEffects, hnew⟩
  refine ⟨⟨new ++ [effect], by simp, ?_, ?_⟩, h.gen.trans hgen, ?_, h.frames⟩
  · rw [hnewEffects, heffects]
    simp
  · intro other hother
    rcases List.mem_append.mp hother with hlater | hread
    · rw [← hgen]
      exact hnew other hlater
    · rw [List.mem_singleton.mp hread]
      exact heffect
  · intro q hq
    exact (h.slots q hq).trans (hslots q hq)

/-- A dispatch accepts nothing and does nothing, or acts on the connection `magi_accept` comes to. -/
theorem dispatch_cases (handle : List UInt8 → Option (List UInt8)) {w : HttpWorld H}
    (hframes : FramesHold w.magi.system.sockets w.frames) (c : Connection H) :
    (w.dispatch handle c = w ∧
        (magiPendingChild w.magi.system w.server.listenSockfd = none ∨
          w.magi.system.freeSocket = none)) ∨
      ∃ child, magiPendingChild w.magi.system w.server.listenSockfd = some child ∧
        w.magi.system.freeSocket.isSome = true ∧ ServedBy w (w.dispatch handle c) c child := by
  rcases MagiSystem.magiAccept_cases w.magi.system w.server.listenSockfd with
    ⟨haccept, hnone⟩ | ⟨conn, child, hchild, hfree, haccept⟩
  · refine Or.inl ⟨?_, hnone⟩
    rw [dispatch, haccept]
    rfl
  · refine Or.inr ⟨child, hchild, by rw [hfree]; rfl, ?_⟩
    -- The new descriptor was free, so it is that of no dispatch in progress.
    have hnew : conn ∉ w.frames.filterMap HttpFrame.conn := by
      intro hmem
      cases (MagiSystem.inUse_of_freeSocket hfree).symm.trans (hframes.inUse hmem).1
    have haccepted := hframes.update (w.magi.system.acceptedSocket child) hnew
    have hrefers : ((w.magi.system.setSocket conn (w.magi.system.acceptedSocket child)).sockets
        conn).Refers child := by
      simp only [MagiSystem.setSocket, Function.update_self]
      exact w.magi.system.acceptedSocket_refers child
    simp only [dispatch, haccept, MagiSystem.magiRecv_refers hrefers]
    generalize tcpSocketRecv _ (httpBufferSize - 1) = received
    generalize hread : ((w.withSystem (w.magi.system.setSocket conn
      (w.magi.system.acceptedSocket child))).log (.read received.1) c conn).withSystem _ = read
    have heffects : read.effects =
        { operation := .read received.1
          calledFor := c
          doneOn := some (child, w.magi.gen child) } :: w.effects := by
      rw [← hread]
      simp only [withSystem, log, connectionOf, hrefers.tcpSock, Option.map_some]
    have hreadRefers : (read.magi.system.sockets conn).Refers child := by
      rw [← hread]
      exact hrefers
    have hreadFrames : FramesHold read.magi.system.sockets read.frames := by
      rw [← hread]
      exact haccepted
    have hreadNew : conn ∉ read.frames.filterMap HttpFrame.conn := by
      rw [← hread]
      exact hnew
    have hgen : read.magi.gen = w.magi.gen := by
      rw [← hread]
      rfl
    have hslots : ∀ q, q ≠ child → read.magi.system.slot q = w.magi.system.slot q := by
      intro q hq
      rw [← hread]
      exact slot_of_ne hq _
    have hclosed := (closeConn_served hreadRefers hreadFrames hreadNew c).afterRead heffects
      ⟨rfl, rfl⟩ hgen hslots
    split
    · exact hclosed
    · split
      · exact hclosed
      · rename_i response _
        exact (sendResponse_served hreadRefers hreadFrames hreadNew c response).afterRead heffects
          ⟨rfl, rfl⟩ hgen hslots

theorem pending_host {w : HttpWorld H} {p q : SlotPtr H} (hp : w.pending p = true)
    (hq : w.pending q = true) : p.1 = q.1 := by
  rw [pending] at hp hq
  cases hd : w.magi.system.lookup w.server.listenSockfd with
  | none => simp [hd] at hp
  | some d =>
      simp only [hd, Bool.and_eq_true, beq_iff_eq] at hp hq
      exact Option.some.inj (hp.1.1.1.1.2.symm.trans hq.1.1.1.1.2)

/-- The connection `magi_accept` comes to is `c`. -/
theorem child_eq_iff {w : HttpWorld H} {child : SlotPtr H} {c : Connection H}
    (hchild : magiPendingChild w.magi.system w.server.listenSockfd = some child) :
    (child, w.magi.gen child) = c ↔
      w.pending c.1 = true ∧ (∀ p, w.pending p = true → c.1.2 ≤ p.2) ∧ w.magi.gen c.1 = c.2 := by
  rcases pending_of_child hchild with ⟨hpending, hfirst⟩
  constructor
  · rintro rfl
    exact ⟨hpending, hfirst, rfl⟩
  · rintro ⟨hc, hleast, hgen⟩
    have hslot : child = c.1 :=
      Prod.ext (pending_host hpending hc) (le_antisymm (hfirst c.1 hc) (hleast child hpending))
    rw [hslot, hgen]

/-! ## One step -/

/-- What a step must keep: the dispatches their descriptors, and the slots of other connections. -/
structure StepSpec (handle : List UInt8 → Option (List UInt8)) (w : HttpWorld H)
    (action : HttpAction H) : Prop where
  answers : (w.step handle action).AnswersOwn ↔ w.StepOk action
  frames : w.StepOk action →
    FramesHold (w.step handle action).magi.system.sockets (w.step handle action).frames
  slots : w.StepOk action → ∀ sent frame rest, action = .resume sent → w.frames = frame :: rest →
    ∀ p, p ≠ frame.connection.1 →
      (w.step handle action).magi.system.slot p = w.magi.system.slot p

omit [DecidableEq H] in
/-- A piece that serves slot `p` is fine exactly when the slot holds the connection it is for. -/
theorem ServedBy.stepSpec {w w' : HttpWorld H} {c : Connection H} {p : SlotPtr H}
    {frames : List (HttpFrame H)} (h : ServedBy { w with frames := frames } w' c p)
    (hown : w.AnswersOwn) :
    (w'.AnswersOwn ↔ (p, w.magi.gen p) = c) ∧
      ((p, w.magi.gen p) = c → FramesHold w'.magi.system.sockets w'.frames ∧
        ∀ q, q ≠ c.1 → w'.magi.system.slot q = w.magi.system.slot q) := by
  refine ⟨h.answersOwn_iff hown, ?_⟩
  rintro rfl
  exact ⟨h.frames rfl, h.slots⟩

omit [DecidableEq H] in
theorem top_eq {w : HttpWorld H} {frame frame' : HttpFrame H} {rest rest' : List (HttpFrame H)}
    (hstack : w.frames = frame :: rest) (hcons : w.frames = frame' :: rest') : frame' = frame :=
  (List.cons.inj (hcons.symm.trans hstack)).1

/-- The top of the stack is a connection whose data came in. -/
theorem received_spec (handle : List UInt8 → Option (List UInt8)) {w : HttpWorld H} {host : H}
    {c : Connection H} {rest : List (HttpFrame H)} (hstack : w.frames = .received host c :: rest)
    (hrest : FramesHold w.magi.system.sockets rest) (hown : w.AnswersOwn) (sent : Bool) :
    StepSpec handle w (.resume sent) := by
  have hstep : w.step handle (.resume sent) =
      if w.calls host c then ({ w with frames := rest } : HttpWorld H).dispatch handle c
      else { w with frames := rest } := by
    rw [step, resume, hstack]
    rfl
  have hok : w.StepOk (.resume sent) ↔ (w.calls host c = true →
      w.magi.system.freeSocket.isSome = true → (∃ p, w.pending p = true) →
        w.pending c.1 = true ∧ (∀ p, w.pending p = true → c.1.2 ≤ p.2) ∧
          w.magi.gen c.1 = c.2) := by
    rw [StepOk, hstack]
  have hidle : w.step handle (.resume sent) = { w with frames := rest } →
      w.StepOk (.resume sent) → StepSpec handle w (.resume sent) := by
    intro hsame hmet
    refine ⟨?_, fun _ => ?_, fun _ _ _ _ _ _ p _ => by rw [hsame]⟩
    all_goals rw [hsame]
    · exact iff_of_true hown hmet
    · exact hrest
  -- The dispatcher is called for data on the port of the server only.
  by_cases hcalls : w.calls host c = true
  · rw [if_pos hcalls] at hstep
    rcases dispatch_cases handle (w := { w with frames := rest }) hrest c with
      ⟨hsame, hnone⟩ | ⟨child, hchild, hfree, hserved⟩
    · refine hidle (hstep.trans hsame) (hok.mpr fun _ hsome hpending => ?_)
      rcases hpending with ⟨p, hp⟩
      rcases hnone with hnochild | hnofree
      · exact absurd hp (not_pending_of_no_child hnochild p)
      · rw [hnofree] at hsome
        cases hsome
    · rcases hserved.stepSpec hown with ⟨hanswers, hkept⟩
      have hchildIff := child_eq_iff (w := w) (c := c) hchild
      -- The child that `magi_accept` returns decides whom the response goes to.
      have hmet : w.StepOk (.resume sent) ↔ (child, w.magi.gen child) = c := by
        rw [hok, hchildIff]
        constructor
        · intro h
          exact h hcalls hfree ⟨child, (pending_of_child hchild).1⟩
        · intro h _ _ _
          exact h
      refine ⟨?_, fun h => ?_, fun h sent' frame' rest' _ hcons p hp => ?_⟩
      all_goals rw [hstep]
      · exact hanswers.trans hmet.symm
      · exact (hkept (hmet.mp h)).1
      · rw [top_eq hstack hcons] at hp
        exact (hkept (hmet.mp h)).2 p hp
  · rw [if_neg hcalls] at hstep
    exact hidle hstep (hok.mpr fun h => absurd h hcalls)

/-- The top of the stack is a response on its way out. -/
theorem sending_spec (handle : List UInt8 → Option (List UInt8)) {w : HttpWorld H}
    {c : Connection H} {conn : Fin magiSocketMaxSockets} {response : List UInt8}
    {rest : List (HttpFrame H)} (hstack : w.frames = .sending c conn response :: rest)
    (hframes : FramesHold w.magi.system.sockets (.sending c conn response :: rest))
    (hown : w.AnswersOwn) (sent : Bool) : StepSpec handle w (.resume sent) := by
  rcases hframes.pop with ⟨hrest, hframe⟩
  rcases hframe conn rfl with ⟨hrefers, hnew⟩
  -- Both branches go on with the descriptor and the connection of the frame.
  have hserved : ServedBy { w with frames := rest } (w.step handle (.resume sent)) c c.1 := by
    rw [step, resume, hstack]
    simp only
    split
    · exact sendResponse_served (w := { w with frames := rest }) hrefers hrest hnew c response
    · exact closeConn_served (w := { w with frames := rest }) hrefers hrest hnew c
  rcases hserved.stepSpec hown with ⟨hanswers, hkept⟩
  have hok : w.StepOk (.resume sent) ↔ (c.1, w.magi.gen c.1) = c := by
    rw [StepOk, hstack, Prod.ext_iff]
    exact ⟨fun hgen => ⟨rfl, hgen⟩, fun heq => heq.2⟩
  refine ⟨hanswers.trans hok.symm, fun h => (hkept (hok.mp h)).1, ?_⟩
  intro h sent' frame' rest' _ hcons p hp
  rw [top_eq hstack hcons] at hp
  exact (hkept (hok.mp h)).2 p hp

/-- The top of the stack is a descriptor that is being closed. -/
theorem closing_spec (handle : List UInt8 → Option (List UInt8)) {w : HttpWorld H}
    {c : Connection H} {conn : Fin magiSocketMaxSockets} {rest : List (HttpFrame H)}
    (hstack : w.frames = .closing c conn :: rest)
    (hframes : FramesHold w.magi.system.sockets (.closing c conn :: rest)) (hown : w.AnswersOwn)
    (sent : Bool) : StepSpec handle w (.resume sent) := by
  rcases hframes.pop with ⟨hrest, hframe⟩
  rcases hframe conn rfl with ⟨-, hnew⟩
  have hstep : w.step handle (.resume sent) =
      ({ w with frames := rest } : HttpWorld H).withSystem
        (magiCloseEnd w.magi.system conn sent) := by
    rw [step, resume, hstack]
  have hok : w.StepOk (.resume sent) := by
    rw [StepOk, hstack]
    trivial
  rw [magiCloseEnd] at hstep
  refine ⟨?_, fun _ => ?_, fun _ sent' frame' rest' _ _ p _ => ?_⟩
  · rw [hstep]
    exact iff_of_true hown hok
  · rw [hstep]
    split
    · exact hrest.update magiSocketZero hnew
    · exact hrest
  · rw [hstep]
    split
    all_goals rfl

theorem resume_spec (handle : List UInt8 → Option (List UInt8)) {w : HttpWorld H}
    (hframes : FramesHold w.magi.system.sockets w.frames) (hown : w.AnswersOwn) (sent : Bool) :
    StepSpec handle w (.resume sent) := by
  cases hstack : w.frames with
  | nil =>
      have hsame : w.step handle (.resume sent) = w := by
        rw [step, resume, hstack]
      have hok : w.StepOk (.resume sent) := by
        rw [StepOk, hstack]
        trivial
      refine ⟨?_, fun _ => ?_, fun _ _ frame rest _ hcons => ?_⟩
      · rw [hsame]
        exact iff_of_true hown hok
      · rw [hsame]
        exact hframes
      · cases hstack.symm.trans hcons
  | cons frame rest =>
      rw [hstack] at hframes
      cases frame with
      | received host c => exact received_spec handle hstack hframes.pop.1 hown sent
      | sending c conn response => exact sending_spec handle hstack hframes hown sent
      | closing c conn => exact closing_spec handle hstack hframes hown sent

omit [DecidableEq H] in
/-- A descriptor with the type of a datagram socket is that of no dispatch. -/
theorem not_conn_of_udp {w : HttpWorld H} (hframes : FramesHold w.magi.system.sockets w.frames)
    {d : Fin magiSocketMaxSockets} (hudp : (w.magi.system.sockets d).sockType = .udp) :
    d ∉ w.frames.filterMap HttpFrame.conn := by
  intro hmem
  cases hudp.symm.trans (hframes.inUse hmem).2

/-- The datagram servers leave the descriptors of the dispatches alone. -/
theorem datagram_frames {w : HttpWorld H} (hframes : FramesHold w.magi.system.sockets w.frames)
    {action : MagiAction H} (hdatagram : w.datagram action = true) :
    FramesHold (w.magi.step action).system.sockets w.frames := by
  have hlookup : ∀ sockfd, (w.magi.system.lookup sockfd).any
      (fun d => (w.magi.system.sockets d).sockType == .udp) = true →
      ∃ d, w.magi.system.lookup sockfd = some d ∧ (w.magi.system.sockets d).sockType = .udp := by
    intro sockfd h
    rcases (Option.any_eq_true _ _).mp h with ⟨d, hd, hudp⟩
    exact ⟨d, hd, by simpa using hudp⟩
  -- The descriptor that changes is new or of UDP, and that of no frame.
  cases action with
  | socket domain type =>
      rw [MagiWorld.step_socket_system]
      rcases magiSocket_cases w.magi.system domain type with heq | ⟨d, sock, hfree, -, hset⟩
      · rw [heq]
        exact hframes
      · have hnew : d ∉ w.frames.filterMap HttpFrame.conn := by
          intro hmem
          cases (MagiSystem.inUse_of_freeSocket hfree).symm.trans (hframes.inUse hmem).1
        rcases hset with heq | ⟨heq, -⟩
        all_goals
          rw [heq]
          exact hframes.update sock hnew
  | attachHost sockfd host =>
      rcases hlookup sockfd hdatagram with ⟨d, hd, hudp⟩
      simp only [MagiWorld.step, magiSocketAttachHost, hd]
      cases host with
      | none => exact hframes
      | some host => exact hframes.update _ (not_conn_of_udp hframes hudp)
  | bind sockfd ip port =>
      rcases hlookup sockfd hdatagram with ⟨d, hd, hudp⟩
      simp only [MagiWorld.step, magiBind, hd]
      exact hframes.update _ (not_conn_of_udp hframes hudp)
  | close sockfd =>
      rcases hlookup sockfd hdatagram with ⟨d, hd, hudp⟩
      simp only [MagiWorld.step, magiCloseBegin, hd, hudp]
      exact hframes.update _ (not_conn_of_udp hframes hudp)
  | listen | accept | connect | connectReturn | send | recv | closeReturn | arrive =>
      cases hdatagram

/-- An arriving segment only adds the `host_receive` that processes it. -/
theorem arrive_frames {w : HttpWorld H} (hframes : FramesHold w.magi.system.sockets w.frames)
    (host : H) (segment : TcpSegment) (srcIp dstIp : IpAddress) :
    FramesHold (w.arrive host segment srcIp dstIp).magi.system.sockets
        (w.arrive host segment srcIp dstIp).frames ∧
      (w.arrive host segment srcIp dstIp).effects = w.effects := by
  rw [arrive]
  split
  · exact ⟨hframes, rfl⟩
  · refine ⟨hframes.push ?_ ?_, rfl⟩
    all_goals
      intro conn hconn
      cases hconn

/-- A step in which no dispatch goes on. -/
theorem quiet_spec {handle : List UInt8 → Option (List UInt8)} {w : HttpWorld H}
    (hown : w.AnswersOwn) {action : HttpAction H} (hquiet : ∀ sent, action ≠ .resume sent)
    (heffects : (w.step handle action).effects = w.effects)
    (hframes : FramesHold (w.step handle action).magi.system.sockets
      (w.step handle action).frames) : StepSpec handle w action := by
  have hok : w.StepOk action := by
    cases action
    case resume sent => exact absurd rfl (hquiet sent)
    all_goals trivial
  refine ⟨?_, fun _ => hframes, fun _ sent _ _ hresume => absurd hresume (hquiet sent)⟩
  rw [AnswersOwn, heffects]
  exact iff_of_true hown hok

theorem attachHost_same (w : HttpWorld H) (host : H) :
    (w.attachHost host).frames = w.frames ∧ (w.attachHost host).effects = w.effects := by
  rw [attachHost]
  split
  · split
    · exact ⟨rfl, rfl⟩
    · simp only
      split
      all_goals exact ⟨rfl, rfl⟩
  · exact ⟨rfl, rfl⟩

theorem stop_same (w : HttpWorld H) : w.stop.frames = w.frames ∧ w.stop.effects = w.effects := by
  rw [stop]
  split
  all_goals exact ⟨rfl, rfl⟩

/-- A call is made when no dispatch waits, or by a datagram server. -/
theorem magi_step (handle : List UInt8 → Option (List UInt8)) (w : HttpWorld H)
    (action : MagiAction H) :
    (∃ host segment srcIp dstIp, action = .arrive host segment srcIp dstIp) ∨
      w.step handle (.magi action) =
        if w.frames.isEmpty || w.datagram action then { w with magi := w.magi.step action }
        else w := by
  cases action
  case arrive host segment srcIp dstIp => exact Or.inl ⟨host, segment, srcIp, dstIp, rfl⟩
  all_goals exact Or.inr rfl

theorem step_spec (handle : List UInt8 → Option (List UInt8)) {w : HttpWorld H}
    (hframes : FramesHold w.magi.system.sockets w.frames) (hown : w.AnswersOwn)
    (action : HttpAction H) : StepSpec handle w action := by
  -- Between the pieces of no dispatch there is no descriptor to keep.
  have hidle : ∀ w' : HttpWorld H, w.frames.isEmpty = true → w'.frames = w.frames →
      FramesHold w'.magi.system.sockets w'.frames := by
    intro w' hempty hsame
    rw [hsame, List.isEmpty_iff.mp hempty]
    exact FramesHold.nil
  cases action with
  | start =>
      refine quiet_spec hown (fun _ => nofun) ?_ ?_
      all_goals
        rw [step]
        split
      all_goals first | rfl | exact hframes
  | attach host =>
      have hsame := w.attachHost_same host
      refine quiet_spec hown (fun _ => nofun) ?_ ?_
      all_goals
        rw [step]
        split
      · exact hsame.2
      · rfl
      · rename_i hempty
        exact hidle _ hempty hsame.1
      · exact hframes
  | stop =>
      have hsame := w.stop_same
      refine quiet_spec hown (fun _ => nofun) ?_ ?_
      all_goals
        rw [step]
        split
      · exact hsame.2
      · rfl
      · rename_i hempty
        exact hidle _ hempty hsame.1
      · exact hframes
  | magi action =>
      rcases magi_step handle w action with ⟨host, segment, srcIp, dstIp, rfl⟩ | hstep
      · have harrive := arrive_frames hframes host segment srcIp dstIp
        exact quiet_spec hown (fun _ => nofun) harrive.2 harrive.1
      · refine quiet_spec hown (fun _ => nofun) ?_ ?_
        all_goals
          rw [hstep]
          split
        · rfl
        · rfl
        · rename_i hallowed
          rcases (Bool.or_eq_true _ _).mp hallowed with hempty | hdatagram
          · exact hidle { w with magi := w.magi.step action } hempty rfl
          · exact datagram_frames hframes hdatagram
        · exact hframes
  | resume sent => exact resume_spec handle hframes hown sent

/-! ## Runs -/

theorem closeConn_effects (w : HttpWorld H) (c : Connection H) (conn : Fin magiSocketMaxSockets) :
    w.effects <:+ (w.closeConn c conn).effects := by
  simp only [closeConn]
  split
  all_goals exact List.suffix_cons _ _

theorem sendResponse_effects (w : HttpWorld H) (c : Connection H) (conn : Fin magiSocketMaxSockets)
    (response : List UInt8) : w.effects <:+ (w.sendResponse c conn response).effects := by
  rw [sendResponse]
  split
  · exact w.closeConn_effects c conn
  · simp only
    split
    · exact w.closeConn_effects c conn
    · exact List.suffix_cons _ _

theorem dispatch_effects (handle : List UInt8 → Option (List UInt8)) (w : HttpWorld H)
    (c : Connection H) : w.effects <:+ (w.dispatch handle c).effects := by
  rw [dispatch]
  split
  · exact List.suffix_refl _
  · rename_i conn _ s _
    simp only
    generalize hread : ((w.withSystem s).log _ c conn).withSystem _ = read
    have hsuffix : w.effects <:+ read.effects := by
      rw [← hread]
      exact List.suffix_cons _ _
    split
    · exact hsuffix.trans (read.closeConn_effects c conn)
    · split
      · exact hsuffix.trans (read.closeConn_effects c conn)
      · exact hsuffix.trans (read.sendResponse_effects c conn _)

/-- What the dispatcher has done stays in the history. -/
theorem step_effects (handle : List UInt8 → Option (List UInt8)) (w : HttpWorld H)
    (action : HttpAction H) : w.effects <:+ (w.step handle action).effects := by
  cases action with
  | start =>
      rw [step]
      split
      all_goals exact List.suffix_refl _
  | attach host =>
      rw [step]
      split
      · rw [(w.attachHost_same host).2]
      · exact List.suffix_refl _
  | stop =>
      rw [step]
      split
      · rw [w.stop_same.2]
      · exact List.suffix_refl _
  | magi action =>
      rcases magi_step handle w action with ⟨host, segment, srcIp, dstIp, rfl⟩ | hstep
      · simp only [step, arrive]
        split
        all_goals exact List.suffix_refl _
      · rw [hstep]
        split
        all_goals exact List.suffix_refl _
  | resume sent =>
      -- Only what a frame of the server does next is logged.
      rw [step, resume]
      split
      · exact List.suffix_refl _
      · rename_i host c rest _
        simp only
        split
        · exact dispatch_effects handle { w with frames := rest } c
        · exact List.suffix_refl _
      · rename_i c conn response rest _
        simp only
        split
        · exact sendResponse_effects { w with frames := rest } c conn response
        · exact closeConn_effects { w with frames := rest } c conn
      · exact List.suffix_refl _

theorem run_effects (handle : List UInt8 → Option (List UInt8)) (w : HttpWorld H)
    (actions : List (HttpAction H)) : w.effects <:+ (w.run handle actions).effects := by
  induction actions generalizing w with
  | nil => exact List.suffix_refl _
  | cons action rest ih => exact (step_effects handle w action).trans (ih _)

/-- From a state in which the dispatches keep their descriptors. -/
theorem run_answersOwn_iff (handle : List UInt8 → Option (List UInt8)) {w : HttpWorld H}
    (hframes : FramesHold w.magi.system.sockets w.frames) (hown : w.AnswersOwn)
    (actions : List (HttpAction H)) :
    ((w.run handle actions).AnswersOwn ↔ w.RunOk handle actions) ∧
      (w.RunOk handle actions →
        FramesHold (w.run handle actions).magi.system.sockets (w.run handle actions).frames) := by
  induction actions generalizing w with
  | nil => exact ⟨iff_of_true hown trivial, fun _ => hframes⟩
  | cons action rest ih =>
      have hspec := step_spec handle hframes hown action
      refine ⟨⟨fun hrun => ?_, fun hok => ?_⟩, fun hok => ?_⟩
      · -- An operation on another connection stays in the history.
        have hstep : (w.step handle action).AnswersOwn := fun effect heffect =>
          hrun effect ((run_effects handle _ rest).subset heffect)
        have hmet := hspec.answers.mp hstep
        exact ⟨hmet, (ih (hspec.frames hmet) hstep).1.mp hrun⟩
      · exact (ih (hspec.frames hok.1) (hspec.answers.mpr hok.1)).1.mpr hok.2
      · exact (ih (hspec.frames hok.1) (hspec.answers.mpr hok.1)).2 hok.2

end HttpWorld

/-- Whatever the server answers to requests: in a run from hosts with free slots, the dispatcher reads,
writes and closes only the connections it is called for exactly when every step of the run meets the
condition; and then a dispatch that goes on changes the slot of no other connection. -/
theorem http_answers_own_connection_iff [DecidableEq H]
    (handle : List UInt8 → Option (List UInt8)) (hosts : H → IpAddress)
    (actions : List (HttpAction H)) :
    let w := (HttpWorld.initial hosts).run handle actions
    (w.AnswersOwn ↔ (HttpWorld.initial hosts).RunOk handle actions) ∧
      (w.AnswersOwn → ∀ sent frame rest, w.StepOk (.resume sent) → w.frames = frame :: rest →
        ∀ p, p ≠ frame.connection.1 →
          (w.step handle (.resume sent)).magi.system.slot p = w.magi.system.slot p) := by
  intro w
  have hstart : (HttpWorld.initial hosts).AnswersOwn := fun _ heffect => nomatch heffect
  have hrun := HttpWorld.run_answersOwn_iff handle FramesHold.nil hstart actions
  refine ⟨hrun.1, fun hown sent frame rest hok hcons => ?_⟩
  have hframes := hrun.2 (hrun.1.mp hown)
  exact (HttpWorld.step_spec handle hframes hown (.resume sent)).slots hok sent frame rest rfl hcons

/-! ## Two clients -/

instance [DecidableEq H] (w : HttpWorld H) : Decidable w.AnswersOwn :=
  inferInstanceAs (Decidable (∀ effect ∈ w.effects, effect.doneOn = some effect.calledFor))

/-- A segment from a port of the client to the server. -/
def httpClientSegment (srcPort : UInt16) (seqNum ackNum : UInt32) (flags : UInt8) (payload : List UInt8) :
    TcpSegment :=
  tcpStoreChecksum
    { tcpInit with
      srcPort := srcPort
      dstPort := httpServerPort
      seqNum := seqNum
      ackNum := ackNum
      flags := flags
      payload := payload }
    (tcpHeaderSize + tcpMaxPayload) clientIp serverIp

/-- It arrives, and the host answers it. -/
def httpDeliver (segment : TcpSegment) : List (HttpAction Unit) :=
  [.magi (.arrive () segment clientIp serverIp), .resume true]

/-- The handshake of a client. -/
def httpHandshake (srcPort : UInt16) : List (HttpAction Unit) :=
  httpDeliver (httpClientSegment srcPort 1000 0 tcpFlagSyn []) ++
    httpDeliver (httpClientSegment srcPort 1001 (2001 + srcPort.toUInt32) tcpFlagAck [])

/-- A request of a client after its handshake. -/
def httpRequest (srcPort : UInt16) : List (HttpAction Unit) :=
  httpDeliver (httpClientSegment srcPort 1001 (2001 + srcPort.toUInt32) (tcpFlagAck ||| tcpFlagPsh)
    [71, 69, 84, 32, 47])

/-- The server, two clients with their handshakes behind them, and a request of the second: the
dispatcher reads nothing from the first, closes it, and leaves the request where it is. -/
theorem http_answers_own_connection_iff_idle :
    let w := (HttpWorld.initial fun _ => serverIp).run some
      ([.start, .attach ()] ++ httpHandshake 5000 ++ httpHandshake 5001 ++ httpRequest 5001)
    w.effects =
        [{ operation := .closed, calledFor := (((), 2), 1), doneOn := some (((), 1), 1) },
          { operation := .read [], calledFor := (((), 2), 1), doneOn := some (((), 1), 1) }] ∧
      (w.magi.system.slot ((), 1)).state = .finWait1 ∧
      (w.magi.system.slot ((), 2)).hasData = true ∧ ¬ w.AnswersOwn := by
  decide +kernel

/-- With one client the request is read, answered and the connection closed. -/
example :
    let w := (HttpWorld.initial fun _ => serverIp).run some
      ([.start, .attach ()] ++ httpHandshake 5000 ++ httpRequest 5000 ++ [.resume true, .resume true])
    w.effects.length = 3 ∧ w.frames.length = 0 ∧ w.AnswersOwn := by
  decide +kernel

end MagiStack
