import MagiStack.Layer4.TcpTable

/-!
# MagiSocket — descriptors over the TCP slots of the hosts

Embedding of `layer7/magi_socket.c` as far as it concerns TCP: the global table of sixteen
descriptors, each with a pointer to a slot of some host.  `magi_connect` and `magi_close` hand a
segment to the network in the middle, and the simulator runs everything that follows from it before
they go on; so each is given in two parts, before and after that point.
-/

namespace MagiStack

abbrev magiSocketMaxSockets : Nat := 16
def afInet : Int := 2
def sockStream : Int := 1
def sockDgram : Int := 2

/-- `MagiSocketType`. -/
inductive MagiSocketType
  | unused
  | tcp
  | udp
  deriving DecidableEq, Repr

/-- `MagiSocket`.  A pointer to a TCP slot is the host and the index in its table. -/
structure MagiSocket (H : Type*) where
  inUse : Bool
  sockType : MagiSocketType
  tcpSock : Option (H × Fin tcpMaxSockets)
  localIp : IpAddress
  remoteIp : IpAddress
  localPort : UInt16
  remotePort : UInt16
  isListening : Bool
  host : Option H

/-- The part of `Host` that the TCP calls use. -/
structure TcpHost where
  ipAddress : IpAddress
  tcpSockets : TcpTable
  nextTcpSourcePort : UInt16

/-- The hosts and `g_sockets`. -/
structure MagiSystem (H : Type*) where
  hosts : H → TcpHost
  sockets : Fin magiSocketMaxSockets → MagiSocket H

variable {H : Type*} [DecidableEq H]

/-- A descriptor after `memset(sock, 0, sizeof(MagiSocket))`. -/
def magiSocketZero : MagiSocket H :=
  { inUse := false
    sockType := .unused
    tcpSock := none
    localIp := ipZero
    remoteIp := ipZero
    localPort := 0
    remotePort := 0
    isListening := false
    host := none }

/-! ## Slots and descriptors of a system -/

namespace MagiSystem

/-- `*p` for a pointer to a slot. -/
def slot (s : MagiSystem H) (p : H × Fin tcpMaxSockets) : TcpSocket :=
  (s.hosts p.1).tcpSockets p.2

/-- `*p = socket`. -/
def setSlot (s : MagiSystem H) (p : H × Fin tcpMaxSockets) (socket : TcpSocket) : MagiSystem H :=
  { s with
    hosts := Function.update s.hosts p.1
      { s.hosts p.1 with tcpSockets := Function.update (s.hosts p.1).tcpSockets p.2 socket } }

/-- `g_sockets[d] = sock`. -/
def setSocket (s : MagiSystem H) (d : Fin magiSocketMaxSockets) (sock : MagiSocket H) :
    MagiSystem H :=
  { s with sockets := Function.update s.sockets d sock }

/-- The descriptor `sockfd` names, when it is in range and in use. -/
def lookup (s : MagiSystem H) (sockfd : Int) : Option (Fin magiSocketMaxSockets) :=
  if h : 0 ≤ sockfd ∧ sockfd.toNat < magiSocketMaxSockets then
    if (s.sockets ⟨sockfd.toNat, h.2⟩).inUse then some ⟨sockfd.toNat, h.2⟩ else none
  else
    none

/-- The first free descriptor. -/
def freeSocket (s : MagiSystem H) : Option (Fin magiSocketMaxSockets) :=
  (List.finRange magiSocketMaxSockets).find? fun i => !(s.sockets i).inUse

/-- What `magi_listen` and `magi_connect` check, and the slot `tcp_socket_alloc` then hands out:
the descriptor and a pointer to the slot. -/
def allocTarget (s : MagiSystem H) (sockfd : Int) :
    Option (Fin magiSocketMaxSockets × (H × Fin tcpMaxSockets)) :=
  match s.lookup sockfd with
  | none => none
  | some d =>
      if (s.sockets d).sockType ≠ .tcp then
        none
      else
        match (s.sockets d).host with
        | none => none
        | some host =>
            (tcpAllocSlot (s.hosts host).tcpSockets).map fun slot => (d, (host, slot))

theorem slot_setSlot (s : MagiSystem H) (p q : H × Fin tcpMaxSockets) (socket : TcpSocket) :
    (s.setSlot p socket).slot q = if q = p then socket else s.slot q := by
  rcases p with ⟨host, slot⟩
  rcases q with ⟨host', slot'⟩
  simp only [setSlot, MagiSystem.slot, Prod.mk.injEq]
  by_cases hhost : host' = host
  · subst hhost
    by_cases hslot : slot' = slot
    · simp [hslot]
    · simp [hslot]
  · simp [hhost]

omit [DecidableEq H] in
theorem inUse_of_lookup {s : MagiSystem H} {sockfd : Int} {d : Fin magiSocketMaxSockets}
    (h : s.lookup sockfd = some d) : (s.sockets d).inUse = true := by
  rw [lookup] at h
  split at h
  · split at h
    · rename_i huse
      cases h
      exact huse
    · cases h
  · cases h

omit [DecidableEq H] in
theorem inUse_of_freeSocket {s : MagiSystem H} {d : Fin magiSocketMaxSockets}
    (h : s.freeSocket = some d) : (s.sockets d).inUse = false := by
  have hnot := List.find?_some h
  simpa using hnot

omit [DecidableEq H] in
theorem allocTarget_eq_some {s : MagiSystem H} {sockfd : Int} {d : Fin magiSocketMaxSockets}
    {p : H × Fin tcpMaxSockets} (h : s.allocTarget sockfd = some (d, p)) :
    s.lookup sockfd = some d ∧ (s.sockets d).sockType = .tcp ∧ (s.sockets d).host = some p.1 ∧
      tcpAllocSlot (s.hosts p.1).tcpSockets = some p.2 := by
  rw [allocTarget] at h
  cases hlookup : s.lookup sockfd with
  | none => simp [hlookup] at h
  | some a =>
      simp only [hlookup] at h
      split at h
      · cases h
      · rename_i htype
        cases hhost : (s.sockets a).host with
        | none => simp [hhost] at h
        | some host =>
            simp only [hhost, Option.map_eq_some_iff] at h
            rcases h with ⟨slot, hslot, heq⟩
            cases heq
            exact ⟨rfl, not_not.mp htype, hhost, hslot⟩

end MagiSystem

/-! ## Descriptors -/

/-- `magi_socket`: the new descriptor, if any. -/
def magiSocket (s : MagiSystem H) (domain type : Int) :
    Option (Fin magiSocketMaxSockets) × MagiSystem H :=
  if domain ≠ afInet then
    (none, s)
  else
    match s.freeSocket with
    | none => (none, s)
    | some d =>
        if type = sockStream then
          (some d, s.setSocket d { magiSocketZero with inUse := true, sockType := .tcp })
        else if type = sockDgram then
          (some d, s.setSocket d { magiSocketZero with inUse := true, sockType := .udp })
        else
          (none, s.setSocket d magiSocketZero)

omit [DecidableEq H] in
/-- `magi_socket` leaves the table alone, or sets up a free descriptor without a slot, in use exactly
when it returns it. -/
theorem magiSocket_cases (s : MagiSystem H) (domain type : Int) :
    magiSocket s domain type = (none, s) ∨
      ∃ d sock, s.freeSocket = some d ∧ sock.tcpSock = none ∧
        (magiSocket s domain type = (some d, s.setSocket d sock) ∨
          magiSocket s domain type = (none, s.setSocket d sock) ∧ sock.inUse = false) := by
  rw [magiSocket]
  split
  · exact Or.inl rfl
  · cases hfree : s.freeSocket with
    | none => exact Or.inl rfl
    | some d =>
        refine Or.inr ?_
        simp only
        split
        · exact ⟨d, _, rfl, rfl, Or.inl rfl⟩
        · split
          · exact ⟨d, _, rfl, rfl, Or.inl rfl⟩
          · exact ⟨d, _, rfl, rfl, Or.inr ⟨rfl, rfl⟩⟩

/-- `magi_socket_attach_host`. -/
def magiSocketAttachHost (s : MagiSystem H) (sockfd : Int) (host : Option H) : MagiSystem H :=
  match s.lookup sockfd, host with
  | some d, some host => s.setSocket d { s.sockets d with host := some host }
  | _, _ => s

/-- `magi_bind`. -/
def magiBind (s : MagiSystem H) (sockfd : Int) (ip : IpAddress) (port : UInt16) : MagiSystem H :=
  match s.lookup sockfd with
  | none => s
  | some d => s.setSocket d { s.sockets d with localIp := ip, localPort := port }

/-! ## Opening connections -/

/-- `magi_listen`. -/
def magiListen (s : MagiSystem H) (sockfd : Int) : MagiSystem H :=
  match s.allocTarget sockfd with
  | none => s
  | some (d, p) =>
      let sock := s.sockets d
      (s.setSlot p (tcpSocketListen tcpSocketAllocated sock.localIp sock.localPort)).setSocket d
        { sock with tcpSock := some p, isListening := true }

/-- The child `magi_accept` finds: the first established slot of the descriptor's host whose parent
is the listener. -/
def magiPendingChild (s : MagiSystem H) (sockfd : Int) : Option (H × Fin tcpMaxSockets) :=
  match s.lookup sockfd with
  | none => none
  | some d =>
      match (s.sockets d).isListening, (s.sockets d).tcpSock, (s.sockets d).host with
      | true, some listener, some host =>
          (tcpFirstSlot fun i =>
            (s.slot (host, i)).inUse &&
              (s.slot (host, i)).parent.map (fun slot => (host, slot)) == some listener &&
              (s.slot (host, i)).state == .established).map fun i => (host, i)
      | _, _, _ => none

theorem state_of_magiPendingChild {s : MagiSystem H} {sockfd : Int} {child : H × Fin tcpMaxSockets}
    (h : magiPendingChild s sockfd = some child) : (s.slot child).state = .established := by
  rw [magiPendingChild] at h
  split at h
  · cases h
  · split at h
    · rcases Option.map_eq_some_iff.mp h with ⟨i, hi, rfl⟩
      have hfound := tcpFirstSlot_eq_some hi
      simp only [Bool.and_eq_true, beq_iff_eq] at hfound
      exact hfound.2
    · cases h

/-- `magi_accept`: the new descriptor and the child it refers to.  When no descriptor is free the loop
goes on to later children and fails for each of them, so the first child decides. -/
def magiAccept (s : MagiSystem H) (sockfd : Int) :
    Option (Fin magiSocketMaxSockets × (H × Fin tcpMaxSockets)) × MagiSystem H :=
  match magiPendingChild s sockfd with
  | none => (none, s)
  | some child =>
      match magiSocket s afInet sockStream with
      | (none, _) => (none, s)
      | (some conn, s) =>
          let socket := s.slot child
          (some (conn, child),
            s.setSocket conn
              { s.sockets conn with
                host := some child.1
                tcpSock := some child
                localIp := socket.localIp
                localPort := socket.localPort
                remoteIp := socket.remoteIp
                remotePort := socket.remotePort })

/-- `host_select_tcp_source_port`. -/
def hostSelectTcpSourcePort (host : TcpHost) (remoteIp : IpAddress) (remotePort : UInt16)
    (initialPreferred : UInt16) : UInt16 × TcpHost :=
  let candidate :=
    if host.nextTcpSourcePort ≠ 0 then host.nextTcpSourcePort else initialPreferred
  let port := tcpSocketSelectSourcePort host.tcpSockets remoteIp remotePort candidate
  if port = 0 then
    (port, host)
  else
    (port, { host with nextTcpSourcePort := if port = 65535 then 1024 else port + 1 })

/-- `magi_connect` up to the SYN: the descriptor that now waits, if it got that far. -/
def magiConnectBegin (s : MagiSystem H) (sockfd : Int) (ip : IpAddress) (port : UInt16) :
    Option (Fin magiSocketMaxSockets) × MagiSystem H :=
  match s.allocTarget sockfd with
  | none => (none, s)
  | some (d, p) =>
      let sock := { s.sockets d with tcpSock := some p, remoteIp := ip, remotePort := port }
      let allocated := s.setSlot p tcpSocketAllocated
      let preferredPort := if 63535 < port then 49152 else port + 2000
      let (srcPort, host) :=
        hostSelectTcpSourcePort (allocated.hosts p.1) ip port preferredPort
      if srcPort = 0 then
        (none, (s.setSlot p tcpSocketFree).setSocket d { sock with tcpSock := none })
      else
        let selected : MagiSystem H :=
          { allocated with hosts := Function.update allocated.hosts p.1 host }
        (some d,
          (selected.setSlot p
            (tcpSocketConnect tcpSocketAllocated host.ipAddress srcPort ip port)).setSocket d sock)

theorem hostSelectTcpSourcePort_tcpSockets (host : TcpHost) (remoteIp : IpAddress)
    (remotePort initialPreferred : UInt16) :
    (hostSelectTcpSourcePort host remoteIp remotePort initialPreferred).2.tcpSockets =
      host.tcpSockets := by
  simp only [hostSelectTcpSourcePort]
  split
  all_goals split
  all_goals rfl

/-- `magi_connect` with a slot to take gives it back when no port is left, and else waits; either way
it touches no other slot. -/
theorem magiConnectBegin_cases {s : MagiSystem H} {sockfd : Int} (ip : IpAddress) (port : UInt16)
    {d : Fin magiSocketMaxSockets} {p : H × Fin tcpMaxSockets}
    (h : s.allocTarget sockfd = some (d, p)) :
    ∃ hosts : H → TcpHost, (∀ q, q ≠ p → (hosts q.1).tcpSockets q.2 = s.slot q) ∧
      (magiConnectBegin s sockfd ip port =
          (none, { s with hosts := hosts }.setSocket d
            { s.sockets d with tcpSock := none, remoteIp := ip, remotePort := port }) ∨
        magiConnectBegin s sockfd ip port =
          (some d, { s with hosts := hosts }.setSocket d
            { s.sockets d with tcpSock := some p, remoteIp := ip, remotePort := port })) := by
  simp only [magiConnectBegin, h]
  have hsockets := hostSelectTcpSourcePort_tcpSockets ((s.setSlot p tcpSocketAllocated).hosts p.1)
    ip port (if 63535 < port then 49152 else port + 2000)
  generalize hostSelectTcpSourcePort ((s.setSlot p tcpSocketAllocated).hosts p.1) ip port
    (if 63535 < port then 49152 else port + 2000) = selected at hsockets ⊢
  rcases selected with ⟨srcPort, host⟩
  split
  · refine ⟨(s.setSlot p tcpSocketFree).hosts, fun q hq => ?_, Or.inl rfl⟩
    exact (MagiSystem.slot_setSlot s p q _).trans (if_neg hq)
  · refine ⟨_, fun q hq => ?_, Or.inr rfl⟩
    refine (MagiSystem.slot_setSlot _ p q _).trans ((if_neg hq).trans ?_)
    have hallocated := (MagiSystem.slot_setSlot s p q tcpSocketAllocated).trans (if_neg hq)
    by_cases hhost : q.1 = p.1
    · simp only [MagiSystem.slot, hhost, Function.update_self] at hallocated ⊢
      rw [hsockets]
      exact hallocated
    · simp only [MagiSystem.slot, Function.update_of_ne hhost] at hallocated ⊢
      exact hallocated

/-- `magi_connect` after the SYN: a connection that is not established is given up. -/
def magiConnectEnd (s : MagiSystem H) (d : Fin magiSocketMaxSockets) : MagiSystem H :=
  match (s.sockets d).tcpSock with
  | none => s
  | some p =>
      if (s.slot p).state ≠ .established then
        (s.setSlot p tcpSocketFree).setSocket d { s.sockets d with tcpSock := none }
      else
        s

/-! ## Data and closing -/

/-- `magi_send` on a TCP descriptor. -/
def magiSend (s : MagiSystem H) (sockfd : Int) (data : List UInt8) : MagiSystem H :=
  match s.lookup sockfd with
  | none => s
  | some d =>
      match (s.sockets d).sockType, (s.sockets d).tcpSock, (s.sockets d).host with
      | .tcp, some p, some _ =>
          match magiSendTcp (s.slot p) data with
          | none => s
          | some (socket, _) => s.setSlot p socket
      | _, _, _ => s

/-- `magi_recv` on a TCP descriptor: the bytes copied out, and the system after it. -/
def magiRecv (s : MagiSystem H) (sockfd : Int) (bufsize : Nat) : List UInt8 × MagiSystem H :=
  match s.lookup sockfd with
  | none => ([], s)
  | some d =>
      match (s.sockets d).sockType, (s.sockets d).tcpSock with
      | .tcp, some p =>
          let out := tcpSocketRecv (s.slot p) bufsize
          (out.1, s.setSlot p out.2)
      | _, _ => ([], s)

/-- `magi_close` up to the FIN: the descriptor that now waits, if a FIN is sent. -/
def magiCloseBegin (s : MagiSystem H) (sockfd : Int) :
    Option (Fin magiSocketMaxSockets) × MagiSystem H :=
  match s.lookup sockfd with
  | none => (none, s)
  | some d =>
      match (s.sockets d).sockType, (s.sockets d).tcpSock, (s.sockets d).host with
      | .tcp, some p, some _ =>
          let closed := magiCloseTcp (s.slot p)
          match closed.2 with
          | some _ => (some d, s.setSlot p closed.1)
          | none => (none, (s.setSlot p closed.1).setSocket d magiSocketZero)
      | _, _, _ => (none, s.setSocket d magiSocketZero)

/-- `magi_close` after the FIN: the descriptor is cleared unless the host could not send. -/
def magiCloseEnd (s : MagiSystem H) (d : Fin magiSocketMaxSockets) (sent : Bool) :
    MagiSystem H :=
  if sent then s.setSocket d magiSocketZero else s

/-- `host_receive` on a TCP segment at one host. -/
def magiArrive (s : MagiSystem H) (host : H) (segment : TcpSegment) (srcIp dstIp : IpAddress) :
    MagiSystem H :=
  { s with
    hosts := Function.update s.hosts host
      { s.hosts host with
        tcpSockets :=
          (hostReceiveTcp (s.hosts host).tcpSockets (s.hosts host).ipAddress segment srcIp
            dstIp).1 } }

end MagiStack
