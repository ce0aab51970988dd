import MagiStack.Layer7.PortCursor

/-!
# TimeWaitTuples — whether a new connection takes over a tuple in TIME_WAIT

Embedding of what `magi_connect` and the `tcp_connect` command do at a host: `tcp_socket_alloc`, then
`host_select_tcp_source_port`, then `tcp_socket_connect`.  The search for a port looks at the sockets as
`tcp_socket_alloc` has left them.  A connection in TIME_WAIT whose slot was taken is no longer among them,
and the search may come upon its port.
-/

namespace MagiStack

/-! ## Opening a connection at a host -/

/-- `tcp_socket_alloc`, `host_select_tcp_source_port` and `tcp_socket_connect`: the slot of the new
connection, if there is one, and the host. -/
def hostOpenConnection (host : TcpHost) (remoteIp : IpAddress) (remotePort preferredPort : UInt16) :
    Option (Fin tcpMaxSockets) × TcpHost :=
  match tcpSocketAlloc host.tcpSockets with
  | none => (none, host)
  | some (slot, sockets) =>
      let (srcPort, selected) :=
        hostSelectTcpSourcePort { host with tcpSockets := sockets } remoteIp remotePort preferredPort
      if srcPort = 0 then
        (none, { selected with tcpSockets := Function.update selected.tcpSockets slot tcpSocketFree })
      else
        (some slot,
          { selected with
            tcpSockets := Function.update selected.tcpSockets slot
              (tcpSocketConnect (selected.tcpSockets slot) selected.ipAddress srcPort remoteIp remotePort) })

/-- The branch `tcp_connect` of the command line, up to the SYN. -/
def processTcpConnect (host : TcpHost) (targetIp : IpAddress) (dstPort : Int) :
    Option (Fin tcpMaxSockets) × TcpHost :=
  if dstPort ≤ 0 ∨ 65535 < dstPort then
    (none, host)
  else
    hostOpenConnection host targetIp (UInt16.ofNat dstPort.toNat)
      (if 65535 < dstPort.toNat + 1000 then 49152 else UInt16.ofNat (dstPort.toNat + 1000))

/-- The preferred port of `magi_connect`. -/
def magiPreferredPort (port : UInt16) : UInt16 :=
  if 63535 < port then 49152 else port + 2000

/-- `magi_connect` opens a connection at the host of its descriptor. -/
theorem magiConnectBegin_eq {H : Type*} [DecidableEq H] {s : MagiSystem H} {sockfd : Int} (ip : IpAddress)
    (port : UInt16) {d : Fin magiSocketMaxSockets} {p : H × Fin tcpMaxSockets}
    (h : s.allocTarget sockfd = some (d, p)) :
    (magiConnectBegin s sockfd ip port).1 =
        (hostOpenConnection (s.hosts p.1) ip port (magiPreferredPort port)).1.map (fun _ => d) ∧
      ((magiConnectBegin s sockfd ip port).1 = some d →
        (hostOpenConnection (s.hosts p.1) ip port (magiPreferredPort port)).1 = some p.2 ∧
        ((magiConnectBegin s sockfd ip port).2.sockets d).tcpSock = some p ∧
        (magiConnectBegin s sockfd ip port).2.slot p =
          (hostOpenConnection (s.hosts p.1) ip port (magiPreferredPort port)).2.tcpSockets p.2) := by
  obtain ⟨-, -, -, halloc⟩ := MagiSystem.allocTarget_eq_some h
  -- Both hand out the slot first and select the port on the table after it.
  have hallocated : (s.setSlot p tcpSocketAllocated).hosts p.1 =
      { s.hosts p.1 with
        tcpSockets := Function.update (s.hosts p.1).tcpSockets p.2 tcpSocketAllocated } :=
    Function.update_self _ _ _
  have hsockets := hostSelectTcpSourcePort_tcpSockets
    { s.hosts p.1 with tcpSockets := Function.update (s.hosts p.1).tcpSockets p.2 tcpSocketAllocated }
    ip port (magiPreferredPort port)
  simp only [magiConnectBegin, h, hallocated, hostOpenConnection, tcpSocketAlloc, halloc, Option.map_some]
  rw [← magiPreferredPort]
  generalize hostSelectTcpSourcePort _ ip port (magiPreferredPort port) = selected at hsockets ⊢
  by_cases hzero : selected.1 = 0
  · simp [hzero]
  · simp only [if_neg hzero, Option.map_some, true_and]
    intro _
    refine ⟨?_, ?_⟩
    · simp [MagiSystem.setSocket]
    · have hslot : selected.2.tcpSockets p.2 = tcpSocketAllocated := by
        rw [hsockets]
        exact Function.update_self _ _ _
      rw [hslot]
      simp [MagiSystem.slot, MagiSystem.setSocket, MagiSystem.setSlot]

/-! ## The port of the new connection -/

/-- The socket is open and has the port towards the remote end. -/
def TcpUses (socket : TcpSocket) (remoteIp : IpAddress) (remotePort port : UInt16) : Prop :=
  socket.inUse = true ∧ socket.state ≠ .closed ∧ socket.localPort = port ∧
    socket.remotePort = remotePort ∧ socket.remoteIp.octets = remoteIp.octets

/-- The port that is selected once `slot` is handed out. -/
def hostPortAfterAlloc (host : TcpHost) (slot : Fin tcpMaxSockets) (remoteIp : IpAddress)
    (remotePort preferredPort : UInt16) : UInt16 :=
  (hostSelectTcpSourcePort
    { host with tcpSockets := Function.update host.tcpSockets slot tcpSocketAllocated } remoteIp remotePort
    preferredPort).1

section Connection

variable {host : TcpHost} {slot : Fin tcpMaxSockets} {remoteIp : IpAddress}
  {remotePort preferredPort : UInt16}

/-- The slot that is handed out uses no port. -/
theorem tcpPortUsed_allocated_iff (port : UInt16) :
    tcpPortUsed (List.ofFn (Function.update host.tcpSockets slot tcpSocketAllocated)) remoteIp remotePort
        port =
        true ↔
      ∃ i, i ≠ slot ∧ TcpUses (host.tcpSockets i) remoteIp remotePort port := by
  rw [tcpPortUsed_iff]
  constructor
  · rintro ⟨socket, hmem, huses⟩
    obtain ⟨i, rfl⟩ := List.mem_ofFn.mp hmem
    by_cases hi : i = slot
    -- a slot that was just handed out is closed
    · subst hi
      rw [Function.update_self] at huses
      exact absurd rfl huses.2.1
    · rw [Function.update_of_ne hi] at huses
      exact ⟨i, hi, huses⟩
  · rintro ⟨i, hi, huses⟩
    refine ⟨_, List.mem_ofFn.mpr ⟨i, rfl⟩, ?_⟩
    rw [Function.update_of_ne hi]
    exact huses

/-- The port is the nearest one that no other slot uses. -/
theorem hostPortAfterAlloc_eq_iff {port : UInt16} (hne : port ≠ 0) :
    hostPortAfterAlloc host slot remoteIp remotePort preferredPort = port ↔
      1024 ≤ port ∧ (∀ i, i ≠ slot → ¬ TcpUses (host.tcpSockets i) remoteIp remotePort port) ∧
        ∀ q, 1024 ≤ q →
          portDistance (hostFirstCandidate host preferredPort) q <
            portDistance (hostFirstCandidate host preferredPort) port →
          ∃ i, i ≠ slot ∧ TcpUses (host.tcpSockets i) remoteIp remotePort q := by
  rw [hostPortAfterAlloc, hostSelectTcpSourcePort_eq, tcpSocketSelectSourcePortAmong_eq_iff _ _ _ _ hne,
    Bool.eq_false_iff, ne_eq, tcpPortUsed_allocated_iff]
  refine and_congr_right fun _ => and_congr (by simp) ?_
  exact forall₃_congr fun q _ _ => tcpPortUsed_allocated_iff q

/-- Without a slot or a port there is no connection; otherwise it has the port and the remote end. -/
theorem hostOpenConnection_eq_some_iff :
    (hostOpenConnection host remoteIp remotePort preferredPort).1 = some slot ↔
      tcpAllocSlot host.tcpSockets = some slot ∧
        hostPortAfterAlloc host slot remoteIp remotePort preferredPort ≠ 0 := by
  rw [hostOpenConnection, tcpSocketAlloc]
  cases halloc : tcpAllocSlot host.tcpSockets with
  | none => simp
  | some picked =>
      simp only [Option.map_some, Option.some.injEq]
      rw [apply_ite Prod.fst]
      by_cases hpicked : picked = slot
      · subst hpicked
        rw [← hostPortAfterAlloc]
        by_cases hzero : hostPortAfterAlloc host picked remoteIp remotePort preferredPort = 0
        · simp [hzero]
        · simp [hzero]
      · simp [hpicked]

theorem hostOpenConnection_socket
    (h : (hostOpenConnection host remoteIp remotePort preferredPort).1 = some slot) :
    ((hostOpenConnection host remoteIp remotePort preferredPort).2.tcpSockets slot).localPort =
        hostPortAfterAlloc host slot remoteIp remotePort preferredPort ∧
      ((hostOpenConnection host remoteIp remotePort preferredPort).2.tcpSockets slot).remoteIp = remoteIp ∧
      ((hostOpenConnection host remoteIp remotePort preferredPort).2.tcpSockets slot).remotePort =
        remotePort := by
  obtain ⟨halloc, hport⟩ := hostOpenConnection_eq_some_iff.mp h
  rw [hostPortAfterAlloc] at hport
  rw [hostOpenConnection, tcpSocketAlloc, halloc]
  simp only [Option.map_some, if_neg hport, Function.update_self]
  exact ⟨rfl, rfl, rfl⟩

end Connection

/-! ## Tuples in TIME_WAIT -/

/-- The same local port, remote address and remote port. -/
def SharesTuple (old new : TcpSocket) : Prop :=
  old.localPort = new.localPort ∧ old.remoteIp.octets = new.remoteIp.octets ∧ old.remotePort = new.remotePort

/-- The new connection has the tuple of none that was in TIME_WAIT. -/
def AvoidsTimeWait (before : TcpTable) (new : TcpSocket) : Prop :=
  ∀ i, (before i).inUse = true → (before i).state = .timeWait → ¬ SharesTuple (before i) new

/-- All slots are in use, the first connection in TIME_WAIT goes to the same remote end, and its port is the
nearest one from the start of the search on that no other socket uses. -/
structure RecyclesTuple (host : TcpHost) (remoteIp : IpAddress) (remotePort preferredPort : UInt16)
    (slot : Fin tcpMaxSockets) : Prop where
  full : ∀ i, (host.tcpSockets i).inUse = true
  timeWait : (host.tcpSockets slot).isListening = false ∧ (host.tcpSockets slot).state = .timeWait
  first : ∀ i < slot, ¬ ((host.tcpSockets i).isListening = false ∧ (host.tcpSockets i).state = .timeWait)
  remote : (host.tcpSockets slot).remoteIp.octets = remoteIp.octets ∧
    (host.tcpSockets slot).remotePort = remotePort
  ephemeral : 1024 ≤ (host.tcpSockets slot).localPort
  alone : ∀ i, i ≠ slot →
    ¬ TcpUses (host.tcpSockets i) remoteIp remotePort (host.tcpSockets slot).localPort
  nearest : ∀ q, 1024 ≤ q →
    portDistance (hostFirstCandidate host preferredPort) q <
      portDistance (hostFirstCandidate host preferredPort) (host.tcpSockets slot).localPort →
    ∃ i, i ≠ slot ∧ TcpUses (host.tcpSockets i) remoteIp remotePort q

/-- A new connection avoids the tuples in TIME_WAIT unless it takes over slot and tuple of one. -/
theorem hostOpenConnection_avoids_iff (host : TcpHost) (remoteIp : IpAddress)
    (remotePort preferredPort : UInt16) :
    (∀ slot, (hostOpenConnection host remoteIp remotePort preferredPort).1 = some slot →
        AvoidsTimeWait host.tcpSockets
          ((hostOpenConnection host remoteIp remotePort preferredPort).2.tcpSockets slot)) ↔
      ¬ ∃ slot, RecyclesTuple host remoteIp remotePort preferredPort slot := by
  constructor
  -- the connection takes over this slot, and the search stops at its old port
  · rintro havoids ⟨slot, h⟩
    have hne : (host.tcpSockets slot).localPort ≠ 0 := fun hzero => by
      have hle := h.ephemeral
      rw [hzero] at hle
      exact absurd hle (by decide)
    have hport : hostPortAfterAlloc host slot remoteIp remotePort preferredPort =
        (host.tcpSockets slot).localPort :=
      (hostPortAfterAlloc_eq_iff hne).mpr ⟨h.ephemeral, h.alone, h.nearest⟩
    have hopened : (hostOpenConnection host remoteIp remotePort preferredPort).1 = some slot :=
      hostOpenConnection_eq_some_iff.mpr
        ⟨tcpAllocSlot_eq_some_iff.mpr (.inr ⟨h.full, h.timeWait, h.first⟩), hport ▸ hne⟩
    obtain ⟨hlocal, hip, hremote⟩ := hostOpenConnection_socket hopened
    refine havoids slot hopened slot (h.full slot) h.timeWait.2 ⟨?_, ?_, ?_⟩
    · rw [hlocal, hport]
    · rw [hip, h.remote.1]
    · rw [hremote, h.remote.2]
  · rintro hnot slot hopened i huse hwait ⟨hlocal, hip, hremote⟩
    obtain ⟨halloc, hne⟩ := hostOpenConnection_eq_some_iff.mp hopened
    obtain ⟨hlocal', hip', hremote'⟩ := hostOpenConnection_socket hopened
    obtain ⟨hle, halone, hnearest⟩ := (hostPortAfterAlloc_eq_iff hne).mp rfl
    rw [hlocal'] at hlocal
    rw [hip'] at hip
    rw [hremote'] at hremote
    -- the search has seen every socket but the one whose slot was handed out
    by_cases hi : i = slot
    · subst hi
      rcases tcpAllocSlot_eq_some_iff.mp halloc with ⟨hfree, -⟩ | ⟨hfull, htimeWait, hfirst⟩
      -- a free slot has nothing in TIME_WAIT
      · rw [huse] at hfree
        cases hfree
      · refine hnot ⟨i, hfull, htimeWait, hfirst, ⟨hip, hremote⟩, ?_, ?_, ?_⟩
        · rw [hlocal]
          exact hle
        · rw [hlocal]
          exact halone
        · rw [hlocal]
          exact hnearest
    · exact halone i hi ⟨huse, by simp [hwait], hlocal, hremote, hip⟩

/-! ## The two callers -/

/-- The preferred port of `tcp_connect`. -/
def processPreferredPort (dstPort : Int) : UInt16 :=
  if 65535 < dstPort.toNat + 1000 then 49152 else UInt16.ofNat (dstPort.toNat + 1000)

theorem processTcpConnect_avoids_iff (host : TcpHost) (targetIp : IpAddress) (dstPort : Int) :
    (∀ slot, (processTcpConnect host targetIp dstPort).1 = some slot →
        AvoidsTimeWait host.tcpSockets ((processTcpConnect host targetIp dstPort).2.tcpSockets slot)) ↔
      (0 < dstPort ∧ dstPort ≤ 65535 →
        ¬ ∃ slot, RecyclesTuple host targetIp (UInt16.ofNat dstPort.toNat) (processPreferredPort dstPort)
          slot) := by
  rw [processTcpConnect]
  split
  · exact iff_of_true (fun slot h => nomatch h) fun h => by omega
  · rw [forall_prop_of_true (show 0 < dstPort ∧ dstPort ≤ 65535 by omega), ← processPreferredPort]
    exact hostOpenConnection_avoids_iff host targetIp _ _

section Magi

variable {H : Type*} [DecidableEq H]

theorem magiConnectBegin_avoids_iff (s : MagiSystem H) (sockfd : Int) (ip : IpAddress) (port : UInt16) :
    (∀ d p, (magiConnectBegin s sockfd ip port).1 = some d →
        ((magiConnectBegin s sockfd ip port).2.sockets d).tcpSock = some p →
        AvoidsTimeWait (s.hosts p.1).tcpSockets ((magiConnectBegin s sockfd ip port).2.slot p)) ↔
      ∀ d host, s.lookup sockfd = some d → (s.sockets d).sockType = .tcp →
        (s.sockets d).host = some host →
        ¬ ∃ slot, RecyclesTuple (s.hosts host) ip port (magiPreferredPort port) slot := by
  cases htarget : s.allocTarget sockfd with
  | none =>
      have hnone : (magiConnectBegin s sockfd ip port).1 = none := by
        rw [magiConnectBegin, htarget]
      -- a full table with a connection in TIME_WAIT would have given a slot
      refine iff_of_true (fun d p h => by rw [hnone] at h; cases h) ?_
      rintro d host hlookup htype hhost ⟨slot, h⟩
      have halloc : tcpAllocSlot (s.hosts host).tcpSockets = some slot :=
        tcpAllocSlot_eq_some_iff.mpr (.inr ⟨h.full, h.timeWait, h.first⟩)
      simp [MagiSystem.allocTarget, hlookup, htype, hhost, halloc] at htarget
  | some target =>
      obtain ⟨d, p⟩ := target
      obtain ⟨hlookup, htype, hhost, halloc⟩ := MagiSystem.allocTarget_eq_some htarget
      obtain ⟨hfirst, hopened⟩ := magiConnectBegin_eq ip port htarget
      have havoids := hostOpenConnection_avoids_iff (s.hosts p.1) ip port (magiPreferredPort port)
      have honly : (∀ d host, s.lookup sockfd = some d → (s.sockets d).sockType = .tcp →
          (s.sockets d).host = some host →
          ¬ ∃ slot, RecyclesTuple (s.hosts host) ip port (magiPreferredPort port) slot) ↔
          ¬ ∃ slot, RecyclesTuple (s.hosts p.1) ip port (magiPreferredPort port) slot := by
        refine ⟨fun hall => hall d p.1 hlookup htype hhost, fun hnot d' host hlookup' _ hhost' => ?_⟩
        obtain rfl : d = d' := Option.some.inj (hlookup.symm.trans hlookup')
        obtain rfl : p.1 = host := Option.some.inj (hhost.symm.trans hhost')
        exact hnot
      rw [honly, ← havoids]
      constructor
      · intro hall slot hslot
        have hbegin : (magiConnectBegin s sockfd ip port).1 = some d := by
          rw [hfirst, hslot]
          rfl
        obtain ⟨hp, hsock, hsame⟩ := hopened hbegin
        obtain rfl : p.2 = slot := Option.some.inj (hp.symm.trans hslot)
        rw [← hsame]
        exact hall d p hbegin hsock
      · intro hall d' p' hbegin hsock
        have hd : d = d' := by
          rw [hfirst] at hbegin
          obtain ⟨-, -, heq⟩ := Option.map_eq_some_iff.mp hbegin
          exact heq
        subst hd
        obtain ⟨hp, hsock', hsame⟩ := hopened hbegin
        obtain rfl : p = p' := Option.some.inj (hsock'.symm.trans hsock)
        rw [hsame]
        exact hall p.2 hp

/-- The connection that `tcp_connect` or `magi_connect` makes has the tuple of one in TIME_WAIT just when it
takes over both the slot and the tuple. -/
theorem connect_avoids_timeWait_iff :
    (∀ (host : TcpHost) (targetIp : IpAddress) (dstPort : Int),
      (∀ slot, (processTcpConnect host targetIp dstPort).1 = some slot →
          AvoidsTimeWait host.tcpSockets ((processTcpConnect host targetIp dstPort).2.tcpSockets slot)) ↔
        (0 < dstPort ∧ dstPort ≤ 65535 →
          ¬ ∃ slot, RecyclesTuple host targetIp (UInt16.ofNat dstPort.toNat) (processPreferredPort dstPort)
            slot)) ∧
      ∀ (s : MagiSystem H) (sockfd : Int) (ip : IpAddress) (port : UInt16),
        (∀ d p, (magiConnectBegin s sockfd ip port).1 = some d →
            ((magiConnectBegin s sockfd ip port).2.sockets d).tcpSock = some p →
            AvoidsTimeWait (s.hosts p.1).tcpSockets ((magiConnectBegin s sockfd ip port).2.slot p)) ↔
          ∀ d host, s.lookup sockfd = some d → (s.sockets d).sockType = .tcp →
            (s.sockets d).host = some host →
            ¬ ∃ slot, RecyclesTuple (s.hosts host) ip port (magiPreferredPort port) slot :=
  ⟨processTcpConnect_avoids_iff, magiConnectBegin_avoids_iff⟩

end Magi

/-- A host whose sixteen slots are in use: the first connection, from port 5000, is in TIME_WAIT, and the
cursor has come round to 5000. -/
def fullHost : TcpHost :=
  { ipAddress := ⟨10, 0, 0, 1, 24⟩
    tcpSockets := fun i =>
      { tcpSocketAllocated with
        state := if i = 0 then .timeWait else .established
        localIp := ⟨10, 0, 0, 1, 24⟩
        localPort := 5000 + UInt16.ofNat i.val
        remoteIp := ⟨10, 0, 0, 2, 24⟩
        remotePort := 80 }
    nextTcpSourcePort := 5000 }

theorem fullHost_recycles : RecyclesTuple fullHost ⟨10, 0, 0, 2, 24⟩ 80 1080 0 where
  full _ := rfl
  timeWait := ⟨rfl, rfl⟩
  first i hi := absurd hi (Fin.not_lt_zero i)
  remote := ⟨rfl, rfl⟩
  ephemeral := by decide
  alone i hi huses := by
    obtain ⟨-, -, hport, -⟩ := huses
    revert hi hport
    revert i
    decide
  nearest q _ hnear := by
    have hzero : portDistance (hostFirstCandidate fullHost 1080) (fullHost.tcpSockets 0).localPort = 0 := by
      decide
    rw [hzero] at hnear
    exact absurd hnear (Nat.not_lt_zero _)

/-- The new connection to port 80 of the same host has the tuple of the one in TIME_WAIT. -/
theorem connect_reuses_timeWait :
    ¬ ∀ (host : TcpHost) (targetIp : IpAddress) (dstPort : Int) (slot : Fin tcpMaxSockets),
        (processTcpConnect host targetIp dstPort).1 = some slot →
        AvoidsTimeWait host.tcpSockets ((processTcpConnect host targetIp dstPort).2.tcpSockets slot) := by
  intro hall
  have havoids := (processTcpConnect_avoids_iff fullHost ⟨10, 0, 0, 2, 24⟩ 80).mp (hall fullHost _ 80)
  exact havoids (by decide) ⟨0, fullHost_recycles⟩

end MagiStack
