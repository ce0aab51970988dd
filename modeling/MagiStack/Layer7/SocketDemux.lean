import MagiStack.Layer4.TcpDemux
import MagiStack.Layer7.Ownership

/-!
# SocketDemux — demultiplexing over whole runs

Descriptor calls and arriving segments, interleaved in any way, keep the tuples of every host apart:
`magi_connect` picks a port that makes a new tuple, `host_receive` makes a child only for a tuple that no
socket has, and every other call leaves a socket its tuple or takes it away.
-/

namespace MagiStack

variable {H : Type*} [DecidableEq H]

namespace MagiSystem

/-- Every host demultiplexes. -/
def Demux (s : MagiSystem H) : Prop :=
  ∀ host, TcpDemux (s.hosts host).tcpSockets

omit [DecidableEq H] in
/-- Descriptors do not matter. -/
theorem Demux.of_hosts {s s' : MagiSystem H} (h : s.Demux) (hhosts : s'.hosts = s.hosts) :
    s'.Demux := by
  intro host
  rw [hhosts]
  exact h host

/-- A new table at one host. -/
theorem Demux.update {s : MagiSystem H} (h : s.Demux) (host : H) {new : TcpHost}
    (hnew : TcpDemux new.tcpSockets) {s' : MagiSystem H}
    (hhosts : s'.hosts = Function.update s.hosts host new) : s'.Demux := by
  intro other
  rw [hhosts]
  by_cases hother : other = host
  · rw [hother, Function.update_self]
    exact hnew
  · rw [Function.update_of_ne hother]
    exact h other

/-- A call at one slot. -/
theorem Demux.setSlot {s : MagiSystem H} (h : s.Demux) {p : H × Fin tcpMaxSockets}
    {socket : TcpSocket} (hsettles : TcpSettles (s.slot p) socket) : (s.setSlot p socket).Demux :=
  h.update p.1 ((h p.1).settle hsettles) rfl

theorem Demux.listen {s : MagiSystem H} (h : s.Demux) (sockfd : Int) : (magiListen s sockfd).Demux := by
  rw [magiListen]
  split
  · exact h
  · rename_i d p htarget
    exact h.update p.1 ((h p.1).listen p.2 (s.sockets d).localIp (s.sockets d).localPort) rfl

end MagiSystem

/-- The port a host selects is in no tuple with the remote end. -/
theorem hostSelectTcpSourcePort_fresh {host : TcpHost} {remoteIp : IpAddress}
    {remotePort initialPreferred : UInt16}
    (hne : (hostSelectTcpSourcePort host remoteIp remotePort initialPreferred).1 ≠ 0)
    {i : Fin tcpMaxSockets} {tuple : TcpTuple} (hi : (host.tcpSockets i).tuple = some tuple) :
    ¬ (tuple.localPort = (hostSelectTcpSourcePort host remoteIp remotePort initialPreferred).1 ∧
      tuple.remotePort = remotePort ∧ tuple.remoteIp = remoteIp.octets) := by
  have hport : tcpSocketSelectSourcePort host.tcpSockets remoteIp remotePort
        (if host.nextTcpSourcePort ≠ 0 then host.nextTcpSourcePort else initialPreferred) =
      (hostSelectTcpSourcePort host remoteIp remotePort initialPreferred).1 := by
    simp only [hostSelectTcpSourcePort]
    split
    all_goals
      split
      all_goals rfl
  exact tcpSocketSelectSourcePort_fresh hport hne hi

namespace MagiSystem

/-- The sockets of a host after `magi_connect` has taken slot `p` and port `srcPort`. -/
theorem connected_demux {sockets : TcpTable} (h : TcpDemux sockets) {p : Fin tcpMaxSockets}
    {localIp ip : IpAddress} {srcPort port : UInt16}
    (hfresh : ∀ i tuple, (sockets i).tuple = some tuple →
      ¬ (tuple.localPort = srcPort ∧ tuple.remotePort = port ∧ tuple.remoteIp = ip.octets)) :
    TcpDemux (Function.update sockets p
      (tcpSocketConnect tcpSocketAllocated localIp srcPort ip port)) := by
  refine h.connect rfl fun tuple htuple j _ hj => ?_
  cases htuple
  exact hfresh j _ hj ⟨rfl, rfl, rfl⟩

theorem Demux.connect {s : MagiSystem H} (h : s.Demux) (sockfd : Int) (ip : IpAddress)
    (port : UInt16) : (magiConnectBegin s sockfd ip port).2.Demux := by
  rw [magiConnectBegin]
  split
  · exact h
  · rename_i d p htarget
    have hallocated : (s.setSlot p tcpSocketAllocated).Demux :=
      h.update p.1 ((h p.1).alloc p.2) rfl
    generalize s.setSlot p tcpSocketAllocated = allocated at hallocated ⊢
    -- The port is chosen so that no socket has the new tuple.
    have hfresh := @hostSelectTcpSourcePort_fresh (allocated.hosts p.1) ip port
      (if 63535 < port then 49152 else port + 2000)
    have hsockets := hostSelectTcpSourcePort_tcpSockets (allocated.hosts p.1) ip port
      (if 63535 < port then 49152 else port + 2000)
    simp only
    generalize hostSelectTcpSourcePort (allocated.hosts p.1) ip port
      (if 63535 < port then 49152 else port + 2000) = selected at hfresh hsockets ⊢
    rcases selected with ⟨srcPort, host⟩
    split
    · exact (h.setSlot (tcpSettles_free (s.slot p))).of_hosts rfl
    · rename_i hne
      have hhost : TcpDemux host.tcpSockets := by
        rw [hsockets]
        exact hallocated p.1
      have hconnected : TcpDemux (Function.update host.tcpSockets p.2
          (tcpSocketConnect tcpSocketAllocated host.ipAddress srcPort ip port)) := by
        refine connected_demux hhost fun i tuple hi => ?_
        rw [hsockets] at hi
        exact hfresh hne hi
      have hnew : TcpDemux ({ host with
          tcpSockets := Function.update host.tcpSockets p.2
            (tcpSocketConnect tcpSocketAllocated host.ipAddress srcPort ip port) } :
          TcpHost).tcpSockets := hconnected
      refine hallocated.update p.1 hnew ?_
      simp only [MagiSystem.setSlot, MagiSystem.setSocket, Function.update_self,
        Function.update_idem]

theorem Demux.connectEnd {s : MagiSystem H} (h : s.Demux) (d : Fin magiSocketMaxSockets) :
    (magiConnectEnd s d).Demux := by
  rw [magiConnectEnd]
  split
  · exact h
  · rename_i p _
    split
    · exact (h.setSlot (tcpSettles_free (s.slot p))).of_hosts rfl
    · exact h

theorem Demux.send {s : MagiSystem H} (h : s.Demux) (sockfd : Int) (data : List UInt8) :
    (magiSend s sockfd data).Demux := by
  rw [magiSend]
  split
  · exact h
  · split
    · split
      · exact h
      · rename_i hsend
        exact h.setSlot (magiSendTcp_settles hsend)
    · exact h

theorem Demux.recv {s : MagiSystem H} (h : s.Demux) (sockfd : Int) (bufsize : Nat) :
    (magiRecv s sockfd bufsize).2.Demux := by
  rw [magiRecv]
  split
  · exact h
  · split
    · exact h.setSlot (tcpSocketRecv_settles _ bufsize)
    · exact h

theorem Demux.close {s : MagiSystem H} (h : s.Demux) (sockfd : Int) :
    (magiCloseBegin s sockfd).2.Demux := by
  rw [magiCloseBegin]
  split
  · exact h
  · split
    · rename_i p _ _ _ _
      have hclosed := h.setSlot (p := p) (magiCloseTcp_settles ((h p.1).listening p.2))
      simp only
      split
      · exact hclosed
      · exact hclosed.of_hosts rfl
    · exact h.of_hosts rfl

theorem Demux.arrive {s : MagiSystem H} (h : s.Demux) (host : H) (segment : TcpSegment)
    (srcIp dstIp : IpAddress) : (magiArrive s host segment srcIp dstIp).Demux :=
  h.update host ((h host).receive (s.hosts host).ipAddress segment srcIp dstIp) rfl

end MagiSystem

omit [DecidableEq H] in
theorem magiSocket_hosts (s : MagiSystem H) (domain type : Int) :
    (magiSocket s domain type).2.hosts = s.hosts := by
  rcases magiSocket_cases s domain type with heq | ⟨d, sock, -, -, heq | ⟨heq, -⟩⟩
  all_goals exact congrArg (fun result => result.2.hosts) heq

theorem magiAccept_hosts (s : MagiSystem H) (sockfd : Int) :
    (magiAccept s sockfd).2.hosts = s.hosts := by
  have hsocket := magiSocket_hosts s afInet sockStream
  rw [magiAccept]
  split
  · rfl
  · split
    · rfl
    · rename_i heq
      rw [heq] at hsocket
      exact hsocket

namespace MagiWorld

omit [DecidableEq H] in
theorem demux_initial (hosts : H → IpAddress) : (initial hosts).system.Demux := fun _ =>
  { unique := KeyedSlots.unique_of_none fun _ => rfl
    listening := fun _ hlisten => nomatch hlisten }

/-- One step of a run. -/
theorem demux_step {w : MagiWorld H} (h : w.system.Demux) (action : MagiAction H) :
    (w.step action).system.Demux := by
  -- Calls that touch descriptors only leave the tables of the hosts as they are.
  cases action with
  | socket domain type =>
      rw [step_socket_system]
      exact h.of_hosts (magiSocket_hosts w.system domain type)
  | attachHost sockfd host =>
      simp only [step, magiSocketAttachHost]
      split
      all_goals exact h.of_hosts rfl
  | bind sockfd ip port =>
      simp only [step, magiBind]
      split
      all_goals exact h.of_hosts rfl
  | listen sockfd =>
      rw [step_listen_system]
      exact h.listen sockfd
  | accept sockfd =>
      rw [step_accept_system]
      exact h.of_hosts (magiAccept_hosts w.system sockfd)
  | connect sockfd ip port =>
      rw [step_connect_system]
      exact h.connect sockfd ip port
  | connectReturn =>
      simp only [step]
      split
      · exact h.connectEnd _
      · exact h
  | send sockfd data => exact h.send sockfd data
  | recv sockfd bufsize => exact h.recv sockfd bufsize
  | close sockfd =>
      rw [step_close_system]
      exact h.close sockfd
  | closeReturn sent =>
      simp only [step]
      split
      · simp only [magiCloseEnd]
        split
        all_goals exact h.of_hosts rfl
      · exact h
  | arrive host segment srcIp dstIp => exact h.arrive host segment srcIp dstIp

theorem demux_run {w : MagiWorld H} (h : w.system.Demux) (actions : List (MagiAction H)) :
    (w.run actions).system.Demux := by
  induction actions generalizing w with
  | nil => exact h
  | cons action rest ih => exact ih (demux_step h action)

end MagiWorld

/-- In every run, at every host: no two sockets have the same tuple, and every segment that arrives
next is processed by the socket of its tuple, or else by a new child of a listener and only if it
opens a connection, while every listener stays as it is. -/
theorem sockets_demultiplex (hosts : H → IpAddress) (actions : List (MagiAction H)) (host : H) :
    let w := (MagiWorld.initial hosts).run actions
    (∀ i j tuple, ((w.system.hosts host).tcpSockets i).tuple = some tuple →
      ((w.system.hosts host).tcpSockets j).tuple = some tuple → i = j) ∧
    ∀ segment srcIp dstIp,
      TcpDemultiplexed (w.system.hosts host).tcpSockets (w.system.hosts host).ipAddress segment srcIp
        dstIp ((w.step (.arrive host segment srcIp dstIp)).system.hosts host).tcpSockets := by
  intro w
  have hdemux := MagiWorld.demux_run (MagiWorld.demux_initial hosts) actions host
  refine ⟨hdemux.unique, fun segment srcIp dstIp => ?_⟩
  have hafter : ((w.step (.arrive host segment srcIp dstIp)).system.hosts host).tcpSockets =
      (hostReceiveTcp (w.system.hosts host).tcpSockets (w.system.hosts host).ipAddress segment srcIp
        dstIp).1 := by
    simp only [MagiWorld.step, magiArrive, Function.update_self]
  rw [hafter]
  exact hostReceiveTcp_demultiplexed hdemux _ segment srcIp dstIp

end MagiStack
