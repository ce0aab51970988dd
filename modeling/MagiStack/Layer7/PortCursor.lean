import MagiStack.Layer4.SourcePort
import MagiStack.Layer7.MagiSocket

/-!
# PortCursor — source ports from the cursor of a host

`host_select_tcp_source_port` starts its search at the cursor of the host and leaves the cursor behind the
port it found.  Whatever happens to the sockets between the calls, no port comes twice before the cursor has
gone round.
-/

namespace MagiStack

/-! ## One call -/

/-- Where `host_select_tcp_source_port` starts its search. -/
def hostFirstCandidate (host : TcpHost) (initialPreferred : UInt16) : UInt16 :=
  tcpFirstCandidate (if host.nextTcpSourcePort ≠ 0 then host.nextTcpSourcePort else initialPreferred)

theorem le_hostFirstCandidate (host : TcpHost) (initialPreferred : UInt16) :
    1024 ≤ hostFirstCandidate host initialPreferred :=
  le_tcpFirstCandidate _

/-- A cursor that has been set is where the search starts. -/
theorem hostFirstCandidate_cursor {host : TcpHost} (h : 1024 ≤ host.nextTcpSourcePort)
    (initialPreferred : UInt16) : hostFirstCandidate host initialPreferred = host.nextTcpSourcePort := by
  have hset : host.nextTcpSourcePort ≠ 0 := fun hzero => by
    rw [hzero] at h
    exact absurd h (by decide)
  rw [hostFirstCandidate, if_pos hset, tcpFirstCandidate, if_pos h]

theorem hostSelectTcpSourcePort_eq (host : TcpHost) (remoteIp : IpAddress)
    (remotePort initialPreferred : UInt16) :
    (hostSelectTcpSourcePort host remoteIp remotePort initialPreferred).1 =
      tcpSocketSelectSourcePortAmong (List.ofFn host.tcpSockets) remoteIp remotePort
        (if host.nextTcpSourcePort ≠ 0 then host.nextTcpSourcePort else initialPreferred) := by
  simp only [hostSelectTcpSourcePort, tcpSocketSelectSourcePort]
  split
  all_goals
    split
    all_goals rfl

/-- The cursor stays where it is, or goes behind the port that is found. -/
theorem hostSelectTcpSourcePort_cursor (host : TcpHost) (remoteIp : IpAddress)
    (remotePort initialPreferred : UInt16) :
    (hostSelectTcpSourcePort host remoteIp remotePort initialPreferred).2.nextTcpSourcePort =
      if (hostSelectTcpSourcePort host remoteIp remotePort initialPreferred).1 = 0 then host.nextTcpSourcePort
      else if (hostSelectTcpSourcePort host remoteIp remotePort initialPreferred).1 = 65535 then 1024
      else (hostSelectTcpSourcePort host remoteIp remotePort initialPreferred).1 + 1 := by
  simp only [hostSelectTcpSourcePort]
  split
  all_goals
    split
    · simp [*]
    · simp [*]

/-! ## Successive calls -/

/-- A call of `host_select_tcp_source_port`, and the sockets the host has by then. -/
structure SourcePortCall where
  tcpSockets : TcpTable
  remoteIp : IpAddress
  remotePort : UInt16
  initialPreferred : UInt16

namespace SourcePortCall

/-- The call, at a host that has kept its cursor. -/
def select (call : SourcePortCall) (host : TcpHost) : UInt16 × TcpHost :=
  hostSelectTcpSourcePort { host with tcpSockets := call.tcpSockets } call.remoteIp call.remotePort
    call.initialPreferred

end SourcePortCall

/-- The calls that find a port, one after another: where each of them starts and what it finds. -/
def sourcePortRun (host : TcpHost) : List SourcePortCall → List (UInt16 × UInt16)
  | [] => []
  | call :: calls =>
      let selected := call.select host
      if selected.1 = 0 then
        sourcePortRun selected.2 calls
      else
        (hostFirstCandidate host call.initialPreferred, selected.1) :: sourcePortRun selected.2 calls

/-- The cursor has not gone round: the ports it has moved by are no more than there are. -/
def WithinOneRound (run : List (UInt16 × UInt16)) : Prop :=
  (run.map fun found => portDistance found.1 found.2 + 1).sum ≤ 65535 - 1024 + 1

instance (run : List (UInt16 × UInt16)) : Decidable (WithinOneRound run) :=
  inferInstanceAs (Decidable (_ ≤ _))

/-- What one call does: it fails and leaves the cursor, or finds a port the given steps behind its start and
leaves the cursor behind it. -/
theorem SourcePortCall.select_cases (call : SourcePortCall) (host : TcpHost) :
    (call.select host).1 = 0 ∧ (call.select host).2.nextTcpSourcePort = host.nextTcpSourcePort ∨
      (call.select host).1 ≠ 0 ∧
        CyclicSearch.after 1024 64512 (hostFirstCandidate host call.initialPreferred).toNat
            (portDistance (hostFirstCandidate host call.initialPreferred) (call.select host).1) =
          (call.select host).1.toNat ∧
        1024 ≤ (call.select host).2.nextTcpSourcePort ∧
        (call.select host).2.nextTcpSourcePort.toNat =
          CyclicSearch.next 1024 64512 (call.select host).1.toNat := by
  have hport := hostSelectTcpSourcePort_eq { host with tcpSockets := call.tcpSockets } call.remoteIp
    call.remotePort call.initialPreferred
  have hcursor := hostSelectTcpSourcePort_cursor { host with tcpSockets := call.tcpSockets } call.remoteIp
    call.remotePort call.initialPreferred
  rw [← SourcePortCall.select] at hport hcursor
  by_cases hzero : (call.select host).1 = 0
  · rw [if_pos hzero] at hcursor
    exact .inl ⟨hzero, hcursor⟩
  · rw [if_neg hzero] at hcursor
    have hle := ((tcpSocketSelectSourcePortAmong_eq_iff _ _ _ _ hzero).mp hport.symm).1
    have hreach := CyclicSearch.after_distance (isPlace_port (le_hostFirstCandidate host call.initialPreferred))
      (isPlace_port hle)
    refine .inr ⟨hzero, hreach, ?_, ?_⟩
    · rw [hcursor]
      exact le_nextCandidate hle
    · rw [hcursor, toNat_nextCandidate]

/-- From a cursor among the ports, the calls give out ports as a cursor that goes round does. -/
theorem sourcePortRun_giveOut (calls : List SourcePortCall) {host : TcpHost}
    (h : 1024 ≤ host.nextTcpSourcePort) :
    (sourcePortRun host calls).map (fun found => found.2.toNat) =
      CyclicSearch.giveOut 1024 64512 host.nextTcpSourcePort.toNat
        ((sourcePortRun host calls).map fun found => portDistance found.1 found.2) := by
  induction calls generalizing host with
  | nil => rfl
  | cons call calls ih =>
      rw [sourcePortRun]
      rcases call.select_cases host with ⟨hzero, hcursor⟩ | ⟨hne, hreach, hcursor, hnext⟩
      · simp only [hzero, if_true]
        rw [ih (by rwa [hcursor]), hcursor]
      · rw [hostFirstCandidate_cursor h] at hreach
        simp only [if_neg hne, List.map_cons, CyclicSearch.giveOut, hostFirstCandidate_cursor h, hreach]
        rw [ih hcursor, hnext]

/-- From any cursor, the calls give out ports from the first start on. -/
theorem sourcePortRun_giveOut_from (host : TcpHost) (calls : List SourcePortCall) :
    ∃ start : UInt16, 1024 ≤ start ∧
      (sourcePortRun host calls).map (fun found => found.2.toNat) =
        CyclicSearch.giveOut 1024 64512 start.toNat
          ((sourcePortRun host calls).map fun found => portDistance found.1 found.2) := by
  induction calls generalizing host with
  | nil => exact ⟨1024, by decide, rfl⟩
  | cons call calls ih =>
      rw [sourcePortRun]
      rcases call.select_cases host with ⟨hzero, -⟩ | ⟨hne, hreach, hcursor, hnext⟩
      · simp only [hzero, if_true]
        exact ih (call.select host).2
      -- from the first port that is found on, the cursor is among the ports
      · refine ⟨_, le_hostFirstCandidate host call.initialPreferred, ?_⟩
        simp only [if_neg hne, List.map_cons, CyclicSearch.giveOut, hreach]
        rw [sourcePortRun_giveOut calls hcursor, hnext]

/-- No port comes twice before the cursor has gone round. -/
theorem sourcePortRun_nodup {host : TcpHost} {calls : List SourcePortCall}
    (h : WithinOneRound (sourcePortRun host calls)) : ((sourcePortRun host calls).map Prod.snd).Nodup := by
  obtain ⟨start, hstart, hrun⟩ := sourcePortRun_giveOut_from host calls
  have hnodup : ((sourcePortRun host calls).map fun found => found.2.toNat).Nodup := by
    rw [hrun]
    refine CyclicSearch.giveOut_nodup (isPlace_port hstart) ?_
    rw [List.map_map]
    exact h
  rw [show (fun found : UInt16 × UInt16 => found.2.toNat) = UInt16.toNat ∘ Prod.snd from rfl,
    ← List.map_map] at hnodup
  exact hnodup.of_map

/-! ## Source ports are complete and safe -/

/-- An open socket has the port towards the remote end. -/
def UsedTowards (sockets : List TcpSocket) (remoteIp : IpAddress) (remotePort port : UInt16) : Prop :=
  ∃ socket ∈ sockets, socket.inUse = true ∧ socket.state ≠ .closed ∧ socket.localPort = port ∧
    socket.remotePort = remotePort ∧ socket.remoteIp.octets = remoteIp.octets

/-- On a table of any size, the search for a source port fails only when every port is used, and else finds
the first unused one in the cyclic order from the preferred port on; and calls at one host, whatever becomes
of its sockets in between, find no port twice before the cursor has gone round. -/
theorem tcpSourcePort_complete_and_safe :
    (∀ (sockets : List TcpSocket) (remoteIp : IpAddress) (remotePort preferredPort : UInt16),
      let start := if 1024 ≤ preferredPort then preferredPort else 49152
      let port := tcpSocketSelectSourcePortAmong sockets remoteIp remotePort preferredPort
      (port = 0 ↔ ∀ q, 1024 ≤ q → UsedTowards sockets remoteIp remotePort q) ∧
        (port ≠ 0 → 1024 ≤ port ∧ ¬ UsedTowards sockets remoteIp remotePort port ∧
          ∀ q, 1024 ≤ q → portDistance start q < portDistance start port →
            UsedTowards sockets remoteIp remotePort q)) ∧
      ∀ (host : TcpHost) (calls : List SourcePortCall), WithinOneRound (sourcePortRun host calls) →
        ((sourcePortRun host calls).map Prod.snd).Nodup := by
  refine ⟨fun sockets remoteIp remotePort preferredPort => ⟨?_, fun hne => ?_⟩,
    fun host calls hround => sourcePortRun_nodup hround⟩
  · rw [tcpSocketSelectSourcePortAmong_eq_zero_iff]
    exact forall₂_congr fun q _ => tcpPortUsed_iff sockets remoteIp remotePort q
  · obtain ⟨hle, hfree, hbefore⟩ :=
      (tcpSocketSelectSourcePortAmong_eq_iff sockets remoteIp remotePort preferredPort hne).mp rfl
    refine ⟨hle, fun hused => ?_, fun q hq hnear => ?_⟩
    · rw [(tcpPortUsed_iff sockets remoteIp remotePort _).mpr hused] at hfree
      cases hfree
    · exact (tcpPortUsed_iff sockets remoteIp remotePort q).mp (hbefore q hq hnear)

/-- Two calls for one server at a host without sockets. -/
def twoSourcePortCalls : List SourcePortCall :=
  List.replicate 2
    { tcpSockets := fun _ => tcpSocketFree
      remoteIp := ⟨10, 0, 0, 2, 0⟩
      remotePort := 80
      initialPreferred := 1080 }

/-- They find the preferred port and the one behind it. -/
theorem tcpSourcePort_complete_and_safe_twoCalls :
    let host : TcpHost :=
      { ipAddress := ⟨10, 0, 0, 1, 24⟩, tcpSockets := fun _ => tcpSocketFree, nextTcpSourcePort := 0 }
    (sourcePortRun host twoSourcePortCalls).map Prod.snd = [1080, 1081] ∧
      ((sourcePortRun host twoSourcePortCalls).map Prod.snd).Nodup :=
  ⟨by decide +kernel, tcpSourcePort_complete_and_safe.2 _ twoSourcePortCalls (by decide +kernel)⟩

end MagiStack
