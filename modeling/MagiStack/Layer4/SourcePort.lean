import MagiStack.Layer4.TcpTable
import MagiStack.Library.CyclicSearch

/-!
# SourcePort — the search for a source port

`tcp_socket_select_source_port` on a table of any size.  The ports from 1024 on form a cycle, and the search
tries each of them once: it finds the first one from the preferred port on that no open socket uses towards
the remote end, or none if there is no such port.
-/

namespace MagiStack

/-! ## The cycle of the ports -/

/-- How many ports come between the two in the order of the search, from the first one on. -/
def portDistance (start port : UInt16) : Nat :=
  CyclicSearch.distance 64512 start.toNat port.toNat

theorem isPlace_port {port : UInt16} (h : 1024 ≤ port) : CyclicSearch.IsPlace 1024 64512 port.toNat :=
  ⟨UInt16.le_iff_toNat_le.mp h, port.toNat_lt⟩

theorem port_of_isPlace {x : Nat} (h : CyclicSearch.IsPlace 1024 64512 x) :
    (UInt16.ofNat x).toNat = x ∧ 1024 ≤ UInt16.ofNat x := by
  obtain ⟨hlo, hhi⟩ := h
  have hx : (UInt16.ofNat x).toNat = x := UInt16.toNat_ofNat_of_lt' (by omega)
  exact ⟨hx, UInt16.le_iff_toNat_le.mpr (by rw [hx]; exact hlo)⟩

theorem le_tcpFirstCandidate (preferredPort : UInt16) : 1024 ≤ tcpFirstCandidate preferredPort := by
  rw [tcpFirstCandidate]
  split
  · assumption
  · decide

/-- The step to the next candidate, around the cycle. -/
theorem toNat_nextCandidate (candidate : UInt16) :
    (if candidate = 65535 then 1024 else candidate + 1).toNat =
      CyclicSearch.next 1024 64512 candidate.toNat := by
  have hlt := candidate.toNat_lt
  rw [CyclicSearch.next]
  by_cases hlast : candidate = 65535
  · rw [if_pos hlast, hlast]
    rfl
  -- below 65535, the sum does not wrap
  · have hne : candidate.toNat ≠ 65535 := fun heq => hlast (UInt16.toNat_inj.mp heq)
    rw [if_neg hlast, if_neg (by omega), UInt16.toNat_add]
    exact Nat.mod_eq_of_lt (by simp; omega)

theorem le_nextCandidate {candidate : UInt16} (h : 1024 ≤ candidate) :
    1024 ≤ if candidate = 65535 then 1024 else candidate + 1 := by
  rw [UInt16.le_iff_toNat_le, toNat_nextCandidate]
  exact (CyclicSearch.isPlace_next (isPlace_port h)).1

/-- The loop is the search of a cycle. -/
theorem toNat_tcpSelectAmong (sockets : List TcpSocket) (remoteIp : IpAddress) (remotePort : UInt16)
    (attempts : Nat) {candidate : UInt16} (h : 1024 ≤ candidate) :
    (tcpSelectAmong sockets remoteIp remotePort attempts candidate).toNat =
      (CyclicSearch.search 1024 64512 (fun x => tcpPortUsed sockets remoteIp remotePort (UInt16.ofNat x))
        attempts candidate.toNat).getD 0 := by
  induction attempts generalizing candidate with
  | zero => rfl
  | succ attempts ih =>
      rw [tcpSelectAmong, CyclicSearch.search, UInt16.ofNat_toNat]
      split
      · rw [ih (le_nextCandidate h), toNat_nextCandidate]
      · rfl

section Selection

variable (sockets : List TcpSocket) (remoteIp : IpAddress) (remotePort preferredPort : UInt16)

/-- No port is found only when all are used. -/
theorem tcpSocketSelectSourcePortAmong_eq_zero_iff :
    tcpSocketSelectSourcePortAmong sockets remoteIp remotePort preferredPort = 0 ↔
      ∀ port, 1024 ≤ port → tcpPortUsed sockets remoteIp remotePort port = true := by
  have hstart := isPlace_port (le_tcpFirstCandidate preferredPort)
  have hsearch := toNat_tcpSelectAmong sockets remoteIp remotePort 64512 (le_tcpFirstCandidate preferredPort)
  have hnone := @CyclicSearch.search_eq_none_iff 1024 64512 _
    (fun x => tcpPortUsed sockets remoteIp remotePort (UInt16.ofNat x)) hstart
  have hsome := @CyclicSearch.search_eq_some_iff 1024 64512 _
    (fun x => tcpPortUsed sockets remoteIp remotePort (UInt16.ofNat x)) hstart
  have hzero : tcpSocketSelectSourcePortAmong sockets remoteIp remotePort preferredPort = 0 ↔
      CyclicSearch.search 1024 64512 (fun x => tcpPortUsed sockets remoteIp remotePort (UInt16.ofNat x)) 64512
        (tcpFirstCandidate preferredPort).toNat = none := by
    rw [tcpSocketSelectSourcePortAmong, ← UInt16.toNat_inj, hsearch]
    generalize CyclicSearch.search 1024 64512 _ 64512 _ = found at hsome ⊢
    cases found with
    | none => simp
    | some x =>
        -- what is found is a port, and never 0
        have := (hsome.mp rfl).1.1
        simp
        omega
  rw [hzero, hnone]
  constructor
  · intro hall port hport
    simpa using hall port.toNat (isPlace_port hport)
  · exact fun hall x hx => hall _ (port_of_isPlace hx).2

/-- The port that is found is unused, and every port before it is used. -/
theorem tcpSocketSelectSourcePortAmong_eq_iff {port : UInt16} (hne : port ≠ 0) :
    tcpSocketSelectSourcePortAmong sockets remoteIp remotePort preferredPort = port ↔
      1024 ≤ port ∧ tcpPortUsed sockets remoteIp remotePort port = false ∧
        ∀ q, 1024 ≤ q →
          portDistance (tcpFirstCandidate preferredPort) q <
              portDistance (tcpFirstCandidate preferredPort) port →
          tcpPortUsed sockets remoteIp remotePort q = true := by
  have hstart := isPlace_port (le_tcpFirstCandidate preferredPort)
  have hsearch := toNat_tcpSelectAmong sockets remoteIp remotePort 64512 (le_tcpFirstCandidate preferredPort)
  have hfound : tcpSocketSelectSourcePortAmong sockets remoteIp remotePort preferredPort = port ↔
      CyclicSearch.search 1024 64512 (fun x => tcpPortUsed sockets remoteIp remotePort (UInt16.ofNat x)) 64512
        (tcpFirstCandidate preferredPort).toNat = some port.toNat := by
    have hpos : port.toNat ≠ 0 := fun hzero => hne (UInt16.toNat_inj.mp hzero)
    rw [tcpSocketSelectSourcePortAmong, ← UInt16.toNat_inj, hsearch]
    generalize CyclicSearch.search 1024 64512 _ 64512 _ = found
    cases found with
    | none => simpa using hpos.symm
    | some x => simp
  rw [hfound, CyclicSearch.search_eq_some_iff hstart]
  constructor
  · rintro ⟨hplace, hfree, hbefore⟩
    refine ⟨UInt16.le_iff_toNat_le.mpr hplace.1, by simpa using hfree, fun q hq hnear => ?_⟩
    simpa using hbefore q.toNat (isPlace_port hq) hnear
  · rintro ⟨hport, hfree, hbefore⟩
    refine ⟨isPlace_port hport, by simpa using hfree, fun x hx hnear => ?_⟩
    refine hbefore _ (port_of_isPlace hx).2 ?_
    rwa [portDistance, (port_of_isPlace hx).1]

end Selection

/-- What the inner loop looks for. -/
theorem tcpPortUsed_iff (sockets : List TcpSocket) (remoteIp : IpAddress) (remotePort port : UInt16) :
    tcpPortUsed sockets remoteIp remotePort port = true ↔
      ∃ socket ∈ sockets, socket.inUse = true ∧ socket.state ≠ .closed ∧ socket.localPort = port ∧
        socket.remotePort = remotePort ∧ socket.remoteIp.octets = remoteIp.octets := by
  simp [tcpPortUsed, ipOctetsEqualPublic, and_assoc]

end MagiStack
