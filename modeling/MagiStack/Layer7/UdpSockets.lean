import MagiStack.Layer4.Udp
import MagiStack.Layer7.MagiSocket
import MagiStack.Library.Observation

/-!
# UdpSockets — descriptors over the one mailbox of a host

The UDP branches of `magi_recv` and `magi_recvfrom` of `layer7/magi_socket.c`, and what `host_receive` stores of
a datagram that passed its checks.  A host keeps the last datagram only, whatever its port.  `magi_recvfrom` looks
at the port and leaves the datagram of another socket; `magi_recv` takes what is there; and the next datagram
takes the place of one that nobody has read.
-/

namespace MagiStack

open Observation

/-- The mailbox of `Host`. -/
structure UdpHost where
  lastUdp : UdpDatagram
  lastUdpSrcIp : IpAddress
  hasLastUdp : Bool

/-- The mailbox after `host_init_with_macs`. -/
def udpHostInit : UdpHost :=
  { lastUdp := { srcPort := 0, dstPort := 0, length := 0, checksum := 0, payload := [] }
    lastUdpSrcIp := ipZero
    hasLastUdp := false }

/-- What `host_receive` stores of a valid datagram. -/
def hostReceiveUdp (_host : UdpHost) (udp : UdpDatagram) (srcIp : IpAddress) : UdpHost :=
  { lastUdp := udp, lastUdpSrcIp := srcIp, hasLastUdp := true }

/-- What a receive gives: the bytes it copies, as many as it returns, and what it stores in `*src_ip` and
`*src_port`. -/
structure UdpResult where
  bytes : List UInt8
  source : Option (IpAddress × UInt16)
  deriving DecidableEq

/-- `return 0`. -/
def udpNothing : UdpResult :=
  { bytes := [], source := none }

/-- `magi_recv` on a UDP descriptor of the host. -/
def magiRecvUdp (host : UdpHost) (bufsize : Nat) : UdpResult × UdpHost :=
  if !host.hasLastUdp then
    (udpNothing, host)
  else
    ({ bytes := host.lastUdp.payload.take bufsize, source := none }, { host with hasLastUdp := false })

/-- `magi_recvfrom` on a UDP descriptor of the host. -/
def magiRecvfrom {H : Type*} (sock : MagiSocket H) (host : UdpHost) (bufsize : Nat) :
    UdpResult × UdpHost :=
  if !host.hasLastUdp then
    (udpNothing, host)
  else if sock.localPort ≠ 0 ∧ host.lastUdp.dstPort ≠ sock.localPort then
    (udpNothing, host)
  else
    ({ bytes := host.lastUdp.payload.take bufsize
       source := some (host.lastUdpSrcIp, host.lastUdp.srcPort) },
      { host with hasLastUdp := false })

/-! ## Runs -/

/-- UDP descriptors of one host, bound to different ports. -/
structure UdpSockets (H : Type*) where
  host : H
  sockets : Fin magiSocketMaxSockets → MagiSocket H
  members : Finset (Fin magiSocketMaxSockets)
  inUse : ∀ d ∈ members, (sockets d).inUse = true ∧ (sockets d).sockType = .udp ∧
    (sockets d).host = some host
  port_ne_zero : ∀ d ∈ members, (sockets d).localPort ≠ 0
  port_ne : ∀ d ∈ members, ∀ e ∈ members, (sockets d).localPort = (sockets e).localPort → d = e

namespace UdpSockets

variable {H : Type*}

/-- One of the descriptors. -/
abbrev Member (S : UdpSockets H) : Type :=
  { d // d ∈ S.members }

def port (S : UdpSockets H) (d : S.Member) : UInt16 :=
  (S.sockets d).localPort

/-- A datagram arrives, or a receive is called. -/
inductive Action (S : UdpSockets H)
  | arrive (udp : UdpDatagram) (srcIp : IpAddress)
  | recv (d : S.Member) (bufsize : Nat)
  | recvfrom (d : S.Member) (bufsize : Nat)

variable {S : UdpSockets H}

def step (host : UdpHost) : S.Action → UdpHost
  | .arrive udp srcIp => hostReceiveUdp host udp srcIp
  | .recv _ bufsize => (magiRecvUdp host bufsize).2
  | .recvfrom d bufsize => (magiRecvfrom (S.sockets d) host bufsize).2

/-- What a receive gives. -/
def output (host : UdpHost) : S.Action → Option UdpResult
  | .arrive _ _ => none
  | .recv _ bufsize => some (magiRecvUdp host bufsize).1
  | .recvfrom d bufsize => some (magiRecvfrom (S.sockets d) host bufsize).1

/-- A datagram to the port of the descriptor, or a receive on it. -/
def concerns (d : S.Member) : S.Action → Bool
  | .arrive udp _ => udp.dstPort == S.port d
  | .recv e _ => e == d
  | .recvfrom e _ => e == d

/-- What the receives on a descriptor give along a run. -/
def received (d : S.Member) (actions : List S.Action) : List UdpResult :=
  observed step output (concerns d) udpHostInit actions

/-- What a descriptor receives comes from datagrams to its port, and is the same without all other datagrams and
receives. -/
def Isolated (actions : List S.Action) : Prop :=
  ∀ d : S.Member,
    (∀ result ∈ received d actions, result.bytes = [] ∨ ∃ udp srcIp bufsize,
      Action.arrive udp srcIp ∈ actions ∧ udp.dstPort = S.port d ∧
        result.bytes = udp.payload.take bufsize) ∧
    received d actions = received d (actions.filter (concerns d))

/-- Isolation all along a run, whichever descriptor asks next with `magi_recvfrom`. -/
def IsolatedAlong (actions : List S.Action) : Prop :=
  ∀ before, before <+: actions → ∀ d bufsize, Isolated (before ++ [.recvfrom d bufsize])

/-- The condition on a step: a datagram does not take the place of an unread one to another port with a
descriptor, and `magi_recv` finds only datagrams to its own port (or an empty one that no descriptor is for). -/
def StepOk (host : UdpHost) : S.Action → Prop
  | .arrive udp _ => host.hasLastUdp = true → host.lastUdp.dstPort ≠ udp.dstPort →
      ∀ d, S.port d ≠ host.lastUdp.dstPort
  | .recv d bufsize => host.hasLastUdp = true → host.lastUdp.dstPort ≠ S.port d →
      (∀ e, S.port e ≠ host.lastUdp.dstPort) ∧ host.lastUdp.payload.take bufsize = []
  | .recvfrom _ _ => True

/-! ## The mailbox -/

/-- The datagram that has not been read, with its source. -/
def unread (host : UdpHost) : Option (UdpDatagram × IpAddress) :=
  if host.hasLastUdp then some (host.lastUdp, host.lastUdpSrcIp) else none

/-- The unread datagram, when it is for a port. -/
def unreadFor (port : UInt16) (host : UdpHost) : Option (UdpDatagram × IpAddress) :=
  (unread host).filter fun message => message.1.dstPort == port

theorem unread_eq_some {host : UdpHost} {message : UdpDatagram × IpAddress}
    (h : unread host = some message) :
    host.hasLastUdp = true ∧ host.lastUdp = message.1 ∧ host.lastUdpSrcIp = message.2 := by
  rw [unread] at h
  split at h
  · rename_i hunread
    cases h
    exact ⟨hunread, rfl, rfl⟩
  · cases h

theorem unread_of_has {host : UdpHost} (h : host.hasLastUdp = true) :
    unread host = some (host.lastUdp, host.lastUdpSrcIp) :=
  if_pos h

theorem unread_of_not {host : UdpHost} (h : host.hasLastUdp = false) : unread host = none :=
  if_neg (Bool.eq_false_iff.mp h)

@[simp] theorem unread_arrive (host : UdpHost) (udp : UdpDatagram) (srcIp : IpAddress) :
    unread (hostReceiveUdp host udp srcIp) = some (udp, srcIp) :=
  rfl

theorem magiRecvUdp_eq (host : UdpHost) (bufsize : Nat) :
    (magiRecvUdp host bufsize).1 =
        { bytes := (unread host).elim [] fun message => message.1.payload.take bufsize
          source := none } ∧
      unread (magiRecvUdp host bufsize).2 = none := by
  cases hunread : host.hasLastUdp with
  | false =>
      have hnone : unread host = none := unread_of_not hunread
      rw [magiRecvUdp, hunread, hnone]
      exact ⟨rfl, hnone⟩
  | true =>
      rw [magiRecvUdp, hunread, unread_of_has hunread]
      exact ⟨rfl, rfl⟩

/-- `magi_recvfrom` sees what is for its port only. -/
theorem magiRecvfrom_eq {sock : MagiSocket H} (hport : sock.localPort ≠ 0) (host : UdpHost)
    (bufsize : Nat) :
    (magiRecvfrom sock host bufsize).1 =
        (unreadFor sock.localPort host).elim udpNothing (fun message =>
          { bytes := message.1.payload.take bufsize
            source := some (message.2, message.1.srcPort) }) ∧
      unread (magiRecvfrom sock host bufsize).2 =
        if (unreadFor sock.localPort host).isSome then none else unread host := by
  cases hunread : host.hasLastUdp with
  | false =>
      have hnone : unread host = none := unread_of_not hunread
      rw [magiRecvfrom, unreadFor, hunread, hnone]
      exact ⟨rfl, hnone⟩
  | true =>
      rw [magiRecvfrom, unreadFor, hunread, unread_of_has hunread, Option.filter_some, if_neg (by decide)]
      by_cases hdst : host.lastUdp.dstPort = sock.localPort
      · rw [if_neg fun hother => hother.2 hdst, if_pos (beq_iff_eq.mpr hdst)]
        exact ⟨rfl, rfl⟩
      · rw [if_pos ⟨hport, hdst⟩, if_neg fun hmine => hdst (beq_iff_eq.mp hmine)]
        exact ⟨rfl, unread_of_has hunread⟩

theorem recvfrom_eq (d : S.Member) (host : UdpHost) (bufsize : Nat) :
    (magiRecvfrom (S.sockets d) host bufsize).1 =
        (unreadFor (S.port d) host).elim udpNothing (fun message =>
          { bytes := message.1.payload.take bufsize
            source := some (message.2, message.1.srcPort) }) ∧
      unread (magiRecvfrom (S.sockets d) host bufsize).2 =
        if (unreadFor (S.port d) host).isSome then none else unread host :=
  magiRecvfrom_eq (S.port_ne_zero d d.2) host bufsize

theorem port_injective {d e : S.Member} (h : S.port d = S.port e) : d = e :=
  Subtype.ext (S.port_ne d d.2 e e.2 h)

/-! ## One descriptor -/

/-- The mailbox of the run in which only one descriptor takes part: it holds the unread datagram if that is for
its port, and nothing otherwise. -/
def Shows (d : S.Member) (host own : UdpHost) : Prop :=
  unread own = unreadFor (S.port d) host

theorem unreadFor_eq_none {port : UInt16} {host : UdpHost}
    (h : ∀ message, unread host = some message → message.1.dstPort ≠ port) :
    unreadFor port host = none := by
  rw [unreadFor]
  cases hunread : unread host with
  | none => rfl
  | some message => exact if_neg fun hport => h message hunread (beq_iff_eq.mp hport)

theorem unreadFor_eq_some {port : UInt16} {host : UdpHost} {message : UdpDatagram × IpAddress} :
    unreadFor port host = some message ↔ unread host = some message ∧ message.1.dstPort = port := by
  rw [unreadFor, Option.filter_eq_some_iff, beq_iff_eq]

theorem Shows.unreadFor_eq {d : S.Member} {host own : UdpHost} (h : Shows d host own) :
    unreadFor (S.port d) own = unreadFor (S.port d) host := by
  rw [unreadFor, h, unreadFor, Option.filter_filter]
  simp

/-- A datagram that another may replace is not for a descriptor. -/
theorem StepOk.arrive {host : UdpHost} {udp : UdpDatagram} {srcIp : IpAddress}
    (h : StepOk host (.arrive udp srcIp : S.Action)) {d : S.Member} (hother : udp.dstPort ≠ S.port d) :
    unreadFor (S.port d) host = none := by
  refine unreadFor_eq_none fun message hunread hport => ?_
  rcases unread_eq_some hunread with ⟨hhas, hudp, -⟩
  have hdst : host.lastUdp.dstPort = S.port d := hudp ▸ hport
  exact h hhas (hdst ▸ hother.symm) d hdst.symm

/-- What `magi_recv` takes for one descriptor is not for another. -/
theorem StepOk.recv {host : UdpHost} {e : S.Member} {bufsize : Nat}
    (h : StepOk host (.recv e bufsize : S.Action)) {d : S.Member} (hother : e ≠ d) :
    unreadFor (S.port d) host = none := by
  refine unreadFor_eq_none fun message hunread hport => ?_
  rcases unread_eq_some hunread with ⟨hhas, hudp, -⟩
  have hdst : host.lastUdp.dstPort = S.port d := hudp ▸ hport
  have hne : host.lastUdp.dstPort ≠ S.port e := fun heq => hother (port_injective (heq.symm.trans hdst))
  exact (h hhas hne).1 d hdst.symm

/-- Under the condition every descriptor sees the run as if it were alone. -/
theorem unwinding (d : S.Member) :
    Unwinding (step (S := S)) StepOk output (concerns d) (Shows d) where
  same := by
    intro host own action hshows hok hconcerns
    cases action with
    | arrive udp srcIp =>
        refine ⟨rfl, ?_⟩
        exact (unreadFor_eq_some.mpr ⟨rfl, beq_iff_eq.mp hconcerns⟩).symm
    | recv e bufsize =>
        cases beq_iff_eq.mp hconcerns
        rcases magiRecvUdp_eq host bufsize with ⟨hresult, hleft⟩
        rcases magiRecvUdp_eq own bufsize with ⟨hresult', hleft'⟩
        refine ⟨?_, ?_⟩
        · rw [output, output, hresult, hresult', hshows]
          cases hunread : unread host with
          | none => rw [unreadFor, hunread, Option.filter_none]
          | some message =>
              by_cases hport : message.1.dstPort = S.port d
              · rw [unreadFor_eq_some.mpr ⟨hunread, hport⟩]
              · rcases unread_eq_some hunread with ⟨hhas, hudp, -⟩
                -- Only an empty datagram for nobody may be here.
                have hempty := (hok hhas (hudp ▸ hport)).2
                rw [hudp] at hempty
                rw [unreadFor_eq_none fun other hother => Option.some.inj (hunread.symm.trans hother) ▸ hport,
                  Option.elim_some, Option.elim_none, hempty]
        · rw [Shows, step, step, hleft', unreadFor, hleft, Option.filter_none]
    | recvfrom e bufsize =>
        cases beq_iff_eq.mp hconcerns
        rcases recvfrom_eq d host bufsize with ⟨hresult, hleft⟩
        rcases recvfrom_eq d own bufsize with ⟨hresult', hleft'⟩
        rw [hshows.unreadFor_eq] at hresult' hleft'
        refine ⟨?_, ?_⟩
        · rw [output, output, hresult, hresult']
        · change unread (magiRecvfrom (S.sockets d) own bufsize).2 =
            Option.filter _ (unread (magiRecvfrom (S.sockets d) host bufsize).2)
          rw [hleft', hleft]
          split
          · rfl
          · exact hshows
  other := by
    intro host own action hshows hok hconcerns
    cases action with
    | arrive udp srcIp =>
        have hother : udp.dstPort ≠ S.port d := fun heq =>
          Bool.false_ne_true (hconcerns.symm.trans (beq_iff_eq.mpr heq))
        have hnone : unreadFor (S.port d) (hostReceiveUdp host udp srcIp) = none :=
          unreadFor_eq_none fun message hunread => Option.some.inj hunread ▸ hother
        rw [Shows, step, hnone, hshows, hok.arrive hother]
    | recv e bufsize =>
        have hother : e ≠ d := fun heq => Bool.false_ne_true (hconcerns.symm.trans (beq_iff_eq.mpr heq))
        rw [Shows, step, hshows, hok.recv hother, unreadFor, (magiRecvUdp_eq host bufsize).2,
          Option.filter_none]
    | recvfrom e bufsize =>
        have hother : e ≠ d := fun heq => Bool.false_ne_true (hconcerns.symm.trans (beq_iff_eq.mpr heq))
        rw [Shows, step, hshows, unreadFor, unreadFor, (recvfrom_eq e host bufsize).2]
        split
        · rename_i hmine
          rcases Option.isSome_iff_exists.mp hmine with ⟨message, hmessage⟩
          rcases unreadFor_eq_some.mp hmessage with ⟨hunread, hport⟩
          rw [hunread, Option.filter_none]
          exact if_neg fun heq => hother (port_injective (hport.symm.trans (beq_iff_eq.mp heq)))
        · rfl

/-! ## Isolation -/

theorem unread_step {host : UdpHost} {action : S.Action} {message : UdpDatagram × IpAddress}
    (h : unread (step host action) = some message) :
    unread host = some message ∨ action = .arrive message.1 message.2 := by
  cases action with
  | arrive udp srcIp => exact Or.inr (Option.some.inj h ▸ rfl)
  | recv e bufsize =>
      rw [step, (magiRecvUdp_eq host bufsize).2] at h
      cases h
  | recvfrom e bufsize =>
      rw [step, (recvfrom_eq e host bufsize).2] at h
      split at h
      · cases h
      · exact Or.inl h

/-- What a descriptor receives is from the mailbox at the start or from a datagram of the run. -/
theorem mem_observed {d : S.Member} {host : UdpHost} {actions : List S.Action} {result : UdpResult}
    (h : result ∈ observed step output (concerns d) host actions) :
    result.bytes = [] ∨ ∃ message bufsize, result.bytes = message.1.payload.take bufsize ∧
      (unread host = some message ∨ Action.arrive message.1 message.2 ∈ actions) := by
  induction actions generalizing host with
  | nil => cases h
  | cons action rest ih =>
      rw [observed, List.mem_append] at h
      -- What this action returns was unread before it; what a later one returns may arrive in between.
      rcases h with hhere | hlater
      · split at hhere
        · cases action with
          | arrive udp srcIp => cases hhere
          | recv e bufsize =>
              rw [output, Option.toList_some, List.mem_singleton] at hhere
              rw [hhere, (magiRecvUdp_eq host bufsize).1]
              cases hunread : unread host with
              | none => exact Or.inl rfl
              | some message => exact Or.inr ⟨message, bufsize, rfl, Or.inl rfl⟩
          | recvfrom e bufsize =>
              rw [output, Option.toList_some, List.mem_singleton] at hhere
              rw [hhere, (recvfrom_eq e host bufsize).1]
              cases hunread : unreadFor (S.port e) host with
              | none => exact Or.inl rfl
              | some message =>
                  exact Or.inr ⟨message, bufsize, rfl, Or.inl (unreadFor_eq_some.mp hunread).1⟩
        · cases hhere
      · rcases ih hlater with hempty | ⟨message, bufsize, hbytes, hunread | harrived⟩
        · exact Or.inl hempty
        · refine (unread_step hunread).elim (fun hbefore => ?_) fun harrives => ?_
          · exact Or.inr ⟨message, bufsize, hbytes, Or.inl hbefore⟩
          · exact Or.inr ⟨message, bufsize, hbytes, Or.inr (harrives ▸ List.mem_cons_self)⟩
        · exact Or.inr ⟨message, bufsize, hbytes, Or.inr (List.mem_cons_of_mem _ harrived)⟩

/-- Under the condition the descriptors are isolated. -/
theorem isolated_of_runOk {actions : List S.Action} (hok : RunOk step StepOk udpHostInit actions) :
    Isolated actions := by
  intro d
  have hsame : received d actions = received d (actions.filter (concerns d)) :=
    (unwinding d).observed_eq (show Shows d udpHostInit udpHostInit from rfl) hok
  refine ⟨fun result hresult => ?_, hsame⟩
  rw [hsame] at hresult
  rcases mem_observed hresult with hempty | ⟨message, bufsize, hbytes, hunread | harrived⟩
  · exact Or.inl hempty
  · cases hunread
  · rcases List.mem_filter.mp harrived with ⟨harrived, hconcerns⟩
    exact Or.inr ⟨message.1, message.2, bufsize, harrived, beq_iff_eq.mp hconcerns, hbytes⟩

theorem concerns_recvfrom (d : S.Member) (bufsize : Nat) :
    concerns d (.recvfrom d bufsize : S.Action) = true :=
  beq_iff_eq.mpr rfl

theorem observed_recvfrom (d : S.Member) (host : UdpHost) (bufsize : Nat) :
    observed step output (concerns d) host [.recvfrom d bufsize] =
      [(magiRecvfrom (S.sockets d) host bufsize).1] := by
  rw [observed, if_pos (concerns_recvfrom d bufsize)]
  rfl

/-- In an isolated run the last `magi_recvfrom` gives what it would give alone, and so do the receives before. -/
theorem Isolated.probe {before : List S.Action} {d : S.Member} {bufsize : Nat}
    (h : Isolated (before ++ [.recvfrom d bufsize])) :
    received d before = received d (before.filter (concerns d)) ∧
      (magiRecvfrom (S.sockets d) (run step udpHostInit before) bufsize).1 =
        (magiRecvfrom (S.sockets d) (run step udpHostInit (before.filter (concerns d))) bufsize).1 := by
  have hsame := (h d).2
  rw [List.filter_append, List.filter_cons_of_pos (concerns_recvfrom d bufsize), List.filter_nil,
    received, received, observed_append, observed_append, observed_recvfrom, observed_recvfrom] at hsame
  rcases List.append_inj' hsame rfl with ⟨hbefore, hlast⟩
  exact ⟨hbefore, (List.cons.inj hlast).1⟩

/-- When one action more keeps the descriptors isolated, no unread datagram of a descriptor that the action does not
concern is lost. -/
theorem Isolated.keeps {before : List S.Action} {action : S.Action} {d : S.Member}
    (h : Isolated ((before ++ [action]) ++ [.recvfrom d 0])) (hother : concerns d action = false)
    (hok : RunOk step StepOk udpHostInit before)
    (hlost : unreadFor (S.port d) (step (run step udpHostInit before) action) = none) :
    unreadFor (S.port d) (run step udpHostInit before) = none := by
  have hprobe := h.probe.2
  rw [List.filter_append, List.filter_cons_of_neg (Bool.eq_false_iff.mp hother), List.filter_nil,
    List.append_nil, run_append] at hprobe
  have hshows : Shows d (run step udpHostInit before)
      (run step udpHostInit (before.filter (concerns d))) :=
    (unwinding d).run (show Shows d udpHostInit udpHostInit from rfl) hok
  rw [(recvfrom_eq d _ 0).1, (recvfrom_eq d _ 0).1, hshows.unreadFor_eq] at hprobe
  change (unreadFor (S.port d) (step (run step udpHostInit before) action)).elim udpNothing _ = _
    at hprobe
  rw [hlost] at hprobe
  -- A datagram would show by its source.
  cases hunread : unreadFor (S.port d) (run step udpHostInit before) with
  | none => rfl
  | some message =>
      rw [hunread] at hprobe
      cases congrArg UdpResult.source hprobe

/-- What `magi_recv` takes from an isolated run it would get alone. -/
theorem Isolated.recv_bytes {before : List S.Action} {d : S.Member} {bufsize : Nat}
    (h : Isolated ((before ++ [.recv d bufsize]) ++ [.recvfrom d 0]))
    (hok : RunOk step StepOk udpHostInit before)
    (hother : unreadFor (S.port d) (run step udpHostInit before) = none) :
    (magiRecvUdp (run step udpHostInit before) bufsize).1.bytes = [] := by
  have hconcerns : concerns d (.recv d bufsize : S.Action) = true := beq_iff_eq.mpr rfl
  have hlast : ∀ host, observed step output (concerns d) host [(.recv d bufsize : S.Action)] =
      [(magiRecvUdp host bufsize).1] := by
    intro host
    rw [observed, if_pos hconcerns]
    rfl
  have hshows : Shows d (run step udpHostInit before)
      (run step udpHostInit (before.filter (concerns d))) :=
    (unwinding d).run (show Shows d udpHostInit udpHostInit from rfl) hok
  rw [Shows, hother] at hshows
  have hsame := h.probe.1
  rw [List.filter_append, List.filter_cons_of_pos hconcerns, List.filter_nil, received, received,
    observed_append, observed_append, hlast, hlast] at hsame
  have hresult := (List.cons.inj (List.append_inj' hsame rfl).2).1
  rw [hresult, (magiRecvUdp_eq _ bufsize).1, hshows]
  rfl

/-- The condition on the last step of a run that is isolated so far. -/
theorem stepOk_of_isolated {before : List S.Action} {action : S.Action}
    (hok : RunOk step StepOk udpHostInit before)
    (h : ∀ d, Isolated ((before ++ [action]) ++ [.recvfrom d 0])) :
    StepOk (run step udpHostInit before) action := by
  cases action with
  | arrive udp srcIp =>
      intro hhas hne d hport
      -- A datagram for another port would take the place of the one that waits.
      have hdst : udp.dstPort ≠ S.port d := fun heq => hne (hport.symm.trans heq.symm)
      have hother : concerns d (.arrive udp srcIp : S.Action) = false :=
        Bool.eq_false_iff.mpr fun heq => hdst (beq_iff_eq.mp heq)
      have hlost : unreadFor (S.port d) (hostReceiveUdp (run step udpHostInit before) udp srcIp) = none :=
        unreadFor_eq_none fun message hunread => Option.some.inj hunread ▸ hdst
      have hnone := (h d).keeps hother hok hlost
      cases hnone.symm.trans (unreadFor_eq_some.mpr ⟨unread_of_has hhas, hport.symm⟩)
  | recv d bufsize =>
      intro hhas hne
      -- A datagram for another port would be taken from its owner, and read where there is nothing.
      have hunread := unread_of_has hhas
      refine ⟨fun e hport => ?_, ?_⟩
      · have hother : concerns e (.recv d bufsize : S.Action) = false :=
          Bool.eq_false_iff.mpr fun heq => hne (beq_iff_eq.mp heq ▸ hport.symm)
        have hlost : unreadFor (S.port e) (magiRecvUdp (run step udpHostInit before) bufsize).2 = none := by
          rw [unreadFor, (magiRecvUdp_eq _ bufsize).2, Option.filter_none]
        have hnone := (h e).keeps hother hok hlost
        cases hnone.symm.trans (unreadFor_eq_some.mpr ⟨hunread, hport.symm⟩)
      · have hnone : unreadFor (S.port d) (run step udpHostInit before) = none :=
          unreadFor_eq_none fun message hmessage =>
            Option.some.inj (hunread.symm.trans hmessage) ▸ hne
        have hbytes := (h d).recv_bytes hok hnone
        rw [(magiRecvUdp_eq _ bufsize).1, hunread] at hbytes
        exact hbytes
  | recvfrom d bufsize => trivial

end UdpSockets

/-- UDP descriptors of a host are isolated all along a run exactly when every step of it meets the condition. -/
theorem udp_sockets_isolated_iff {H : Type*} (S : UdpSockets H) (actions : List S.Action) :
    UdpSockets.IsolatedAlong actions ↔
      RunOk UdpSockets.step UdpSockets.StepOk udpHostInit actions := by
  constructor
  · intro halong
    induction actions using List.reverseRecOn with
    | nil => trivial
    | append_singleton before action ih =>
        have hok := ih fun b hb => halong b (hb.trans (List.prefix_append before [action]))
        have hlast := halong (before ++ [action]) (List.prefix_refl _)
        exact runOk_append.mpr
          ⟨hok, UdpSockets.stepOk_of_isolated hok fun d => hlast d 0, trivial⟩
  · intro hok before hbefore d bufsize
    rcases hbefore with ⟨after, rfl⟩
    have hbefore := (runOk_append.mp hok).1
    exact UdpSockets.isolated_of_runOk (runOk_append.mpr ⟨hbefore, trivial, trivial⟩)

/-- Descriptors `0` and `1` of a host, on the ports `1000` and `2000`. -/
def twoUdpSockets : UdpSockets Unit :=
  { host := ()
    sockets := fun d =>
      { (magiSocketZero : MagiSocket Unit) with
        inUse := true
        sockType := .udp
        localPort := if d = 0 then 1000 else 2000
        host := some () }
    members := {0, 1}
    inUse := fun _ _ => ⟨rfl, rfl, rfl⟩
    port_ne_zero := by decide
    port_ne := by decide }

/-- A datagram of one byte from port `53`. -/
def udpByte (dstPort : UInt16) (byte : UInt8) : UdpDatagram :=
  { srcPort := 53, dstPort := dstPort, length := 9, checksum := 0, payload := [byte] }

/-- `magi_recv` on port `1000` takes a datagram for port `2000`; and a datagram for port `2000` makes
`magi_recvfrom` on port `1000` return `0`, though one for it has come. -/
theorem udp_sockets_isolated_iff_stolen :
    ¬ UdpSockets.Isolated
        [.arrive (udpByte 2000 65) ⟨10, 0, 0, 2, 0⟩, (.recv ⟨0, by decide⟩ 16 : twoUdpSockets.Action)] ∧
      ¬ UdpSockets.Isolated
        [.arrive (udpByte 1000 65) ⟨10, 0, 0, 2, 0⟩, .arrive (udpByte 2000 66) ⟨10, 0, 0, 2, 0⟩,
          (.recvfrom ⟨0, by decide⟩ 16 : twoUdpSockets.Action)] :=
  ⟨fun hisolated => absurd (hisolated ⟨0, by decide⟩).2 (by decide),
    fun hisolated => absurd (hisolated ⟨0, by decide⟩).2 (by decide)⟩

end MagiStack
