import MagiStack.Layer7.HttpServer
import MagiStack.Layer7.SlotSteps

/-!
# Listeners — whose connections `magi_accept` returns

A child remembers its listener by the slot's address.  The history records what each descriptor last listened
on, as a connection with its address and port, and for each child the listener that was there when its SYN
arrived.  Under a condition on the steps that take a slot for a listener, `magi_accept` returns only children
of the listener its descriptor listens on; without it a listener that reuses a slot is given the children of
the one before.
-/

namespace MagiStack

variable {H : Type*} [DecidableEq H]

/-! ## Runs -/

/-- A listener: its slot and allocation, and the address and port it listens on. -/
structure ListenRecord (H : Type*) where
  connection : Connection H
  localIp : IpAddress
  localPort : UInt16

/-- A run, with what each descriptor last listened on and the listener each child was made for. -/
structure ListenWorld (H : Type*) where
  world : MagiWorld H
  listened : Fin magiSocketMaxSockets → Option (ListenRecord H)
  origin : Connection H → Option (Connection H)

/-- The descriptor is a listening one and refers to the slot. -/
def MagiSocket.ListensAt (sock : MagiSocket H) (p : SlotPtr H) : Prop :=
  sock.inUse = true ∧ sock.isListening = true ∧ sock.tcpSock = some p

namespace ListenWorld

/-- `magi_listen` records the listener it opens. -/
def listenedAfter (w : ListenWorld H) : MagiAction H →
    Fin magiSocketMaxSockets → Option (ListenRecord H)
  | .listen sockfd =>
      match w.world.system.allocTarget sockfd with
      | none => w.listened
      | some (d, p) =>
          Function.update w.listened d
            (some
              { connection := (p, w.world.gen p + 1)
                localIp := (w.world.system.sockets d).localIp
                localPort := (w.world.system.sockets d).localPort })
  | _ => w.listened

/-- A SYN that makes a child records the listener it arrived at. -/
def originAfter (w : ListenWorld H) : MagiAction H → Connection H → Option (Connection H)
  | .arrive host segment srcIp dstIp =>
      match w.world.childSlot host segment srcIp dstIp with
      | none => w.origin
      | some child =>
          Function.update w.origin (child, w.world.gen child + 1)
            ((tcpListenerOf (w.world.system.hosts host).tcpSockets
              (w.world.system.hosts host).ipAddress segment srcIp dstIp).map fun listener =>
                ((host, listener), w.world.gen (host, listener)))
  | _ => w.origin

def step (w : ListenWorld H) (action : MagiAction H) : ListenWorld H :=
  { world := w.world.step action
    listened := w.listenedAfter action
    origin := w.originAfter action }

def initial (hosts : H → IpAddress) : ListenWorld H :=
  { world := MagiWorld.initial hosts
    listened := fun _ => none
    origin := fun _ => none }

def run (w : ListenWorld H) (actions : List (MagiAction H)) : ListenWorld H :=
  actions.foldl step w

/-! ## The property and the condition -/

/-- The slot holds a connection on the listener's address and port, made for that listener. -/
structure ChildOf (w : ListenWorld H) (child : SlotPtr H) (listener : ListenRecord H) : Prop where
  origin : w.origin (child, w.world.gen child) = some listener.connection
  localIp : (w.world.system.slot child).localIp = listener.localIp
  localPort : (w.world.system.slot child).localPort = listener.localPort

/-- The next `magi_accept` returns a connection of its own listener, if it returns one. -/
def AcceptsOwn (w : ListenWorld H) : Prop :=
  ∀ sockfd conn child s, magiAccept w.world.system sockfd = (some (conn, child), s) →
    (s.sockets conn).tcpSock = some child ∧
      ∃ d listener, w.world.system.lookup sockfd = some d ∧ w.listened d = some listener ∧
        w.ChildOf child listener

/-- No other slot in use names the slot as its parent. -/
def Childless (w : ListenWorld H) (p : SlotPtr H) : Prop :=
  ∀ i, i ≠ p.2 → (w.world.system.slot (p.1, i)).inUse = true →
    (w.world.system.slot (p.1, i)).parent ≠ some p.2

/-- The condition on a step: the slot that a listener takes is nobody's parent, and no other listening
descriptor refers to it; and a listening descriptor connects only in a slot that is nobody's parent. -/
def StepOk (w : ListenWorld H) : MagiAction H → Prop
  | .listen sockfd => ∀ target ∈ w.world.system.allocTarget sockfd,
      w.Childless target.2 ∧ ∀ d, d ≠ target.1 → ¬ (w.world.system.sockets d).ListensAt target.2
  | .connect sockfd _ _ => ∀ target ∈ w.world.system.allocTarget sockfd,
      (w.world.system.sockets target.1).isListening = true → w.Childless target.2
  | _ => True

/-- Every step of the run meets the condition. -/
def RunOk (w : ListenWorld H) : List (MagiAction H) → Prop
  | [] => True
  | action :: rest => w.StepOk action ∧ (w.step action).RunOk rest

section Decidability

instance (sock : MagiSocket H) (p : SlotPtr H) : Decidable (sock.ListensAt p) :=
  inferInstanceAs (Decidable (_ ∧ _))

instance (w : ListenWorld H) (p : SlotPtr H) : Decidable (w.Childless p) :=
  inferInstanceAs (Decidable (∀ i, i ≠ p.2 → (w.world.system.slot (p.1, i)).inUse = true →
    (w.world.system.slot (p.1, i)).parent ≠ some p.2))

instance decidableStepOk (w : ListenWorld H) : (action : MagiAction H) → Decidable (w.StepOk action)
  | .listen sockfd =>
      inferInstanceAs (Decidable (∀ target ∈ w.world.system.allocTarget sockfd,
        w.Childless target.2 ∧ ∀ d, d ≠ target.1 → ¬ (w.world.system.sockets d).ListensAt target.2))
  | .connect sockfd _ _ =>
      inferInstanceAs (Decidable (∀ target ∈ w.world.system.allocTarget sockfd,
        (w.world.system.sockets target.1).isListening = true → w.Childless target.2))
  | .socket _ _ | .attachHost _ _ | .bind _ _ _ | .accept _ | .connectReturn | .send _ _ | .recv _ _
  | .close _ | .closeReturn _ | .arrive _ _ _ _ => isTrue trivial

instance decidableRunOk (w : ListenWorld H) :
    (actions : List (MagiAction H)) → Decidable (w.RunOk actions)
  | [] => isTrue trivial
  | action :: rest =>
      have := decidableRunOk (w.step action) rest
      inferInstanceAs (Decidable (w.StepOk action ∧ (w.step action).RunOk rest))

end Decidability

end ListenWorld

/-! ## Descriptors -/

omit [DecidableEq H] in
/-- Descriptors of one step are those before, apart from one that refers to no other slot than before. -/
theorem MagiSocket.listensAt_update {sockets : Fin magiSocketMaxSockets → MagiSocket H}
    {a d : Fin magiSocketMaxSockets} {sock : MagiSocket H} {p : SlotPtr H}
    (hsock : sock.ListensAt p → (sockets a).ListensAt p)
    (h : (Function.update sockets a sock d).ListensAt p) : (sockets d).ListensAt p := by
  by_cases hd : d = a
  · rw [hd, Function.update_self] at h
    rw [hd]
    exact hsock h
  · rwa [Function.update_of_ne hd] at h

omit [DecidableEq H] in
/-- A descriptor without a slot listens at none. -/
theorem MagiSocket.not_listensAt {sock : MagiSocket H} {p : SlotPtr H} (h : sock.tcpSock = none) :
    ¬ sock.ListensAt p := by
  intro hlistens
  cases h.symm.trans hlistens.2.2

omit [DecidableEq H] in
theorem magiSocket_listensAt {s : MagiSystem H} {domain type : Int} {d : Fin magiSocketMaxSockets}
    {p : SlotPtr H} (h : ((magiSocket s domain type).2.sockets d).ListensAt p) :
    (s.sockets d).ListensAt p := by
  obtain heq | ⟨a, sock, -, htcp, heq | ⟨heq, -⟩⟩ := magiSocket_cases s domain type
  · rwa [heq] at h
  all_goals
    rw [heq] at h
    exact MagiSocket.listensAt_update (fun hsock => absurd hsock (MagiSocket.not_listensAt htcp)) h

theorem magiAccept_listensAt {s : MagiSystem H} {sockfd : Int} {d : Fin magiSocketMaxSockets}
    {p : SlotPtr H} (h : ((magiAccept s sockfd).2.sockets d).ListensAt p) :
    (s.sockets d).ListensAt p := by
  obtain ⟨heq, -⟩ | ⟨conn, child, -, -, heq⟩ := MagiSystem.magiAccept_cases s sockfd
  · rwa [heq] at h
  · rw [heq] at h
    exact MagiSocket.listensAt_update (fun hsock => absurd hsock.2.1 Bool.false_ne_true) h

theorem magiConnectEnd_listensAt {s : MagiSystem H} {a d : Fin magiSocketMaxSockets} {p : SlotPtr H}
    (h : ((magiConnectEnd s a).sockets d).ListensAt p) : (s.sockets d).ListensAt p := by
  rw [magiConnectEnd] at h
  split at h
  · exact h
  · split at h
    · exact MagiSocket.listensAt_update (fun hsock => absurd hsock (MagiSocket.not_listensAt rfl)) h
    · exact h

theorem magiSend_listensAt {s : MagiSystem H} {sockfd : Int} {data : List UInt8}
    {d : Fin magiSocketMaxSockets} {p : SlotPtr H}
    (h : ((magiSend s sockfd data).sockets d).ListensAt p) : (s.sockets d).ListensAt p := by
  obtain heq | ⟨q, socket, heq, -⟩ := magiSend_slot s sockfd data
  all_goals
    rw [heq] at h
    exact h

theorem magiRecv_listensAt {s : MagiSystem H} {sockfd : Int} {bufsize : Nat}
    {d : Fin magiSocketMaxSockets} {p : SlotPtr H}
    (h : ((magiRecv s sockfd bufsize).2.sockets d).ListensAt p) : (s.sockets d).ListensAt p := by
  obtain heq | ⟨q, socket, heq, -⟩ := magiRecv_slot s sockfd bufsize
  all_goals
    rw [heq] at h
    exact h

theorem magiCloseBegin_listensAt {s : MagiSystem H} {sockfd : Int} {d : Fin magiSocketMaxSockets}
    {p : SlotPtr H} (h : ((magiCloseBegin s sockfd).2.sockets d).ListensAt p) :
    (s.sockets d).ListensAt p := by
  have hzero : ∀ a, (Function.update s.sockets a magiSocketZero d).ListensAt p →
      (s.sockets d).ListensAt p := fun a =>
    MagiSocket.listensAt_update fun hsock => absurd hsock (MagiSocket.not_listensAt rfl)
  rw [magiCloseBegin] at h
  split at h
  · exact h
  · split at h
    · dsimp only at h
      split at h
      · exact h
      · exact hzero _ h
    · exact hzero _ h

theorem magiConnectBegin_listensAt {s : MagiSystem H} {sockfd : Int} {ip : IpAddress} {port : UInt16}
    {d : Fin magiSocketMaxSockets} {p : SlotPtr H}
    (h : ((magiConnectBegin s sockfd ip port).2.sockets d).ListensAt p) :
    (s.sockets d).ListensAt p ∨
      s.allocTarget sockfd = some (d, p) ∧ (s.sockets d).isListening = true := by
  cases htarget : s.allocTarget sockfd with
  | none =>
      rw [magiConnectBegin, htarget] at h
      exact Or.inl h
  | some target =>
      obtain ⟨a, q⟩ := target
      obtain ⟨hosts, -, heq | heq⟩ := magiConnectBegin_cases ip port htarget
      · rw [heq] at h
        exact Or.inl (MagiSocket.listensAt_update
          (fun hsock => absurd hsock (MagiSocket.not_listensAt rfl)) h)
      · rw [heq] at h
        by_cases hd : d = a
        · refine Or.inr ?_
          subst hd
          simp only [MagiSystem.setSocket, Function.update_self] at h
          obtain ⟨-, hlistening, htcp⟩ := h
          exact ⟨by rw [Option.some.inj htcp], hlistening⟩
        · refine Or.inl ?_
          simpa only [MagiSystem.setSocket, Function.update_of_ne hd] using h

/-- After a step other than `magi_listen` a descriptor listens where it did before, or at the slot that
`magi_connect` took on it. -/
theorem MagiWorld.listensAt_step {w : MagiWorld H} {action : MagiAction H}
    {d : Fin magiSocketMaxSockets} {p : SlotPtr H} (hlisten : ∀ sockfd, action ≠ .listen sockfd)
    (h : ((w.step action).system.sockets d).ListensAt p) :
    (w.system.sockets d).ListensAt p ∨ ∃ sockfd ip port, action = .connect sockfd ip port ∧
      w.system.allocTarget sockfd = some (d, p) ∧ (w.system.sockets d).isListening = true := by
  -- `magi_connect` does not look at `is_listening`: it can give a listening descriptor a slot.
  cases action with
  | socket domain type =>
      rw [step_socket_system] at h
      exact Or.inl (magiSocket_listensAt h)
  | attachHost sockfd host =>
      refine Or.inl ?_
      simp only [step, magiSocketAttachHost] at h
      split at h
      · refine MagiSocket.listensAt_update ?_ h
        exact id
      · exact h
  | bind sockfd ip port =>
      refine Or.inl ?_
      simp only [step, magiBind] at h
      split at h
      · exact h
      · refine MagiSocket.listensAt_update ?_ h
        exact id
  | listen sockfd => exact absurd rfl (hlisten sockfd)
  | accept sockfd =>
      rw [step_accept_system] at h
      exact Or.inl (magiAccept_listensAt h)
  | connect sockfd ip port =>
      rw [step_connect_system] at h
      exact (magiConnectBegin_listensAt h).imp_right fun hnew => ⟨sockfd, ip, port, rfl, hnew⟩
  | connectReturn =>
      refine Or.inl ?_
      simp only [step] at h
      split at h
      · exact magiConnectEnd_listensAt h
      · exact h
  | send sockfd data => exact Or.inl (magiSend_listensAt h)
  | recv sockfd bufsize => exact Or.inl (magiRecv_listensAt h)
  | close sockfd =>
      rw [step_close_system] at h
      exact Or.inl (magiCloseBegin_listensAt h)
  | closeReturn sent =>
      refine Or.inl ?_
      simp only [step] at h
      split at h
      · simp only [magiCloseEnd] at h
        split at h
        · exact MagiSocket.listensAt_update
            (fun hsock => absurd hsock (MagiSocket.not_listensAt rfl)) h
        · exact h
      · exact h
  | arrive host segment srcIp dstIp => exact Or.inl h

/-! ## Slots that are taken -/

section Listen

variable {w : MagiWorld H} {sockfd : Int} {a : Fin magiSocketMaxSockets} {q : SlotPtr H}
  (htarget : w.system.allocTarget sockfd = some (a, q))
include htarget

/-- The slot that `magi_listen` takes listens on the address and the port of the descriptor. -/
theorem MagiWorld.listen_slot : (w.step (.listen sockfd)).system.slot q =
    tcpSocketListen tcpSocketAllocated (w.system.sockets a).localIp (w.system.sockets a).localPort := by
  rw [step_listen_system]
  simp only [magiListen, htarget]
  exact (MagiSystem.slot_setSlot _ _ _ _).trans (if_pos rfl)

theorem MagiWorld.listen_gen : (w.step (.listen sockfd)).gen q = w.gen q + 1 := by
  simp only [step, htarget]
  exact Owned.bump_self w.gen q

omit [DecidableEq H] in
/-- It hands out no other slot. -/
theorem MagiWorld.listen_handsOut {p : SlotPtr H} (h : w.HandsOut (.listen sockfd) p) : p = q := by
  obtain ⟨d, hd⟩ := h
  rw [htarget] at hd
  exact (congrArg Prod.snd (Option.some.inj hd)).symm

/-- The descriptor listens at the slot. -/
theorem MagiWorld.listen_self {p : SlotPtr H}
    (h : ((w.step (.listen sockfd)).system.sockets a).ListensAt p) : p = q := by
  simp only [step, magiListen, htarget, MagiSystem.setSocket, Function.update_self] at h
  exact (Option.some.inj h.2.2).symm

/-- The others listen where they did. -/
theorem MagiWorld.listen_others {d : Fin magiSocketMaxSockets} (hd : d ≠ a) {p : SlotPtr H}
    (h : ((w.step (.listen sockfd)).system.sockets d).ListensAt p) :
    (w.system.sockets d).ListensAt p := by
  simp only [step, magiListen, htarget, MagiSystem.setSocket, Function.update_of_ne hd] at h
  exact h

end Listen

/-- The slot that `magi_connect` takes has no parent and does not listen. -/
theorem magiConnectBegin_taken {s : MagiSystem H} {sockfd : Int} (ip : IpAddress) (port : UInt16)
    {d : Fin magiSocketMaxSockets} {p : SlotPtr H} (h : s.allocTarget sockfd = some (d, p)) :
    ((magiConnectBegin s sockfd ip port).2.slot p).parent = none ∧
      ((magiConnectBegin s sockfd ip port).2.slot p).isListening = false := by
  simp only [magiConnectBegin, h]
  generalize hostSelectTcpSourcePort ((s.setSlot p tcpSocketAllocated).hosts p.1) ip port
    (if 63535 < port then 49152 else port + 2000) = selected
  obtain ⟨srcPort, host⟩ := selected
  split
  · have hslot : ((s.setSlot p tcpSocketFree).setSocket d
        { s.sockets d with remoteIp := ip, remotePort := port, tcpSock := none }).slot p =
        tcpSocketFree := (MagiSystem.slot_setSlot s p p tcpSocketFree).trans (if_pos rfl)
    rw [hslot]
    exact ⟨rfl, rfl⟩
  · simp only [MagiSystem.setSocket, MagiSystem.slot, MagiSystem.setSlot, Function.update_self]
    exact ⟨rfl, rfl⟩

/-- The child of a segment is freed, or as `host_receive` set it up for its listener. -/
theorem MagiWorld.childSlot_spec {w : MagiWorld H} {host : H} {segment : TcpSegment}
    {srcIp dstIp : IpAddress} {p : SlotPtr H}
    (h : w.childSlot host segment srcIp dstIp = some p) :
    ∃ listener, p.1 = host ∧
      tcpListenerOf (w.system.hosts host).tcpSockets (w.system.hosts host).ipAddress segment srcIp
        dstIp = some listener ∧
      (w.system.slot (host, listener)).inUse = true ∧
      (w.system.slot (host, listener)).isListening = true ∧
      (w.system.slot (host, listener)).localPort = segment.dstPort ∧
      (((w.step (.arrive host segment srcIp dstIp)).system.slot p).fixed =
          (tcpChildSocket listener (w.system.slot (host, listener)).localIp segment srcIp).fixed ∨
        (w.step (.arrive host segment srcIp dstIp)).system.slot p = tcpSocketFree) := by
  rw [childSlot, Option.map_eq_some_iff] at h
  obtain ⟨child, hchild, rfl⟩ := h
  obtain ⟨listener, hlistener, huse, hlistening, -, hport, heq⟩ := tcpChildSlot_listener hchild
  refine ⟨listener, rfl, hlistener, huse, hlistening, hport, ?_⟩
  have hslot : (w.step (.arrive host segment srcIp dstIp)).system.slot (host, child) =
      (tcpSocketReceiveSegment (tcpChildSocket listener
        ((w.system.hosts host).tcpSockets listener).localIp segment srcIp) segment srcIp dstIp
        tcpInit).socket := by
    simp only [step, magiArrive, MagiSystem.slot, Function.update_self, heq]
  rw [hslot]
  exact tcpSocketReceiveSegment_fixed _ segment srcIp dstIp tcpInit

namespace ListenWorld

/-! ## The invariant -/

/-- What holds in every state of a run that meets the condition, of each listening descriptor: the children
of its slot are its own, and its slot listens for it if it listens at all. -/
structure Listens (w : ListenWorld H) : Prop where
  children : ∀ d p i, (w.world.system.sockets d).ListensAt p →
    (w.world.system.slot (p.1, i)).inUse = true →
    (w.world.system.slot (p.1, i)).parent = some p.2 →
    ∃ listener, w.listened d = some listener ∧ w.ChildOf (p.1, i) listener
  listener : ∀ d p, (w.world.system.sockets d).ListensAt p →
    (w.world.system.slot p).inUse = true → (w.world.system.slot p).isListening = true →
    ∃ listener, w.listened d = some listener ∧ listener.connection = (p, w.world.gen p) ∧
      (w.world.system.slot p).localIp = listener.localIp ∧
      (w.world.system.slot p).localPort = listener.localPort

omit [DecidableEq H] in
theorem listens_initial (hosts : H → IpAddress) : (initial hosts).Listens where
  children := fun _ _ _ h => nomatch h.1
  listener := fun _ _ h => nomatch h.1

/-- A child whose slot is neither handed out nor freed remains a child. -/
theorem ChildOf.step {w : ListenWorld H} {action : MagiAction H} {p : SlotPtr H}
    {listener : ListenRecord H} (h : w.ChildOf p listener)
    (hgen : (w.world.step action).gen p = w.world.gen p)
    (hkept : SlotKept (w.world.system.slot p) ((w.world.step action).system.slot p)) :
    (w.step action).ChildOf p listener := by
  refine ⟨?_, hkept.localIp.trans h.localIp, hkept.localPort.trans h.localPort⟩
  have horigin := h.origin
  change w.originAfter action (p, (w.world.step action).gen p) = some listener.connection
  rw [hgen]
  cases action
  case arrive host segment srcIp dstIp =>
    rw [originAfter]
    cases hchild : w.world.childSlot host segment srcIp dstIp with
    | none => exact horigin
    | some child =>
        -- The child of this segment has a new generation.
        refine (Function.update_of_ne ?_ _ _).trans horigin
        intro heq
        obtain ⟨rfl, hcount⟩ := Prod.mk.inj heq
        omega
  all_goals exact horigin

/-- The slots in use with a parent, after a step other than the one that makes the child. -/
theorem children_step {w : ListenWorld H} (h : w.Listens) {action : MagiAction H}
    {d : Fin magiSocketMaxSockets} {p : SlotPtr H} {i : Fin tcpMaxSockets}
    (hlistens : (w.world.system.sockets d).ListensAt p)
    (hlistened : w.listenedAfter action d = w.listened d)
    (hstays : (w.world.step action).gen (p.1, i) = w.world.gen (p.1, i) ∧
      SlotStays (w.world.system.slot (p.1, i)) ((w.world.step action).system.slot (p.1, i)))
    (huse : ((w.world.step action).system.slot (p.1, i)).inUse = true)
    (hparent : ((w.world.step action).system.slot (p.1, i)).parent = some p.2) :
    ∃ listener, (w.step action).listened d = some listener ∧
      (w.step action).ChildOf (p.1, i) listener := by
  have hkept := hstays.2.kept huse
  obtain ⟨listener, hknown, hchild⟩ := h.children d p i hlistens (hkept.inUse.symm.trans huse)
    (hkept.parent.symm.trans hparent)
  exact ⟨listener, hlistened.trans hknown, hchild.step hstays.1 hkept⟩

/-- A listener whose slot is not handed out stays the one its descriptor listened on. -/
theorem listener_step {w : ListenWorld H} (h : w.Listens) {action : MagiAction H}
    {d : Fin magiSocketMaxSockets} {p : SlotPtr H}
    (hlistens : (w.world.system.sockets d).ListensAt p)
    (hlistened : w.listenedAfter action d = w.listened d)
    (hstays : (w.world.step action).gen p = w.world.gen p ∧
      SlotStays (w.world.system.slot p) ((w.world.step action).system.slot p))
    (huse : ((w.world.step action).system.slot p).inUse = true)
    (hlistening : ((w.world.step action).system.slot p).isListening = true) :
    ∃ listener, (w.step action).listened d = some listener ∧
      listener.connection = (p, (w.step action).world.gen p) ∧
      ((w.step action).world.system.slot p).localIp = listener.localIp ∧
      ((w.step action).world.system.slot p).localPort = listener.localPort := by
  have hkept := hstays.2.kept huse
  obtain ⟨listener, hknown, hconnection, hlocalIp, hlocalPort⟩ := h.listener d p hlistens
    (hkept.inUse.symm.trans huse) (hkept.isListening.symm.trans hlistening)
  refine ⟨listener, hlistened.trans hknown, ?_, hkept.localIp.trans hlocalIp,
    hkept.localPort.trans hlocalPort⟩
  rw [hconnection]
  exact congrArg (Prod.mk p) hstays.1.symm

/-- A slot that is not handed out stays. -/
theorem stays_of_not_handsOut (w : ListenWorld H) {action : MagiAction H} {p : SlotPtr H}
    (h : ¬ w.world.HandsOut action p) :
    (w.world.step action).gen p = w.world.gen p ∧
      SlotStays (w.world.system.slot p) ((w.world.step action).system.slot p) :=
  (w.world.slotStep action p).resolve_left fun hout => h hout.1

theorem listens_listen {w : ListenWorld H} (h : w.Listens) {sockfd : Int}
    (hok : w.StepOk (.listen sockfd)) : (w.step (.listen sockfd)).Listens := by
  cases htarget : w.world.system.allocTarget sockfd with
  | none =>
      have hsame : w.step (.listen sockfd) = w := by
        simp only [step, MagiWorld.step, listenedAfter, originAfter, htarget]
      rwa [hsame]
  | some target =>
      obtain ⟨a, q⟩ := target
      obtain ⟨hchildless, hothers⟩ := hok (a, q) htarget
      have hslotq := MagiWorld.listen_slot htarget
      have hout : ∀ p, p ≠ q → ¬ w.world.HandsOut (.listen sockfd) p := fun p hp hhands =>
        hp (MagiWorld.listen_handsOut htarget hhands)
      have hlistened : ∀ d, d ≠ a → w.listenedAfter (.listen sockfd) d = w.listened d := by
        intro d hd
        simp only [listenedAfter, htarget, Function.update_of_ne hd]
      refine ⟨fun d p i hlistens huse hparent => ?_, fun d p hlistens huse hlistening => ?_⟩
      · have hne : ((p.1, i) : SlotPtr H) ≠ q := by
          rintro rfl
          change ((w.world.step (.listen sockfd)).system.slot (p.1, i)).parent = some p.2 at hparent
          rw [hslotq] at hparent
          cases hparent
        by_cases hd : d = a
        · -- Nobody is a child of the new listener yet.
          obtain rfl := MagiWorld.listen_self htarget (hd ▸ hlistens)
          have hkept := (w.stays_of_not_handsOut (hout _ hne)).2.kept huse
          refine absurd (hkept.parent.symm.trans hparent)
            (hchildless i ?_ (hkept.inUse.symm.trans huse))
          rintro rfl
          exact hne rfl
        · exact children_step h (MagiWorld.listen_others htarget hd hlistens) (hlistened d hd)
            (w.stays_of_not_handsOut (hout _ hne)) huse hparent
      · by_cases hd : d = a
        · obtain rfl := MagiWorld.listen_self htarget (hd ▸ hlistens)
          refine ⟨⟨(p, w.world.gen p + 1), (w.world.system.sockets a).localIp,
            (w.world.system.sockets a).localPort⟩, ?_, ?_, ?_, ?_⟩
          · rw [hd]
            simp only [step, listenedAfter, htarget, Function.update_self]
          · exact congrArg (Prod.mk p) (MagiWorld.listen_gen htarget).symm
          · exact congrArg TcpSocket.localIp hslotq
          · exact congrArg TcpSocket.localPort hslotq
        · have hbefore := MagiWorld.listen_others htarget hd hlistens
          have hne : p ≠ q := by
            rintro rfl
            exact hothers d hd hbefore
          exact listener_step h hbefore (hlistened d hd) (w.stays_of_not_handsOut (hout p hne)) huse
            hlistening

theorem listens_connect {w : ListenWorld H} (h : w.Listens) {sockfd : Int} {ip : IpAddress}
    {port : UInt16} (hok : w.StepOk (.connect sockfd ip port)) :
    (w.step (.connect sockfd ip port)).Listens := by
  -- The slot that is taken is no child, and listens no more.
  have htaken : ∀ p, w.world.HandsOut (.connect sockfd ip port) p →
      ((w.world.step (.connect sockfd ip port)).system.slot p).parent = none ∧
        ((w.world.step (.connect sockfd ip port)).system.slot p).isListening = false := by
    rintro p ⟨a, htarget⟩
    rw [MagiWorld.step_connect_system]
    exact magiConnectBegin_taken ip port htarget
  have hdescriptor := fun d p hlistens =>
    @MagiWorld.listensAt_step H _ w.world (.connect sockfd ip port) d p (fun _ => nofun) hlistens
  refine ⟨fun d p i hlistens huse hparent => ?_, fun d p hlistens huse hlistening => ?_⟩
  · have hstays := w.stays_of_not_handsOut fun hout => by
      cases (htaken _ hout).1.symm.trans hparent
    obtain hbefore | ⟨sockfd', ip', port', heq, htarget, hlistening⟩ := hdescriptor d p hlistens
    · exact children_step h hbefore rfl hstays huse hparent
    · cases heq
      have hkept := hstays.2.kept huse
      refine absurd (hkept.parent.symm.trans hparent)
        (hok (d, p) htarget hlistening i ?_ (hkept.inUse.symm.trans huse))
      rintro rfl
      cases (htaken p ⟨d, htarget⟩).1.symm.trans hparent
  · have hstays := w.stays_of_not_handsOut fun hout => by
      cases (htaken _ hout).2.symm.trans hlistening
    obtain hbefore | ⟨sockfd', ip', port', heq, htarget, -⟩ := hdescriptor d p hlistens
    · exact listener_step h hbefore rfl hstays huse hlistening
    · cases heq
      cases (htaken p ⟨d, htarget⟩).2.symm.trans hlistening

theorem listens_arrive {w : ListenWorld H} (h : w.Listens) (host : H) (segment : TcpSegment)
    (srcIp dstIp : IpAddress) : (w.step (.arrive host segment srcIp dstIp)).Listens := by
  refine ⟨fun d p i hlistens huse hparent => ?_, fun d p hlistens huse hlistening => ?_⟩
  · by_cases hchild : w.world.childSlot host segment srcIp dstIp = some (p.1, i)
    · obtain ⟨listener, hhost, hlistener, huseL, hlisteningL, hport, hfixed | hfree⟩ :=
        MagiWorld.childSlot_spec hchild
      · -- The parent is the listener the segment arrived at, and `d` listens there.
        have hsame : p.2 = listener := by
          have hparent' := (congrArg Prod.snd hfixed).symm.trans hparent
          exact (Option.some.inj hparent').symm
        have hp : p = (host, listener) := Prod.ext hhost hsame
        subst hp
        obtain ⟨known, hknown, hconnection, hip, hlocalPort⟩ :=
          h.listener d (host, listener) hlistens huseL hlisteningL
        refine ⟨known, hknown, ?_, ?_, ?_⟩
        · change w.originAfter (.arrive host segment srcIp dstIp) ((host, i),
            (w.world.step (.arrive host segment srcIp dstIp)).gen (host, i)) = some known.connection
          have hgen : (w.world.step (.arrive host segment srcIp dstIp)).gen (host, i) =
              w.world.gen (host, i) + 1 := by
            rw [MagiWorld.step, hchild]
            exact MagiWorld.Owned.bump_self w.world.gen _
          rw [hgen, originAfter, hchild, hlistener, hconnection]
          exact Function.update_self _ _ _
        · exact (congrArg (fun fields => fields.1.2.2.1) hfixed).trans hip
        · refine (congrArg (fun fields => fields.1.2.2.2.1) hfixed).trans ?_
          exact hport.symm.trans hlocalPort
      · rw [show (w.step (.arrive host segment srcIp dstIp)).world.system.slot (p.1, i) =
          tcpSocketFree from hfree] at huse
        cases huse
    · exact children_step h hlistens rfl (w.stays_of_not_handsOut hchild) huse hparent
  · have hnot : w.world.childSlot host segment srcIp dstIp ≠ some p := by
      intro hchild
      obtain ⟨listener, -, -, -, -, -, hfixed | hfree⟩ := MagiWorld.childSlot_spec hchild
      · cases (congrArg (fun fields => fields.1.2.1) hfixed).symm.trans hlistening
      · rw [show (w.step (.arrive host segment srcIp dstIp)).world.system.slot p = tcpSocketFree from
          hfree] at hlistening
        cases hlistening
    exact listener_step h hlistens rfl (w.stays_of_not_handsOut hnot) huse hlistening

/-- A step that hands out no slot. -/
theorem listens_other {w : ListenWorld H} (h : w.Listens) {action : MagiAction H}
    (hout : ∀ p, ¬ w.world.HandsOut action p) (hlistened : w.listenedAfter action = w.listened)
    (hdescriptor : ∀ d p, ((w.world.step action).system.sockets d).ListensAt p →
      (w.world.system.sockets d).ListensAt p) : (w.step action).Listens := by
  refine ⟨fun d p i hlistens huse hparent => ?_, fun d p hlistens huse hlistening => ?_⟩
  · exact children_step h (hdescriptor d p hlistens) (congrFun hlistened d)
      (w.stays_of_not_handsOut (hout _)) huse hparent
  · exact listener_step h (hdescriptor d p hlistens) (congrFun hlistened d)
      (w.stays_of_not_handsOut (hout p)) huse hlistening

/-- A step that meets the condition keeps the invariant. -/
theorem listens_step {w : ListenWorld H} (h : w.Listens) {action : MagiAction H}
    (hok : w.StepOk action) : (w.step action).Listens := by
  cases action
  case listen sockfd => exact listens_listen h hok
  case connect sockfd ip port => exact listens_connect h hok
  case arrive host segment srcIp dstIp => exact listens_arrive h host segment srcIp dstIp
  all_goals
    refine listens_other h (fun p hout => hout) rfl fun d p hlistens => ?_
    obtain hbefore | ⟨_, _, _, heq, -⟩ := MagiWorld.listensAt_step (fun _ heq => by cases heq) hlistens
    · exact hbefore
    · cases heq

theorem listens_run {w : ListenWorld H} (h : w.Listens) {actions : List (MagiAction H)}
    (hok : w.RunOk actions) : (w.run actions).Listens := by
  induction actions generalizing w with
  | nil => exact h
  | cons action rest ih => exact ih (listens_step h hok.1) hok.2

/-- `magi_accept` on a descriptor that listens in its own slot. -/
theorem Listens.acceptsOwn {w : ListenWorld H} (h : w.Listens) : w.AcceptsOwn := by
  intro sockfd conn child s haccept
  obtain ⟨heq, -⟩ | ⟨conn', child', hpending, -, heq⟩ :=
    MagiSystem.magiAccept_cases w.world.system sockfd
  · rw [heq] at haccept
    cases haccept
  · rw [heq] at haccept
    obtain ⟨hreturned, rfl⟩ := Prod.mk.inj haccept
    obtain ⟨rfl, rfl⟩ := Prod.mk.inj (Option.some.inj hreturned)
    refine ⟨?_, ?_⟩
    · simp only [MagiSystem.setSocket, Function.update_self]
      rfl
    · rw [magiPendingChild] at hpending
      cases hlookup : w.world.system.lookup sockfd with
      | none =>
          rw [hlookup] at hpending
          cases hpending
      | some d =>
          rw [hlookup] at hpending
          simp only at hpending
          split at hpending
          · rename_i p host hlistening htcp hhost
            -- The slot's `parent` is the slot the descriptor listens at.
            obtain ⟨i, hi, rfl⟩ := Option.map_eq_some_iff.mp hpending
            have hfound := tcpFirstSlot_eq_some hi
            simp only [Bool.and_eq_true, beq_iff_eq, Option.map_eq_some_iff] at hfound
            obtain ⟨⟨huse, parent, hparent, hp⟩, -⟩ := hfound
            have hlistens : (w.world.system.sockets d).ListensAt p :=
              ⟨MagiSystem.inUse_of_lookup hlookup, hlistening, htcp⟩
            rw [← hp] at hlistens
            obtain ⟨listener, hknown, hchild⟩ := h.children d (host, parent) i hlistens huse hparent
            exact ⟨d, listener, rfl, hknown, hchild⟩
          · cases hpending

end ListenWorld

/-- In every run whose steps all meet the condition, `magi_accept` returns only connections of its own
listener. -/
theorem magiAccept_ownConnections (hosts : H → IpAddress) (actions : List (MagiAction H))
    (hok : (ListenWorld.initial hosts).RunOk actions) :
    ((ListenWorld.initial hosts).run actions).AcceptsOwn :=
  (ListenWorld.listens_run (ListenWorld.listens_initial hosts) hok).acceptsOwn

/-- The connection of a client waits at the listener. -/
theorem magiAccept_ownConnections_served :
    (magiAccept ((ListenWorld.initial fun _ => serverIp).run serveClient).world.system 0).1 =
        some (1, ((), 1)) ∧
      ((ListenWorld.initial fun _ => serverIp).run serveClient).AcceptsOwn := by
  refine ⟨by decide +kernel, ?_⟩
  exact magiAccept_ownConnections (fun _ => serverIp) serveClient (by decide +kernel)

/-- The listener on port 80 is closed with a connection waiting; the one on port 81 takes its slot. -/
def reuseListener : List (MagiAction Unit) :=
  serveClient ++ [.close 0, .socket afInet sockStream, .attachHost 0 (some ()), .bind 0 serverIp 81,
    .listen 0]

/-- `magi_accept` on port 81 returns the connection to port 80. -/
theorem magiAccept_ownConnections_reused :
    ¬ ((ListenWorld.initial fun _ => serverIp).run reuseListener).AcceptsOwn := by
  intro h
  generalize hw : (ListenWorld.initial fun _ => serverIp).run reuseListener = w at h
  have haccept : (magiAccept w.world.system 0).1 = some (1, ((), 1)) := by
    rw [← hw]
    decide +kernel
  have hlistened : (w.listened 0).map ListenRecord.localPort = some 81 := by
    rw [← hw]
    decide +kernel
  have hport : (w.world.system.slot ((), 1)).localPort = 80 := by
    rw [← hw]
    decide +kernel
  have hlookup : w.world.system.lookup 0 = some 0 := by
    rw [← hw]
    decide +kernel
  obtain ⟨-, d, listener, hd, hknown, hchild⟩ :=
    h 0 1 ((), 1) (magiAccept w.world.system 0).2 (Prod.ext haccept rfl)
  obtain rfl := Option.some.inj (hlookup.symm.trans hd)
  rw [hknown, Option.map_some, ← hchild.localPort, hport] at hlistened
  cases hlistened

end MagiStack
