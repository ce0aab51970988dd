import MagiStack.Layer4.TcpAdvance
import MagiStack.Layer7.MagiSocket

/-!
# Ownership — which descriptor refers to which connection

A run interleaves the descriptor calls with arriving segments.  Calls nest: what `magi_connect` and
`magi_close` put on the wire is processed before they return.  Each slot carries the number of times
`tcp_socket_alloc` handed it out, so that a connection is a slot together with that number; each
descriptor carries the connection it was opened for, and the run the connections `magi_accept`
returned.  Under a condition on each step, no two descriptors share a slot, no connection is accepted
twice, and each descriptor keeps the connection it was opened for.
-/

namespace MagiStack

/-! ## Runs -/

/-- A pointer to a slot. -/
abbrev SlotPtr (H : Type*) : Type _ := H × Fin tcpMaxSockets

/-- A connection: a slot and the count of its allocations. -/
abbrev Connection (H : Type*) : Type _ := SlotPtr H × Nat

/-- A call that has sent its segment and not returned. -/
inductive MagiCall
  | connect (d : Fin magiSocketMaxSockets)
  | close (d : Fin magiSocketMaxSockets)
  deriving DecidableEq, Repr

def MagiCall.descriptor : MagiCall → Fin magiSocketMaxSockets
  | .connect d => d
  | .close d => d

/-- A system, its calls in progress (the innermost first), and its history. -/
structure MagiWorld (H : Type*) where
  system : MagiSystem H
  calls : List MagiCall
  gen : SlotPtr H → Nat
  opened : Fin magiSocketMaxSockets → Option (Connection H)
  accepted : List (Connection H)

inductive MagiAction (H : Type*)
  | socket (domain type : Int)
  | attachHost (sockfd : Int) (host : Option H)
  | bind (sockfd : Int) (ip : IpAddress) (port : UInt16)
  | listen (sockfd : Int)
  | accept (sockfd : Int)
  | connect (sockfd : Int) (ip : IpAddress) (port : UInt16)
  | connectReturn
  | send (sockfd : Int) (data : List UInt8)
  | recv (sockfd : Int) (bufsize : Nat)
  | close (sockfd : Int)
  | closeReturn (sent : Bool)
  | arrive (host : H) (segment : TcpSegment) (srcIp dstIp : IpAddress)

variable {H : Type*}

/-- The steps that can hand out a slot. -/
def MagiAction.takesSlot : MagiAction H → Bool
  | .listen _ | .connect _ _ _ | .arrive _ _ _ _ => true
  | _ => false

namespace MagiWorld

/-- One more allocation of a slot. -/
def bump [DecidableEq H] (gen : SlotPtr H → Nat) (p : SlotPtr H) : SlotPtr H → Nat :=
  Function.update gen p (gen p + 1)

/-- The child slot of a segment at a host. -/
def childSlot (w : MagiWorld H) (host : H) (segment : TcpSegment) (srcIp dstIp : IpAddress) :
    Option (SlotPtr H) :=
  (tcpChildSlot (w.system.hosts host).tcpSockets (w.system.hosts host).ipAddress segment srcIp
    dstIp).map fun slot => (host, slot)

def step [DecidableEq H] (w : MagiWorld H) : MagiAction H → MagiWorld H
  | .socket domain type =>
      match magiSocket w.system domain type with
      | (none, s) => { w with system := s }
      | (some d, s) => { w with system := s, opened := Function.update w.opened d none }
  | .attachHost sockfd host => { w with system := magiSocketAttachHost w.system sockfd host }
  | .bind sockfd ip port => { w with system := magiBind w.system sockfd ip port }
  | .listen sockfd =>
      match w.system.allocTarget sockfd with
      | none => w
      | some (d, p) =>
          { w with
            system := magiListen w.system sockfd
            gen := bump w.gen p
            opened := Function.update w.opened d ((w.opened d).or (some (p, w.gen p + 1))) }
  | .accept sockfd =>
      match magiAccept w.system sockfd with
      | (none, s) => { w with system := s }
      | (some (conn, child), s) =>
          { w with
            system := s
            opened := Function.update w.opened conn (some (child, w.gen child))
            accepted := (child, w.gen child) :: w.accepted }
  | .connect sockfd ip port =>
      match w.system.allocTarget sockfd with
      | none => w
      | some (d, p) =>
          match magiConnectBegin w.system sockfd ip port with
          | (none, s) => { w with system := s, gen := bump w.gen p }
          | (some _, s) =>
              { w with
                system := s
                calls := .connect d :: w.calls
                gen := bump w.gen p
                opened := Function.update w.opened d ((w.opened d).or (some (p, w.gen p + 1))) }
  | .connectReturn =>
      match w.calls with
      | .connect d :: rest =>
          let s := magiConnectEnd w.system d
          { w with
            system := s
            calls := rest
            opened :=
              if (s.sockets d).tcpSock.isNone then Function.update w.opened d none
              else w.opened }
      | _ => w
  | .send sockfd data => { w with system := magiSend w.system sockfd data }
  | .recv sockfd bufsize => { w with system := (magiRecv w.system sockfd bufsize).2 }
  | .close sockfd =>
      match magiCloseBegin w.system sockfd with
      | (none, s) => { w with system := s }
      | (some d, s) => { w with system := s, calls := .close d :: w.calls }
  | .closeReturn sent =>
      match w.calls with
      | .close d :: rest =>
          { w with system := magiCloseEnd w.system d sent, calls := rest }
      | _ => w
  | .arrive host segment srcIp dstIp =>
      { w with
        system := magiArrive w.system host segment srcIp dstIp
        gen := (w.childSlot host segment srcIp dstIp).elim w.gen (bump w.gen) }

/-- Every slot free, no descriptor in use. -/
def initial (hosts : H → IpAddress) : MagiWorld H :=
  { system :=
      { hosts := fun host =>
          { ipAddress := hosts host
            tcpSockets := fun _ => tcpSocketFree
            nextTcpSourcePort := 0 }
        sockets := fun _ => magiSocketZero }
    calls := []
    gen := fun _ => 0
    opened := fun _ => none
    accepted := [] }

def run [DecidableEq H] (w : MagiWorld H) (actions : List (MagiAction H)) : MagiWorld H :=
  actions.foldl step w

/-! ## The calls of a step -/

section Calls

variable [DecidableEq H] (w : MagiWorld H)

theorem step_socket_system (domain type : Int) :
    (w.step (.socket domain type)).system = (magiSocket w.system domain type).2 := by
  rw [step]
  split
  all_goals
    rename_i heq
    rw [heq]

theorem step_listen_system (sockfd : Int) :
    (w.step (.listen sockfd)).system = magiListen w.system sockfd := by
  cases htarget : w.system.allocTarget sockfd with
  | none => simp only [step, magiListen, htarget]
  | some target => simp only [step, htarget]

theorem step_accept_system (sockfd : Int) :
    (w.step (.accept sockfd)).system = (magiAccept w.system sockfd).2 := by
  rw [step]
  split
  all_goals
    rename_i heq
    rw [heq]

theorem step_connect_system (sockfd : Int) (ip : IpAddress) (port : UInt16) :
    (w.step (.connect sockfd ip port)).system = (magiConnectBegin w.system sockfd ip port).2 := by
  cases htarget : w.system.allocTarget sockfd with
  | none => simp only [step, magiConnectBegin, htarget]
  | some target =>
      simp only [step, htarget]
      split
      all_goals
        rename_i heq
        rw [heq]

theorem step_close_system (sockfd : Int) :
    (w.step (.close sockfd)).system = (magiCloseBegin w.system sockfd).2 := by
  rw [step]
  split
  all_goals
    rename_i heq
    rw [heq]

theorem step_gen {action : MagiAction H} (h : action.takesSlot = false) :
    (w.step action).gen = w.gen := by
  cases action with
  | listen | connect | arrive => cases h
  | attachHost | bind | send | recv => rfl
  | socket | accept | connectReturn | close | closeReturn =>
      rw [step]
      split
      all_goals rfl

end Calls

/-! ## The property and the condition -/

/-- The descriptor is in use and refers to the slot. -/
def Holds (w : MagiWorld H) (d : Fin magiSocketMaxSockets) (p : SlotPtr H) : Prop :=
  (w.system.sockets d).inUse = true ∧ (w.system.sockets d).tcpSock = some p

/-- No descriptor in use refers to the slot. -/
def Unheld (w : MagiWorld H) (p : SlotPtr H) : Prop :=
  ∀ d, ¬ w.Holds d p

/-- Descriptors own their connections. -/
structure DescriptorsOwn (w : MagiWorld H) : Prop where
  distinct : ∀ a b p, w.Holds a p → w.Holds b p → a = b
  acceptedOnce : w.accepted.Nodup
  own : ∀ d p, w.Holds d p → w.opened d = some (p, w.gen p)

/-- The condition on a step: a call that takes a slot is made on a descriptor that has none, a slot
that is handed out and a child that is accepted are held by no descriptor, and a descriptor is not
closed while its own `magi_connect` or `magi_close` is in progress. -/
def StepOk [DecidableEq H] (w : MagiWorld H) : MagiAction H → Prop
  | .listen sockfd | .connect sockfd _ _ =>
      ∀ target ∈ w.system.allocTarget sockfd,
        (w.system.sockets target.1).tcpSock = none ∧ w.Unheld target.2
  | .accept sockfd =>
      w.system.freeSocket.isSome = true →
        ∀ child ∈ magiPendingChild w.system sockfd, w.Unheld child
  | .close sockfd =>
      ∀ d ∈ w.system.lookup sockfd, d ∉ w.calls.map MagiCall.descriptor
  | .arrive host segment srcIp dstIp =>
      ∀ p ∈ w.childSlot host segment srcIp dstIp, w.Unheld p
  | _ => True

/-- Every step of the run meets the condition. -/
def RunOk [DecidableEq H] (w : MagiWorld H) : List (MagiAction H) → Prop
  | [] => True
  | action :: rest => w.StepOk action ∧ (w.step action).RunOk rest

section Decidability

variable [DecidableEq H]

instance (w : MagiWorld H) (d : Fin magiSocketMaxSockets) (p : SlotPtr H) :
    Decidable (w.Holds d p) :=
  inferInstanceAs (Decidable (_ ∧ _))

instance (w : MagiWorld H) (p : SlotPtr H) : Decidable (w.Unheld p) :=
  inferInstanceAs (Decidable (∀ d, ¬ w.Holds d p))

instance decidableStepOk (w : MagiWorld H) : (action : MagiAction H) → Decidable (w.StepOk action)
  | .listen sockfd | .connect sockfd _ _ =>
      inferInstanceAs (Decidable (∀ target ∈ w.system.allocTarget sockfd,
        (w.system.sockets target.1).tcpSock = none ∧ w.Unheld target.2))
  | .accept sockfd =>
      inferInstanceAs (Decidable (w.system.freeSocket.isSome = true →
        ∀ child ∈ magiPendingChild w.system sockfd, w.Unheld child))
  | .close sockfd =>
      inferInstanceAs (Decidable (∀ d ∈ w.system.lookup sockfd,
        d ∉ w.calls.map MagiCall.descriptor))
  | .arrive host segment srcIp dstIp =>
      inferInstanceAs (Decidable (∀ p ∈ w.childSlot host segment srcIp dstIp, w.Unheld p))
  | .socket _ _ | .attachHost _ _ | .bind _ _ _ | .connectReturn | .send _ _ | .recv _ _
  | .closeReturn _ => isTrue trivial

instance decidableRunOk (w : MagiWorld H) :
    (actions : List (MagiAction H)) → Decidable (w.RunOk actions)
  | [] => isTrue trivial
  | action :: rest =>
      have := decidableRunOk (w.step action) rest
      inferInstanceAs (Decidable (w.StepOk action ∧ (w.step action).RunOk rest))

end Decidability

/-! ## The invariant -/

/-- What holds in every state of a run that meets the condition. -/
structure Owned (w : MagiWorld H) : Prop extends w.DescriptorsOwn where
  unopened : ∀ d, (w.system.sockets d).inUse = true → (w.system.sockets d).tcpSock = none →
    w.opened d = none
  attached : ∀ d p, w.Holds d p →
    (w.system.sockets d).sockType = .tcp ∧ (w.system.sockets d).host.isSome = true
  acceptedGen : ∀ p n, (p, n) ∈ w.accepted → n ≤ w.gen p
  acceptedState : ∀ p, (p, w.gen p) ∈ w.accepted →
    (w.system.slot p).state.pastHandshake = true ∧
      ((w.system.slot p).state = .established → ∃ d, w.Holds d p)
  inCall : ∀ call ∈ w.calls, ∃ p, w.Holds call.descriptor p ∧
    (call = .close call.descriptor → (w.system.slot p).state.pastClose = true)
  callsDistinct : (w.calls.map MagiCall.descriptor).Nodup

theorem owned_initial (hosts : H → IpAddress) : (initial hosts).Owned where
  distinct := fun a b p h => by cases h.1
  acceptedOnce := List.nodup_nil
  own := fun d p h => by cases h.1
  unopened := fun _ _ _ => rfl
  attached := fun d p h => by cases h.1
  acceptedGen := fun p n h => by cases h
  acceptedState := fun p h => by cases h
  inCall := fun call h => by cases h
  callsDistinct := List.nodup_nil

namespace Owned

variable {w : MagiWorld H}

/-- Slots may advance, and slots no descriptor holds may be handed out anew. -/
theorem slots (h : w.Owned) {hosts : H → TcpHost} {gen : SlotPtr H → Nat}
    (hstep : ∀ p, gen p = w.gen p ∧
        StateAdvance (w.system.slot p).state ((hosts p.1).tcpSockets p.2).state ∨
      gen p = w.gen p + 1 ∧ w.Unheld p) :
    ({ w with system := { w.system with hosts := hosts }, gen := gen } : MagiWorld H).Owned where
  distinct := h.distinct
  acceptedOnce := h.acceptedOnce
  own := by
    intro d p hp
    rcases hstep p with ⟨hgen, -⟩ | ⟨-, hunheld⟩
    · change w.opened d = some (p, gen p)
      rw [hgen]
      exact h.own d p hp
    · exact absurd hp (hunheld d)
  unopened := h.unopened
  attached := h.attached
  acceptedGen := by
    intro p n hp
    have hle := h.acceptedGen p n hp
    change n ≤ gen p
    rcases hstep p with ⟨hgen, -⟩ | ⟨hgen, -⟩
    all_goals omega
  acceptedState := by
    intro p hp
    change (p, gen p) ∈ w.accepted at hp
    rcases hstep p with ⟨hgen, hadvance⟩ | ⟨hgen, -⟩
    · rw [hgen] at hp
      rcases h.acceptedState p hp with ⟨hpast, hheld⟩
      refine ⟨hadvance.pastHandshake hpast, ?_⟩
      intro hest
      exact hheld (hadvance.established hpast hest)
    · -- A generation that has just begun is accepted nowhere.
      rw [hgen] at hp
      have hle := h.acceptedGen p _ hp
      omega
  inCall := by
    intro call hcall
    rcases h.inCall call hcall with ⟨p, hp, hclose⟩
    refine ⟨p, hp, ?_⟩
    intro heq
    rcases hstep p with ⟨-, hadvance⟩ | ⟨-, hunheld⟩
    · exact hadvance.pastClose (hclose heq)
    · exact absurd hp (hunheld _)
  callsDistinct := h.callsDistinct

/-- A descriptor may change its addresses and its host. -/
theorem descriptor (h : w.Owned) (d : Fin magiSocketMaxSockets) {sock : MagiSocket H}
    (hinUse : sock.inUse = (w.system.sockets d).inUse)
    (htcp : sock.tcpSock = (w.system.sockets d).tcpSock)
    (htype : sock.sockType = (w.system.sockets d).sockType)
    (hhost : (w.system.sockets d).host.isSome = true → sock.host.isSome = true) :
    ({ w with system := w.system.setSocket d sock } : MagiWorld H).Owned := by
  -- The fields the invariant speaks of are the same on every descriptor.
  have hfields : ∀ a, ((w.system.setSocket d sock).sockets a).inUse =
        (w.system.sockets a).inUse ∧
      ((w.system.setSocket d sock).sockets a).tcpSock = (w.system.sockets a).tcpSock ∧
      ((w.system.setSocket d sock).sockets a).sockType = (w.system.sockets a).sockType ∧
      ((w.system.sockets a).host.isSome = true →
        ((w.system.setSocket d sock).sockets a).host.isSome = true) := by
    intro a
    by_cases ha : a = d
    · subst ha
      simp only [MagiSystem.setSocket, Function.update_self]
      exact ⟨hinUse, htcp, htype, hhost⟩
    · simp only [MagiSystem.setSocket, Function.update_of_ne ha]
      exact ⟨trivial, trivial, trivial, id⟩
  have hholds : ∀ a p,
      ({ w with system := w.system.setSocket d sock } : MagiWorld H).Holds a p ↔ w.Holds a p := by
    intro a p
    simp only [Holds, (hfields a).1, (hfields a).2.1]
  exact
    { distinct := by
        intro a b p ha hb
        exact h.distinct a b p ((hholds a p).mp ha) ((hholds b p).mp hb)
      acceptedOnce := h.acceptedOnce
      own := by
        intro a p ha
        exact h.own a p ((hholds a p).mp ha)
      unopened := by
        intro a ha hnone
        exact h.unopened a ((hfields a).1 ▸ ha) ((hfields a).2.1 ▸ hnone)
      attached := by
        intro a p ha
        rcases h.attached a p ((hholds a p).mp ha) with ⟨hsockType, hsome⟩
        exact ⟨(hfields a).2.2.1.trans hsockType, (hfields a).2.2.2 hsome⟩
      acceptedGen := h.acceptedGen
      acceptedState := by
        intro p hp
        rcases h.acceptedState p hp with ⟨hpast, hheld⟩
        refine ⟨hpast, fun hest => ?_⟩
        rcases hheld hest with ⟨a, ha⟩
        exact ⟨a, (hholds a p).mpr ha⟩
      inCall := by
        intro call hcall
        rcases h.inCall call hcall with ⟨p, hp, hclose⟩
        exact ⟨p, (hholds _ p).mpr hp, hclose⟩
      callsDistinct := h.callsDistinct }

/-- A descriptor without a slot may take one that no descriptor holds. -/
theorem attach (h : w.Owned) (d : Fin magiSocketMaxSockets) (p : SlotPtr H) (sock : MagiSocket H)
    {opened : Option (Connection H)} (hopened : opened = some (p, w.gen p))
    (hinUse : sock.inUse = true) (htcp : sock.tcpSock = some p) (htype : sock.sockType = .tcp)
    (hhost : sock.host.isSome = true) (hfree : (w.system.sockets d).tcpSock = none)
    (hunheld : w.Unheld p) :
    ({ w with
        system := w.system.setSocket d sock
        opened := Function.update w.opened d opened } : MagiWorld H).Owned := by
  subst hopened
  generalize hw' : ({ w with
        system := w.system.setSocket d sock
        opened := Function.update w.opened d (some (p, w.gen p)) } : MagiWorld H) = w'
  have hslot : ∀ q, w'.system.slot q = w.system.slot q := by
    intro q
    rw [← hw']
    rfl
  have hself : ∀ q, w'.Holds d q ↔ q = p := by
    intro q
    rw [← hw']
    simp only [Holds, MagiSystem.setSocket, Function.update_self, hinUse, htcp, true_and,
      Option.some.injEq]
    exact eq_comm
  have hother : ∀ a q, a ≠ d → (w'.Holds a q ↔ w.Holds a q) := by
    intro a q ha
    rw [← hw']
    simp only [Holds, MagiSystem.setSocket, Function.update_of_ne ha]
  -- The descriptor had no slot, so that nothing that was held is lost.
  have hkept : ∀ a q, w.Holds a q → w'.Holds a q := by
    intro a q hq
    have hne : a ≠ d := by
      rintro rfl
      cases hfree.symm.trans hq.2
    exact (hother a q hne).mpr hq
  exact
    { distinct := by
        intro a b q ha hb
        -- Only the descriptor itself holds the new slot, and it held none before.
        by_cases had : a = d
        · by_cases hbd : b = d
          · rw [had, hbd]
          · rw [had, hself] at ha
            subst ha
            exact absurd ((hother b q hbd).mp hb) (hunheld b)
        · by_cases hbd : b = d
          · rw [hbd, hself] at hb
            subst hb
            exact absurd ((hother a q had).mp ha) (hunheld a)
          · exact h.distinct a b q ((hother a q had).mp ha) ((hother b q hbd).mp hb)
      acceptedOnce := by
        rw [← hw']
        exact h.acceptedOnce
      own := by
        intro a q ha
        by_cases had : a = d
        · rw [had, hself] at ha
          rw [← hw', had, ha]
          exact Function.update_self d _ _
        · have hown := h.own a q ((hother a q had).mp ha)
          rw [← hw']
          exact (Function.update_of_ne had _ _).trans hown
      unopened := by
        intro a ha hnone
        by_cases had : a = d
        · have hheld : w'.Holds d p := (hself p).mpr rfl
          cases hheld.2.symm.trans (had ▸ hnone)
        · rw [← hw'] at ha hnone ⊢
          simp only [MagiSystem.setSocket, Function.update_of_ne had] at ha hnone ⊢
          exact h.unopened a ha hnone
      attached := by
        intro a q ha
        by_cases had : a = d
        · rw [← hw', had]
          simp only [MagiSystem.setSocket, Function.update_self]
          exact ⟨htype, hhost⟩
        · have hattached := h.attached a q ((hother a q had).mp ha)
          rw [← hw']
          simp only [MagiSystem.setSocket, Function.update_of_ne had]
          exact hattached
      acceptedGen := by
        rw [← hw']
        exact h.acceptedGen
      acceptedState := by
        intro q hq
        rw [← hw'] at hq
        rcases h.acceptedState q hq with ⟨hpast, hheld⟩
        rw [hslot]
        refine ⟨hpast, fun hest => ?_⟩
        rcases hheld hest with ⟨a, ha⟩
        exact ⟨a, hkept a q ha⟩
      inCall := by
        intro call hcall
        rw [← hw'] at hcall
        rcases h.inCall call hcall with ⟨q, hq, hclose⟩
        refine ⟨q, hkept _ q hq, ?_⟩
        rw [hslot]
        exact hclose
      callsDistinct := by
        rw [← hw']
        exact h.callsDistinct }

/-- A descriptor outside every call may drop its slot, unless the connection there is established. -/
theorem drop (h : w.Owned) (d : Fin magiSocketMaxSockets) (sock : MagiSocket H)
    (opened : Option (Connection H)) (htcp : sock.tcpSock = none)
    (hopened : sock.inUse = true → opened = none)
    (hcalls : d ∉ w.calls.map MagiCall.descriptor)
    (hstate : ∀ p, w.Holds d p → (w.system.slot p).state ≠ .established) :
    ({ w with
        system := w.system.setSocket d sock
        opened := Function.update w.opened d opened } : MagiWorld H).Owned := by
  generalize hw' : ({ w with
        system := w.system.setSocket d sock
        opened := Function.update w.opened d opened } : MagiWorld H) = w'
  have hslot : ∀ q, w'.system.slot q = w.system.slot q := by
    intro q
    rw [← hw']
    rfl
  have hholds : ∀ a q, w'.Holds a q ↔ a ≠ d ∧ w.Holds a q := by
    intro a q
    rw [← hw']
    by_cases had : a = d
    · simp only [Holds, MagiSystem.setSocket, had, Function.update_self, htcp, ne_eq,
        not_true_eq_false, false_and, reduceCtorEq, and_false]
    · simp only [Holds, MagiSystem.setSocket, Function.update_of_ne had, ne_eq, had,
        not_false_eq_true, true_and]
  exact
    { distinct := by
        intro a b q ha hb
        exact h.distinct a b q ((hholds a q).mp ha).2 ((hholds b q).mp hb).2
      acceptedOnce := by
        rw [← hw']
        exact h.acceptedOnce
      own := by
        intro a q ha
        rcases (hholds a q).mp ha with ⟨had, hq⟩
        have hown := h.own a q hq
        rw [← hw']
        exact (Function.update_of_ne had _ _).trans hown
      unopened := by
        intro a ha hnone
        by_cases had : a = d
        · rw [← hw', had] at ha ⊢
          simp only [MagiSystem.setSocket, Function.update_self] at ha ⊢
          exact hopened ha
        · rw [← hw'] at ha hnone ⊢
          simp only [MagiSystem.setSocket, Function.update_of_ne had] at ha hnone ⊢
          exact h.unopened a ha hnone
      attached := by
        intro a q ha
        rcases (hholds a q).mp ha with ⟨had, hq⟩
        have hattached := h.attached a q hq
        rw [← hw']
        simp only [MagiSystem.setSocket, Function.update_of_ne had]
        exact hattached
      acceptedGen := by
        rw [← hw']
        exact h.acceptedGen
      acceptedState := by
        intro q hq
        rw [← hw'] at hq
        rcases h.acceptedState q hq with ⟨hpast, hheld⟩
        rw [hslot]
        refine ⟨hpast, fun hest => ?_⟩
        rcases hheld hest with ⟨a, ha⟩
        -- The descriptor that keeps an established connection is not the one that drops.
        have had : a ≠ d := by
          rintro rfl
          exact hstate q ha hest
        exact ⟨a, (hholds a q).mpr ⟨had, ha⟩⟩
      inCall := by
        intro call hcall
        rw [← hw'] at hcall
        rcases h.inCall call hcall with ⟨q, hq, hclose⟩
        -- A call in progress keeps its descriptor, and this one is in none.
        have hne : call.descriptor ≠ d := by
          rintro rfl
          exact hcalls (List.mem_map_of_mem hcall)
        refine ⟨q, (hholds _ q).mpr ⟨hne, hq⟩, ?_⟩
        rw [hslot]
        exact hclose
      callsDistinct := by
        rw [← hw']
        exact h.callsDistinct }

/-- A call begins on a descriptor that is in none. -/
theorem push (h : w.Owned) (call : MagiCall) (p : SlotPtr H) (hp : w.Holds call.descriptor p)
    (hclose : call = .close call.descriptor → (w.system.slot p).state.pastClose = true)
    (hcalls : call.descriptor ∉ w.calls.map MagiCall.descriptor) :
    ({ w with calls := call :: w.calls } : MagiWorld H).Owned :=
  { h with
    inCall := by
      intro other hother
      rcases List.mem_cons.mp hother with rfl | hmem
      · exact ⟨p, hp, hclose⟩
      · exact h.inCall other hmem
    callsDistinct := List.nodup_cons.mpr ⟨hcalls, h.callsDistinct⟩ }

/-- The innermost call returns. -/
theorem pop (h : w.Owned) {call : MagiCall} {rest : List MagiCall} (hcalls : w.calls = call :: rest) :
    ({ w with calls := rest } : MagiWorld H).Owned ∧
      call.descriptor ∉ rest.map MagiCall.descriptor := by
  have hdistinct := h.callsDistinct
  rw [hcalls, List.map_cons, List.nodup_cons] at hdistinct
  refine ⟨{ h with inCall := ?_, callsDistinct := hdistinct.2 }, hdistinct.1⟩
  intro other hother
  exact h.inCall other (hcalls ▸ List.mem_cons_of_mem call hother)

/-- A connection past its handshake is accepted for the first time. -/
theorem record (h : w.Owned) {d : Fin magiSocketMaxSockets} {p : SlotPtr H} (hp : w.Holds d p)
    (hstate : (w.system.slot p).state.pastHandshake = true) (hnew : (p, w.gen p) ∉ w.accepted) :
    ({ w with accepted := (p, w.gen p) :: w.accepted } : MagiWorld H).Owned :=
  { h with
    acceptedOnce := List.nodup_cons.mpr ⟨hnew, h.acceptedOnce⟩
    acceptedGen := by
      intro q n hq
      rcases List.mem_cons.mp hq with heq | hmem
      · cases heq
        exact le_refl _
      · exact h.acceptedGen q n hmem
    acceptedState := by
      intro q hq
      rcases List.mem_cons.mp hq with heq | hmem
      · have hqp : q = p := congrArg Prod.fst heq
        subst hqp
        exact ⟨hstate, fun _ => ⟨d, hp⟩⟩
      · exact h.acceptedState q hmem }

/-! ## One step -/

/-- A descriptor that is not in use is in no call. -/
theorem not_inCall (h : w.Owned) {d : Fin magiSocketMaxSockets}
    (hfree : (w.system.sockets d).inUse = false) : d ∉ w.calls.map MagiCall.descriptor := by
  intro hmem
  rcases List.mem_map.mp hmem with ⟨call, hcall, rfl⟩
  rcases h.inCall call hcall with ⟨p, hp, -⟩
  cases hfree.symm.trans hp.1

/-- A free descriptor may be set up without a slot. -/
theorem dropFree (h : w.Owned) {d : Fin magiSocketMaxSockets} (sock : MagiSocket H)
    (opened : Option (Connection H)) (hfree : (w.system.sockets d).inUse = false)
    (htcp : sock.tcpSock = none) (hopened : sock.inUse = true → opened = none) :
    ({ w with
        system := w.system.setSocket d sock
        opened := Function.update w.opened d opened } : MagiWorld H).Owned := by
  refine h.drop d sock opened htcp hopened (h.not_inCall hfree) ?_
  intro p hp
  cases hfree.symm.trans hp.1

variable [DecidableEq H]

theorem bump_self (gen : SlotPtr H → Nat) (p : SlotPtr H) : bump gen p p = gen p + 1 :=
  Function.update_self p _ gen

theorem bump_of_ne (gen : SlotPtr H → Nat) {p q : SlotPtr H} (h : q ≠ p) : bump gen p q = gen q :=
  Function.update_of_ne h _ gen

/-- Handing out a slot that no descriptor holds changes nothing else. -/
theorem handOut (h : w.Owned) {p : SlotPtr H} (hosts : H → TcpHost) (hunheld : w.Unheld p)
    (hsame : ∀ q, q ≠ p → (hosts q.1).tcpSockets q.2 = w.system.slot q) :
    ({ w with system := { w.system with hosts := hosts }, gen := bump w.gen p } :
      MagiWorld H).Owned := by
  refine h.slots fun q => ?_
  by_cases hq : q = p
  · subst hq
    exact Or.inr ⟨bump_self w.gen q, hunheld⟩
  · refine Or.inl ⟨bump_of_ne w.gen hq, ?_⟩
    rw [hsame q hq]
    exact StateAdvance.refl _

/-- A slot's state may advance. -/
theorem setSlot (h : w.Owned) (p : SlotPtr H) (socket : TcpSocket)
    (hadvance : StateAdvance (w.system.slot p).state socket.state) :
    ({ w with system := w.system.setSlot p socket } : MagiWorld H).Owned := by
  refine h.slots fun q => Or.inl ⟨rfl, ?_⟩
  have hslot : (w.system.setSlot p socket).slot q =
      if q = p then socket else w.system.slot q := MagiSystem.slot_setSlot _ _ _ _
  change StateAdvance (w.system.slot q).state ((w.system.setSlot p socket).slot q).state
  rw [hslot]
  split
  · rename_i hq
    rwa [hq]
  · exact StateAdvance.refl _

-- each of the next lemmas unfolds the step of one action
attribute [local simp] step

theorem stepSocket (h : w.Owned) (domain type : Int) : (w.step (.socket domain type)).Owned := by
  rw [step]
  rcases magiSocket_cases w.system domain type with heq | ⟨d, sock, hfree, htcp, heq | ⟨heq, huse⟩⟩
  · rw [heq]
    exact h
  · rw [heq]
    exact h.dropFree sock none (MagiSystem.inUse_of_freeSocket hfree) htcp fun _ => rfl
  · rw [heq]
    have hdrop := h.dropFree sock (w.opened d) (MagiSystem.inUse_of_freeSocket hfree) htcp
      fun hin => by cases huse.symm.trans hin
    rwa [Function.update_eq_self] at hdrop

theorem stepAttachHost (h : w.Owned) (sockfd : Int) (host : Option H) :
    (w.step (.attachHost sockfd host)).Owned := by
  simp only [step, magiSocketAttachHost]
  split
  · exact h.descriptor _ rfl rfl rfl fun _ => rfl
  · exact h

theorem stepBind (h : w.Owned) (sockfd : Int) (ip : IpAddress) (port : UInt16) :
    (w.step (.bind sockfd ip port)).Owned := by
  simp only [step, magiBind]
  split
  · exact h
  · exact h.descriptor _ rfl rfl rfl id

theorem stepListen (h : w.Owned) {sockfd : Int} (hok : w.StepOk (.listen sockfd)) :
    (w.step (.listen sockfd)).Owned := by
  simp only [step, magiListen]
  cases htarget : w.system.allocTarget sockfd with
  | none => exact h
  | some target =>
      rcases target with ⟨d, p⟩
      rcases hok (d, p) htarget with ⟨hfree, hunheld⟩
      rcases MagiSystem.allocTarget_eq_some htarget with ⟨hlookup, htype, hhost, -⟩
      have huse := MagiSystem.inUse_of_lookup hlookup
      have hout := h.handOut (w.system.setSlot p (tcpSocketListen tcpSocketAllocated
        (w.system.sockets d).localIp (w.system.sockets d).localPort)).hosts
        hunheld fun q hq => (MagiSystem.slot_setSlot _ _ _ _).trans (if_neg hq)
      refine hout.attach d p _ ?_ huse rfl htype (by rw [hhost]; rfl) hfree hunheld
      simp only [h.unopened d huse hfree, Option.none_or, bump_self]

theorem stepAccept (h : w.Owned) {sockfd : Int} (hok : w.StepOk (.accept sockfd)) :
    (w.step (.accept sockfd)).Owned := by
  rw [step, magiAccept]
  cases hchild : magiPendingChild w.system sockfd with
  | none => exact h
  | some child =>
      simp only
      cases hfree : w.system.freeSocket with
      | none =>
          have hnone : magiSocket w.system afInet sockStream = (none, w.system) := by
            simp [magiSocket, hfree]
          rw [hnone]
          exact h
      | some conn =>
          have hsome : magiSocket w.system afInet sockStream =
              (some conn, w.system.setSocket conn
                { magiSocketZero with inUse := true, sockType := .tcp }) := by
            simp [magiSocket, hfree]
          have hunheld : w.Unheld child := hok (by rw [hfree]; rfl) child hchild
          have hestablished := state_of_magiPendingChild hchild
          have hnotInUse := MagiSystem.inUse_of_freeSocket hfree
          -- An accepted connection that is still established is held.
          have hnew : (child, w.gen child) ∉ w.accepted := by
            intro hmem
            rcases (h.acceptedState child hmem).2 hestablished with ⟨d, hd⟩
            exact hunheld d hd
          have hdrop := h.dropFree { magiSocketZero with inUse := true, sockType := .tcp } none
            hnotInUse rfl fun _ => rfl
          generalize hfresh : ({ magiSocketZero with inUse := true, sockType := .tcp } :
            MagiSocket H) = fresh at hsome hdrop
          have hset : (w.system.setSocket conn fresh).sockets conn = fresh :=
            by simp only [MagiSystem.setSocket, Function.update_self]
          have hstill : ({ w with
              system := w.system.setSocket conn fresh
              opened := Function.update w.opened conn none } : MagiWorld H).Unheld child := by
            intro d hd
            by_cases hdc : d = conn
            · rw [hdc] at hd
              have hnone := hd.2
              rw [hset, ← hfresh] at hnone
              cases hnone
            · refine hunheld d ⟨?_, ?_⟩
              · simpa only [MagiSystem.setSocket, Function.update_of_ne hdc] using hd.1
              · simpa only [MagiSystem.setSocket, Function.update_of_ne hdc] using hd.2
          have hattach := hdrop.attach conn child
            { fresh with
              host := some child.1
              tcpSock := some child
              localIp := (w.system.slot child).localIp
              localPort := (w.system.slot child).localPort
              remoteIp := (w.system.slot child).remoteIp
              remotePort := (w.system.slot child).remotePort }
            rfl (by rw [← hfresh]) rfl (by rw [← hfresh]) rfl (by rw [hset, ← hfresh]; rfl) hstill
          have hrecord := hattach.record (d := conn) (p := child) ⟨?_, ?_⟩ ?_ hnew
          rw [hsome]
          simp only [hset, Function.update_idem] at hrecord ⊢
          · exact hrecord
          · simp only [MagiSystem.setSocket, Function.update_self, ← hfresh]
          · simp only [MagiSystem.setSocket, Function.update_self]
          · exact (congrArg TcpState.pastHandshake hestablished).trans rfl

theorem stepConnect (h : w.Owned) {sockfd : Int} {ip : IpAddress} {port : UInt16}
    (hok : w.StepOk (.connect sockfd ip port)) : (w.step (.connect sockfd ip port)).Owned := by
  rw [step]
  cases htarget : w.system.allocTarget sockfd with
  | none => exact h
  | some target =>
      rcases target with ⟨d, p⟩
      rcases hok (d, p) htarget with ⟨hfree, hunheld⟩
      rcases MagiSystem.allocTarget_eq_some htarget with ⟨hlookup, htype, hhost, -⟩
      have huse := MagiSystem.inUse_of_lookup hlookup
      have hnotInCall : d ∉ w.calls.map MagiCall.descriptor := by
        intro hmem
        rcases List.mem_map.mp hmem with ⟨call, hcall, rfl⟩
        rcases h.inCall call hcall with ⟨q, hq, -⟩
        cases hfree.symm.trans hq.2
      rcases magiConnectBegin_cases ip port htarget with ⟨hosts, hsame, heq | heq⟩
      · simp only [heq]
        exact (h.handOut hosts hunheld hsame).descriptor d rfl hfree.symm rfl id
      · simp only [heq]
        have hopened : (w.opened d).or (some (p, w.gen p + 1)) = some (p, bump w.gen p p) := by
          rw [h.unopened d huse hfree, Option.none_or, bump_self]
        have hattach := (h.handOut hosts hunheld hsame).attach d p
          { w.system.sockets d with tcpSock := some p, remoteIp := ip, remotePort := port }
          hopened huse rfl htype (by rw [hhost]; rfl) hfree hunheld
        refine hattach.push (.connect d) p ⟨?_, ?_⟩ (fun hclose => nomatch hclose) hnotInCall
        all_goals simp only [MagiCall.descriptor, MagiSystem.setSocket, Function.update_self, huse]

theorem stepConnectReturn (h : w.Owned) : (w.step .connectReturn).Owned := by
  rw [step]
  split
  · rename_i d rest hcalls
    rcases h.pop hcalls with ⟨hpop, hnotInCall⟩
    rcases h.inCall (.connect d) (hcalls ▸ List.mem_cons_self) with ⟨p, hp, -⟩
    have htcp : (w.system.sockets d).tcpSock = some p := hp.2
    simp only [magiConnectEnd, htcp]
    split
    · have hfreed := hpop.setSlot p tcpSocketFree (StateAdvance.of_pastClose _ rfl)
      simp only [MagiSystem.setSocket, Function.update_self, Option.isNone_none, if_true]
      refine hfreed.drop d { w.system.sockets d with tcpSock := none } none rfl (fun _ => rfl)
        hnotInCall ?_
      intro q hq hest
      have hqp : q = p := Option.some.inj (hq.2.symm.trans htcp)
      rw [MagiSystem.slot_setSlot, if_pos hqp] at hest
      cases hest
    · simp only [htcp, Option.isNone_some]
      exact hpop
  · exact h

theorem stepSend (h : w.Owned) (sockfd : Int) (data : List UInt8) :
    (w.step (.send sockfd data)).Owned := by
  simp only [step, magiSend]
  split
  · exact h
  · split
    · split
      · exact h
      · rename_i hsend
        exact h.setSlot _ _ (magiSendTcp_stateAdvance hsend)
    · exact h

theorem stepRecv (h : w.Owned) (sockfd : Int) (bufsize : Nat) :
    (w.step (.recv sockfd bufsize)).Owned := by
  simp only [step, magiRecv]
  split
  · exact h
  · split
    · refine h.setSlot _ _ ?_
      rw [tcpSocketRecv_state]
      exact StateAdvance.refl _
    · exact h

theorem stepClose (h : w.Owned) {sockfd : Int} (hok : w.StepOk (.close sockfd)) :
    (w.step (.close sockfd)).Owned := by
  rw [step, magiCloseBegin]
  cases hlookup : w.system.lookup sockfd with
  | none => exact h
  | some d =>
      have hcalls := hok d hlookup
      have huse := MagiSystem.inUse_of_lookup hlookup
      simp only
      cases htcp : (w.system.sockets d).tcpSock with
      | none =>
          have hdrop := h.drop d magiSocketZero (w.opened d) rfl (fun hin => nomatch hin)
            hcalls fun p hp => by cases htcp.symm.trans hp.2
          rw [Function.update_eq_self] at hdrop
          cases (w.system.sockets d).sockType
          all_goals exact hdrop
      | some p =>
          rcases h.attached d p ⟨huse, htcp⟩ with ⟨htype, hhost⟩
          rcases Option.isSome_iff_exists.mp hhost with ⟨host, hhost⟩
          have hpast := magiCloseTcp_pastClose (w.system.slot p)
          have hclosed := h.setSlot p (magiCloseTcp (w.system.slot p)).1
            (StateAdvance.of_pastClose _ hpast)
          have hslot : (w.system.setSlot p (magiCloseTcp (w.system.slot p)).1).slot p =
              (magiCloseTcp (w.system.slot p)).1 :=
            (MagiSystem.slot_setSlot _ _ _ _).trans (if_pos rfl)
          simp only [htype, hhost]
          -- With a FIN to send the call goes on; without one the descriptor is cleared at once.
          cases (magiCloseTcp (w.system.slot p)).2 with
          | some segment =>
              refine hclosed.push (.close d) p ⟨huse, htcp⟩ (fun _ => ?_) hcalls
              rw [hslot]
              exact hpast
          | none =>
              have hdrop := hclosed.drop d magiSocketZero (w.opened d) rfl (fun hin => nomatch hin)
                hcalls ?_
              · rwa [Function.update_eq_self] at hdrop
              · intro q hq hest
                have hqp : q = p := Option.some.inj (hq.2.symm.trans htcp)
                rw [hqp, hslot] at hest
                rw [hest] at hpast
                cases hpast

theorem stepCloseReturn (h : w.Owned) (sent : Bool) : (w.step (.closeReturn sent)).Owned := by
  rw [step]
  split
  · rename_i d rest hcalls
    rcases h.pop hcalls with ⟨hpop, hnotInCall⟩
    rcases h.inCall (.close d) (hcalls ▸ List.mem_cons_self) with ⟨p, hp, hclose⟩
    have hpast := hclose rfl
    rw [magiCloseEnd]
    split
    · have hdrop := hpop.drop d magiSocketZero (w.opened d) rfl (fun hin => nomatch hin)
        hnotInCall fun q hq hest => by
          have hqp : q = p := Option.some.inj (hq.2.symm.trans hp.2)
          rw [hqp] at hest
          rw [show (w.system.slot p).state = .established from hest] at hpast
          cases hpast
      rwa [Function.update_eq_self] at hdrop
    · exact hpop
  · exact h

theorem stepArrive (h : w.Owned) {host : H} {segment : TcpSegment} {srcIp dstIp : IpAddress}
    (hok : w.StepOk (.arrive host segment srcIp dstIp)) :
    (w.step (.arrive host segment srcIp dstIp)).Owned := by
  refine h.slots fun p => ?_
  by_cases hchild : w.childSlot host segment srcIp dstIp = some p
  · refine Or.inr ⟨?_, hok p hchild⟩
    rw [hchild]
    exact bump_self w.gen p
  · refine Or.inl ⟨?_, ?_⟩
    · cases hother : w.childSlot host segment srcIp dstIp with
      | none => rfl
      | some q =>
          refine bump_of_ne w.gen ?_
          rintro rfl
          exact hchild hother
    · rcases p with ⟨other, slot⟩
      by_cases hhost : other = host
      · subst hhost
        rw [Function.update_self]
        refine (hostReceiveTcp_stateAdvance _ _ segment srcIp dstIp slot).resolve_left ?_
        intro hslot
        rw [childSlot, hslot] at hchild
        exact hchild rfl
      · rw [Function.update_of_ne hhost]
        exact StateAdvance.refl _

end Owned

/-- A step that meets the condition keeps the invariant. -/
theorem owned_step [DecidableEq H] {w : MagiWorld H} (h : w.Owned) {action : MagiAction H}
    (hok : w.StepOk action) : (w.step action).Owned := by
  cases action with
  | socket domain type => exact h.stepSocket domain type
  | attachHost sockfd host => exact h.stepAttachHost sockfd host
  | bind sockfd ip port => exact h.stepBind sockfd ip port
  | listen sockfd => exact h.stepListen hok
  | accept sockfd => exact h.stepAccept hok
  | connect sockfd ip port => exact h.stepConnect hok
  | connectReturn => exact h.stepConnectReturn
  | send sockfd data => exact h.stepSend sockfd data
  | recv sockfd bufsize => exact h.stepRecv sockfd bufsize
  | close sockfd => exact h.stepClose hok
  | closeReturn sent => exact h.stepCloseReturn sent
  | arrive host segment srcIp dstIp => exact h.stepArrive hok

theorem owned_run [DecidableEq H] {w : MagiWorld H} (h : w.Owned) {actions : List (MagiAction H)}
    (hok : w.RunOk actions) : (w.run actions).Owned := by
  induction actions generalizing w with
  | nil => exact h
  | cons action rest ih => exact ih (owned_step h hok.1) hok.2

end MagiWorld

/-- In every run whose steps all meet the condition, the descriptors own their connections. -/
theorem magiSocket_ownership [DecidableEq H] (hosts : H → IpAddress)
    (actions : List (MagiAction H)) (hok : (MagiWorld.initial hosts).RunOk actions) :
    ((MagiWorld.initial hosts).run actions).DescriptorsOwn :=
  (MagiWorld.owned_run (MagiWorld.owned_initial hosts) hok).toDescriptorsOwn

/-! ## A server -/

def serverIp : IpAddress := ⟨10, 0, 0, 1, 24⟩
def clientIp : IpAddress := ⟨10, 0, 0, 2, 24⟩

/-- A segment from port 5000 of the client to port 80 of the server. -/
def clientSegment (seqNum ackNum : UInt32) (flags : UInt8) : TcpSegment :=
  tcpStoreChecksum
    { tcpInit with
      srcPort := 5000
      dstPort := 80
      seqNum := seqNum
      ackNum := ackNum
      flags := flags }
    tcpHeaderSize clientIp serverIp

/-- A listener on port 80 and the handshake of one client. -/
def serveClient : List (MagiAction Unit) :=
  [.socket afInet sockStream, .attachHost 0 (some ()), .bind 0 serverIp 80, .listen 0,
    .arrive () (clientSegment 1000 0 tcpFlagSyn) clientIp serverIp,
    .arrive () (clientSegment 1001 7001 tcpFlagAck) clientIp serverIp]

/-- The connection is accepted and closed, and the next `magi_accept` finds none. -/
theorem magiSocket_ownership_served :
    ((MagiWorld.initial fun _ => serverIp).run
        (serveClient ++ [.accept 0, .close 1, .closeReturn true, .accept 0])).accepted.length = 1 ∧
      ((MagiWorld.initial fun _ => serverIp).run
        (serveClient ++ [.accept 0, .close 1, .closeReturn true, .accept 0])).DescriptorsOwn := by
  refine ⟨by decide +kernel, ?_⟩
  exact magiSocket_ownership (fun _ => serverIp) _ (by decide +kernel)

/-- Two calls of `magi_accept` return two descriptors for the one connection. -/
theorem magiSocket_ownership_acceptedTwice :
    ¬ ((MagiWorld.initial fun _ => serverIp).run
      (serveClient ++ [.accept 0, .accept 0])).DescriptorsOwn := by
  intro h
  have hfirst : ((MagiWorld.initial fun _ => serverIp).run
      (serveClient ++ [.accept 0, .accept 0])).Holds 1 ((), 1) := by decide +kernel
  have hsecond : ((MagiWorld.initial fun _ => serverIp).run
      (serveClient ++ [.accept 0, .accept 0])).Holds 2 ((), 1) := by decide +kernel
  have hsame := h.distinct 1 2 ((), 1) hfirst hsecond
  revert hsame
  decide

end MagiStack
