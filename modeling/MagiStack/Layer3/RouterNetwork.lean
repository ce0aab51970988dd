import MagiStack.Layer3.HeaderIntegrity
import MagiStack.Layer3.RouterCargo
import Mathlib.Algebra.BigOperators.Fin
import Mathlib.Algebra.Order.BigOperators.Group.List
import Mathlib.Data.Fintype.Basic

/-!
# RouterNetwork — forwarding among routers

Routers joined by links in any way.  A run interleaves frames that are injected from outside, the arrival
and the loss of frames in flight, calls of the routers' functions and the pieces of calls under way; with
`RouterState.tasks` that covers realtime mode as well as the other one, in which a frame arrives as soon
as it is sent.

The hops a packet has left, in frames and in queues, never grow: `hopsLeft` with the times it was forwarded
stays within what its TTL allowed when it was injected.
-/

namespace MagiStack

/-! ## The network -/

/-- A frame on its way to a router, with the number of its injection. -/
structure RouterFlight (N : Type) where
  node : N
  port : Fin maxPort
  raw : List UInt8
  number : Option Nat

/-- The routers and the frames in flight; the frames that were injected and those that have arrived; and
the packets that were forwarded, each with the frame it left in.  The newest stand last. -/
structure RouterNetwork (N Ms : Type) where
  routers : N → RouterState Ms
  inFlight : List (RouterFlight N)
  injected : List (List UInt8)
  arrived : List (RouterFlight N)
  forwarded : List (RouterCargo × List UInt8)

/-- What can happen next.  A frame that arrives or is lost is named by its place in flight. -/
inductive NetworkAction (N Ms : Type)
  | inject (node : N) (port : Fin maxPort) (raw : List UInt8)
  | arrive (place : Nat) (nowMs : Ms)
  | lose (place : Nat)
  | poll (node : N) (nowMs : Ms)
  | echo (node : N) (targetIp : IpAddress) (ttl : UInt8) (sequence : UInt16) (nowMs : Ms)
  | resume (node : N) (realtime : Bool) (nowMs : Ms)
  | configure (node : N) (config : Router)

namespace RouterNetwork

variable {N Ms : Type} [DecidableEq N] [SimTime Ms]

/-- The frame of an event, at the other end of its link. -/
def flight (links : N → Fin maxPort → Option (N × Fin maxPort)) (node : N) :
    RouterEvent → Option (RouterFlight N)
  | .frame port raw cargo =>
      (links node port).map fun far =>
        { node := far.1, port := far.2, raw := raw, number := cargo.bind RouterCargo.number }
  | .icmpError .. => none

/-- A router takes a step. -/
def act (links : N → Fin maxPort → Option (N × Fin maxPort)) (w : RouterNetwork N Ms) (node : N)
    (action : RouterAction Ms) : RouterNetwork N Ms :=
  let result := routerAct (w.routers node) action
  { w with
    routers := Function.update w.routers node result.1
    inFlight := w.inFlight ++ result.2.filterMap (flight links node)
    forwarded := w.forwarded ++ launched result.2 }

def step (links : N → Fin maxPort → Option (N × Fin maxPort)) (w : RouterNetwork N Ms) :
    NetworkAction N Ms → RouterNetwork N Ms
  | .inject node port raw =>
      { w with
        inFlight := w.inFlight ++
          [{ node := node, port := port, raw := raw, number := some w.injected.length }]
        injected := w.injected ++ [raw] }
  | .arrive place nowMs =>
      match w.inFlight[place]? with
      | none => w
      | some f =>
          act links
            { w with inFlight := w.inFlight.eraseIdx place, arrived := w.arrived ++ [f] } f.node
            (.receive f.port f.raw nowMs f.number)
  | .lose place => { w with inFlight := w.inFlight.eraseIdx place }
  | .poll node nowMs => act links w node (.poll nowMs)
  | .echo node targetIp ttl sequence nowMs => act links w node (.echo targetIp ttl sequence nowMs)
  | .resume node realtime nowMs => act links w node (.resume realtime nowMs)
  | .configure node config => act links w node (.configure config)

def run (links : N → Fin maxPort → Option (N × Fin maxPort)) (w : RouterNetwork N Ms)
    (actions : List (NetworkAction N Ms)) : RouterNetwork N Ms :=
  actions.foldl (step links) w

end RouterNetwork

/-! ## Hops left -/

/-- How often the packet in a frame can still be forwarded: one time less than its TTL. -/
def frameHops (raw : List UInt8) : Nat :=
  ((ethernetFromBytes raw).bind routerIpv4Packet).elim 0 fun packet => packet.ttl.toNat - 1

/-- How often a packet in a queue can still be forwarded, this time included. -/
def waitingHops (number : Nat) (packet : Ipv4Packet × RouterCargo) : Nat :=
  if packet.2.number = some number then max 1 packet.1.ttl.toNat else 0

/-- How often the packet of an injection in a frame in flight can still be forwarded. -/
def flightHops {N : Type} (number : Nat) (f : RouterFlight N) : Nat :=
  if f.number = some number then frameHops f.raw else 0

/-- How often the packet of an injection was forwarded. -/
def timesForwarded (number : Nat) (forwarded : List (RouterCargo × List UInt8)) : Nat :=
  forwarded.countP fun out => decide (out.1.number = some number)

/-- The packet in a frame that carries it, as the next router finds it. -/
theorem FrameCarries.found {packet : Ipv4Packet} {raw : List UInt8} (h : FrameCarries packet raw) :
    (ethernetFromBytes raw).bind routerIpv4Packet = some (ipv4Reparsed packet) := by
  rcases h with ⟨hlength, frame, hframe, htype, hpayload, rfl⟩
  rw [ethernetFromBytes_bytes hframe, Option.bind_some, routerIpv4Packet, if_pos htype, hpayload,
    ipv4FromBytes_bytes hlength, Option.filter_some, if_pos (ipv4ValidateChecksum_reparsed hlength)]

theorem FrameCarries.frameHops {packet : Ipv4Packet} {raw : List UInt8} (h : FrameCarries packet raw) :
    frameHops raw = packet.ttl.toNat - 1 := by
  rw [MagiStack.frameHops, h.found]
  rfl

/-- A packet that is handed on takes its hops along, less the one it makes. -/
theorem launched_hops {number : Nat} {sent : List (Ipv4Packet × RouterCargo)}
    {out : List (RouterCargo × List UInt8)}
    (h : List.Forall₂ (fun packet out => out.1 = packet.2 ∧ FrameCarries packet.1 out.2) sent out) :
    timesForwarded number out +
        (out.map fun o => if o.1.number = some number then frameHops o.2 else 0).sum ≤
      (sent.map (waitingHops number)).sum := by
  induction h with
  | nil => exact le_rfl
  | @cons packet o sent out hfirst hrest ih =>
      rcases hfirst with ⟨hcargo, hcarries⟩
      have hhops := hcarries.frameHops
      simp only [timesForwarded, List.countP_cons, List.map_cons, List.sum_cons, waitingHops] at ih ⊢
      rw [← hcargo]
      by_cases hnumber : o.1.number = some number
      · simp only [hnumber, if_true, decide_true]
        omega
      · simp only [hnumber, if_false, decide_false, Bool.false_eq_true]
        omega

/-- The packet that comes in with a frame has the hops the frame had. -/
theorem arriving_hops (number : Nat) (raw : List UInt8) (injection : Option Nat) :
    ((arriving raw injection).map (waitingHops number)).sum ≤
      if injection = some number then frameHops raw else 0 := by
  rw [arriving, frameHops]
  cases (ethernetFromBytes raw).bind routerIpv4Packet with
  | none => exact Nat.zero_le _
  | some packet =>
      rw [Option.elim_some, Option.elim_some, arrivingPacket]
      split
      · exact Nat.zero_le _
      rename_i httl
      have halive : 1 < packet.ttl.toNat := UInt8.lt_iff_toNat_lt.mp (UInt8.not_le.mp httl)
      have hless : (packet.ttl - 1).toNat = packet.ttl.toNat - 1 :=
        UInt8.toNat_sub_of_le _ _ (UInt8.le_iff_toNat_le.mpr (by exact halive.le))
      simp only [waitingHops, RouterCargo.forwarded, List.map_cons, List.map_nil, List.sum_cons,
        List.sum_nil, Nat.add_zero, hless]
      split
      · omega
      · exact le_rfl

/-! ## Hops are kept -/

/-- Fewer packets have fewer hops. -/
theorem sum_le_of_subperm {α : Type} {items more : List α} (h : items.Subperm more) (f : α → Nat) :
    (items.map f).sum ≤ (more.map f).sum := by
  rcases h with ⟨same, hperm, hsub⟩
  calc
    (items.map f).sum = (same.map f).sum := (hperm.map f).sum_eq.symm
    _ ≤ (more.map f).sum := (hsub.map f).sum_le_sum fun _ _ => Nat.zero_le _

/-- A sum in which one summand is another one. -/
theorem sum_update {N : Type} [DecidableEq N] [Fintype N] (f : N → Nat) (node : N) (value : Nat) :
    ∑ n, Function.update f node value n + f node = ∑ n, f n + value := by
  rw [Finset.sum_update_of_mem (Finset.mem_univ node),
    Finset.sum_eq_add_sum_sdiff_singleton_of_mem (Finset.mem_univ node) f]
  omega

namespace RouterNetwork

variable {N Ms : Type}

/-- How often the packet of an injection can still be forwarded. -/
def hopsLeft [Fintype N] (w : RouterNetwork N Ms) (number : Nat) : Nat :=
  (w.inFlight.map (flightHops number)).sum +
    ∑ n, ((w.routers n).waiting.map (waitingHops number)).sum

/-- How often the packet of an injection can be forwarded at all. -/
def hopsAllowed (w : RouterNetwork N Ms) (number : Nat) : Nat :=
  w.injected[number]?.elim 0 frameHops

/-- What was forwarded and what can still be is within what was allowed. -/
def Bounded [Fintype N] (w : RouterNetwork N Ms) : Prop :=
  ∀ number, timesForwarded number w.forwarded + w.hopsLeft number ≤ w.hopsAllowed number

/-- The frames of events take along the hops of the packets in them. -/
theorem flight_hops (links : N → Fin maxPort → Option (N × Fin maxPort)) (node : N) (number : Nat)
    (events : List RouterEvent) :
    ((events.filterMap (flight links node)).map (flightHops number)).sum ≤
      ((launched events).map fun o =>
        if o.1.number = some number then frameHops o.2 else 0).sum := by
  induction events with
  | nil => exact le_rfl
  | cons event events ih =>
      rw [launched] at ih ⊢
      cases event with
      | icmpError type code about => exact ih
      | frame port raw cargo =>
          -- A frame into a port without a link is lost.
          cases hfar : links node port with
          | none =>
              have hflight : flight links node (.frame port raw cargo) = none := by
                rw [flight, hfar]
                rfl
              rw [List.filterMap_cons_none hflight]
              cases cargo with
              | none => exact ih
              | some cargo => exact ih.trans (Nat.le_add_left _ _)
          | some far =>
              have hflight : flight links node (.frame port raw cargo) = some
                  { node := far.1, port := far.2, raw := raw
                    number := cargo.bind RouterCargo.number } := by
                rw [flight, hfar]
                rfl
              rw [List.filterMap_cons_some hflight, List.map_cons, List.sum_cons]
              cases cargo with
              | none =>
                  have hnone : flightHops number
                      ({ node := far.1, port := far.2, raw := raw, number := none } : RouterFlight N) =
                      0 := rfl
                  rw [Option.bind_none, hnone, Nat.zero_add]
                  exact ih
              | some cargo => exact Nat.add_le_add_left ih _

theorem timesForwarded_append (number : Nat) (forwarded more : List (RouterCargo × List UInt8)) :
    timesForwarded number (forwarded ++ more) =
      timesForwarded number forwarded + timesForwarded number more :=
  List.countP_append

section Runs

variable [DecidableEq N] [SimTime Ms]

/-- A step of a router does not make more of what is left and what comes in. -/
theorem act_hops [Fintype N] (links : N → Fin maxPort → Option (N × Fin maxPort))
    (w : RouterNetwork N Ms) (node : N) (action : RouterAction Ms) (number : Nat) :
    timesForwarded number (act links w node action).forwarded +
        (act links w node action).hopsLeft number ≤
      timesForwarded number w.forwarded + w.hopsLeft number +
        (action.arriving.map (waitingHops number)).sum := by
  rcases routerAct_keeps (w.routers node) action with ⟨sent, hsub, hsent⟩
  have hwaiting := sum_le_of_subperm hsub (waitingHops number)
  have hlaunched := @launched_hops number _ _ hsent
  have hflight := flight_hops links node number (routerAct (w.routers node) action).2
  have hupdate := sum_update (fun n => ((w.routers n).waiting.map (waitingHops number)).sum) node
    (((routerAct (w.routers node) action).1.waiting).map (waitingHops number)).sum
  have hrouters : (∑ n, (((act links w node action).routers n).waiting.map (waitingHops number)).sum) =
      ∑ n, Function.update (fun n => ((w.routers n).waiting.map (waitingHops number)).sum) node
        (((routerAct (w.routers node) action).1.waiting).map (waitingHops number)).sum n := by
    refine Finset.sum_congr rfl fun n _ => ?_
    by_cases hn : n = node
    · subst hn
      simp [act]
    · simp [act, hn]
  rw [hopsLeft, hopsLeft, hrouters]
  simp only [act, timesForwarded_append, List.map_append, List.sum_append] at hwaiting ⊢
  omega

omit [DecidableEq N] [SimTime Ms] in
/-- What is taken out of flight takes its hops along. -/
theorem hopsLeft_eraseIdx [Fintype N] (w : RouterNetwork N Ms) {place : Nat} {f : RouterFlight N}
    (h : w.inFlight[place]? = some f) (arrived : List (RouterFlight N)) (number : Nat) :
    hopsLeft { w with inFlight := w.inFlight.eraseIdx place, arrived := arrived } number +
      flightHops number f = w.hopsLeft number := by
  rcases List.getElem?_eq_some_iff.mp h with ⟨hlt, hget⟩
  have hperm := (List.getElem_cons_eraseIdx_perm hlt).map (flightHops number)
  have hsum := hperm.sum_eq
  rw [hget, List.map_cons, List.sum_cons] at hsum
  simp only [hopsLeft]
  omega

theorem step_bounded [Fintype N] (links : N → Fin maxPort → Option (N × Fin maxPort))
    {w : RouterNetwork N Ms} (h : w.Bounded) (action : NetworkAction N Ms) :
    (step links w action).Bounded := by
  have hown : ∀ node (act' : RouterAction Ms), act'.arriving = [] →
      (act links w node act').Bounded := by
    intro node act' hnothing number
    have hhops := act_hops links w node act' number
    rw [hnothing] at hhops
    exact hhops.trans (h number)
  cases action with
  | inject node port raw =>
      intro number
      have hold := h number
      simp only [step, hopsLeft, hopsAllowed, List.map_append, List.sum_append, List.map_cons,
        List.map_nil, List.sum_cons, List.sum_nil, Nat.add_zero, flightHops, Option.some.injEq] at hold ⊢
      by_cases hnew : w.injected.length = number
      · subst hnew
        rw [List.getElem?_concat_length]
        rw [List.getElem?_eq_none le_rfl] at hold
        simp only [Option.elim_none, Option.elim_some, if_true] at hold ⊢
        omega
      · rw [if_neg hnew, Nat.add_zero]
        refine hold.trans ?_
        by_cases hlt : number < w.injected.length
        · rw [List.getElem?_append_left hlt]
        · rw [List.getElem?_eq_none (Nat.le_of_not_lt hlt)]
          exact Nat.zero_le _
  | arrive place nowMs =>
      rw [step]
      cases hplace : w.inFlight[place]? with
      | none => exact h
      | some f =>
          intro number
          -- The frame leaves the flight before its node acts: what is sent takes the hops it had.
          have hhops := act_hops links
            { w with inFlight := w.inFlight.eraseIdx place, arrived := w.arrived ++ [f] } f.node
            (.receive f.port f.raw nowMs f.number) number
          have harriving := arriving_hops number f.raw f.number
          have herase := hopsLeft_eraseIdx w hplace (w.arrived ++ [f]) number
          have hold := h number
          rw [flightHops] at herase
          rw [RouterAction.arriving] at hhops
          exact hhops.trans (by dsimp only; omega) |>.trans hold
  | lose place =>
      intro number
      have hold := h number
      rw [step]
      cases hplace : w.inFlight[place]? with
      | none =>
          have hsame : w.inFlight.eraseIdx place = w.inFlight :=
            List.eraseIdx_of_length_le (List.getElem?_eq_none_iff.mp hplace)
          rw [hsame]
          exact hold
      | some f =>
          have herase := hopsLeft_eraseIdx w hplace w.arrived number
          refine (Nat.add_le_add_left ?_ _).trans hold
          exact herase ▸ Nat.le_add_right _ _
  | poll node nowMs => exact hown node _ rfl
  | echo node targetIp ttl sequence nowMs => exact hown node _ rfl
  | resume node realtime nowMs => exact hown node _ rfl
  | configure node config => exact hown node _ rfl

theorem run_bounded [Fintype N] (links : N → Fin maxPort → Option (N × Fin maxPort))
    {w : RouterNetwork N Ms} (h : w.Bounded) (actions : List (NetworkAction N Ms)) :
    (run links w actions).Bounded := by
  induction actions generalizing w with
  | nil => exact h
  | cons action actions ih => exact ih (step_bounded links h action)

/-! ## Packets are kept -/

/-- A packet on its way is one that has arrived, with one hop less to live. -/
def OnTheWay (arrived : List (RouterFlight N)) (packet : Ipv4Packet × RouterCargo) : Prop :=
  packet.1 = packet.2.forwarded ∧ 1 < packet.2.incoming.ttl ∧
    ∃ f ∈ arrived, f.number = packet.2.number ∧
      (ethernetFromBytes f.raw).bind routerIpv4Packet = some packet.2.incoming

/-- What waits and what was forwarded is on its way. -/
structure Faithful (w : RouterNetwork N Ms) : Prop where
  waiting : ∀ n, ∀ packet ∈ (w.routers n).waiting, OnTheWay w.arrived packet
  forwarded : ∀ out ∈ w.forwarded,
    FrameCarries out.1.forwarded out.2 ∧ OnTheWay w.arrived (out.1.forwarded, out.1)

omit [DecidableEq N] in
theorem OnTheWay.more {arrived : List (RouterFlight N)} {packet : Ipv4Packet × RouterCargo}
    (h : OnTheWay arrived packet) (more : List (RouterFlight N)) :
    OnTheWay (arrived ++ more) packet := by
  rcases h with ⟨hpacket, httl, f, hf, hfound⟩
  exact ⟨hpacket, httl, f, List.mem_append_left _ hf, hfound⟩

theorem act_faithful (links : N → Fin maxPort → Option (N × Fin maxPort)) {w : RouterNetwork N Ms}
    (h : w.Faithful) (node : N) (action : RouterAction Ms)
    (harriving : ∀ packet ∈ action.arriving, OnTheWay w.arrived packet) :
    (act links w node action).Faithful := by
  rcases routerAct_keeps (w.routers node) action with ⟨sent, hsub, hsent⟩
  have hbefore : ∀ packet ∈ (routerAct (w.routers node) action).1.waiting ++ sent,
      OnTheWay w.arrived packet := by
    intro packet hpacket
    rcases List.mem_append.mp (hsub.subset hpacket) with hold | hnew
    · exact h.waiting node packet hold
    · exact harriving packet hnew
  refine ⟨fun n packet hpacket => ?_, fun out hout => ?_⟩
  · by_cases hn : n = node
    · subst hn
      simp only [act, Function.update_self] at hpacket
      exact hbefore packet (List.mem_append_left _ hpacket)
    · simp only [act, Function.update_of_ne hn] at hpacket
      exact h.waiting n packet hpacket
  · rcases List.mem_append.mp hout with hold | hnew
    · exact h.forwarded out hold
    -- A new frame carries the packet at its place among those that were sent.
    · rcases List.mem_iff_getElem.mp hnew with ⟨i, hi, hget⟩
      have hlength := hsent.length_eq
      have hpair := List.forall₂_iff_get.mp hsent
      rcases hpair.2 i (by omega) hi with ⟨hcargo, hcarries⟩
      simp only [List.get_eq_getElem, hget] at hcargo hcarries
      have hway := hbefore sent[i] (List.mem_append_right _ (List.getElem_mem _))
      have hpacket := hway.1
      rw [← hcargo] at hpacket
      rw [hpacket] at hcarries
      refine ⟨hcarries, rfl, ?_⟩
      rw [hcargo]
      exact hway.2

omit [DecidableEq N] [SimTime Ms] in
/-- What comes in with a frame that has arrived is on its way. -/
theorem onTheWay_of_arriving {arrived : List (RouterFlight N)} {f : RouterFlight N}
    (hf : f ∈ arrived) {packet : Ipv4Packet × RouterCargo}
    (hpacket : packet ∈ arriving f.raw f.number) : OnTheWay arrived packet := by
  rw [arriving] at hpacket
  cases hfound : (ethernetFromBytes f.raw).bind routerIpv4Packet with
  | none =>
      rw [hfound] at hpacket
      cases hpacket
  | some incoming =>
      rw [hfound, Option.elim_some, arrivingPacket] at hpacket
      split at hpacket
      · cases hpacket
      rename_i httl
      rw [List.mem_singleton.mp hpacket]
      exact ⟨rfl, UInt8.not_le.mp httl, f, hf, rfl, hfound⟩

theorem step_faithful (links : N → Fin maxPort → Option (N × Fin maxPort)) {w : RouterNetwork N Ms}
    (h : w.Faithful) (action : NetworkAction N Ms) : (step links w action).Faithful := by
  cases action with
  | inject node port raw => exact ⟨h.waiting, h.forwarded⟩
  | arrive place nowMs =>
      rw [step]
      cases hplace : w.inFlight[place]? with
      | none => exact h
      | some f =>
          refine act_faithful links ⟨fun n packet hpacket => ?_, fun out hout => ?_⟩ f.node _
            fun packet hpacket => ?_
          · exact (h.waiting n packet hpacket).more [f]
          · exact ⟨(h.forwarded out hout).1, (h.forwarded out hout).2.more [f]⟩
          · refine onTheWay_of_arriving (f := f) ?_ hpacket
            exact List.mem_append_right _ (List.mem_singleton.mpr rfl)
  | lose place => exact ⟨h.waiting, h.forwarded⟩
  | poll node nowMs => exact act_faithful links h node _ fun packet hpacket => (nomatch hpacket)
  | echo node targetIp ttl sequence nowMs =>
      exact act_faithful links h node _ fun packet hpacket => (nomatch hpacket)
  | resume node realtime nowMs =>
      exact act_faithful links h node _ fun packet hpacket => (nomatch hpacket)
  | configure node config =>
      exact act_faithful links h node _ fun packet hpacket => (nomatch hpacket)

theorem run_faithful (links : N → Fin maxPort → Option (N × Fin maxPort)) {w : RouterNetwork N Ms}
    (h : w.Faithful) (actions : List (NetworkAction N Ms)) : (run links w actions).Faithful := by
  induction actions generalizing w with
  | nil => exact h
  | cons action actions ih => exact ih (step_faithful links h action)

end Runs

/-! ## Main result -/

/-- A network at the start of a run, with any addresses, routes and address tables: what waits in its
queues and flies between its routers counts for no injection. -/
structure Untracked (w : RouterNetwork N Ms) : Prop where
  waiting : ∀ n, (w.routers n).waiting = []
  inFlight : ∀ f ∈ w.inFlight, f.number = none
  forwarded : w.forwarded = []

/-- A forwarded packet, as it left in a frame and is parsed again, is one that has arrived with the same
number, with a TTL one lower and a checksum that validates. -/
def ForwardedCopy (w : RouterNetwork N Ms) (out : RouterCargo × List UInt8) : Prop :=
  (∃ f ∈ w.arrived, f.number = out.1.number ∧
    (ethernetFromBytes f.raw).bind routerIpv4Packet = some out.1.incoming) ∧
  ∃ frame copy, ethernetFromBytes out.2 = some frame ∧ frame.ethertype = ethernetTypeIpv4 ∧
    ipv4FromBytes frame.payload = some copy ∧ copy.srcIp = out.1.incoming.srcIp ∧
    copy.dstIp = out.1.incoming.dstIp ∧ copy.protocol = out.1.incoming.protocol ∧
    copy.payload = out.1.incoming.payload ∧ copy.ttl.toNat + 1 = out.1.incoming.ttl.toNat ∧
    ipv4ValidateChecksum copy = true

/-- Addresses that were parsed have no prefix. -/
theorem routerIpv4Packet_withoutPrefix {raw : List UInt8} {packet : Ipv4Packet}
    (h : (ethernetFromBytes raw).bind routerIpv4Packet = some packet) :
    packet.srcIp.withoutPrefix = packet.srcIp ∧ packet.dstIp.withoutPrefix = packet.dstIp := by
  rcases Option.bind_eq_some_iff.mp h with ⟨frame, -, hpacket⟩
  rw [routerIpv4Packet] at hpacket
  split at hpacket
  · have hparsed := (Option.filter_eq_some_iff.mp hpacket).1
    rcases ipv4FromBytes_eq_some hparsed with ⟨-, -, -, -, -, -, hfields⟩
    rw [hfields]
    exact ⟨rfl, rfl⟩
  · cases hpacket

theorem Faithful.forwardedCopy {w : RouterNetwork N Ms} (h : w.Faithful)
    {out : RouterCargo × List UInt8} (hout : out ∈ w.forwarded) : w.ForwardedCopy out := by
  rcases h.forwarded out hout with ⟨⟨hlength, frame, hframe, htype, hpayload, hraw⟩, -, httl, hcame⟩
  refine ⟨hcame, frame, ipv4Reparsed out.1.forwarded, ?_, htype, ?_, ?_, ?_, rfl, rfl, ?_, ?_⟩
  · rw [hraw]
    exact ethernetFromBytes_bytes hframe
  · rw [hpayload]
    exact ipv4FromBytes_bytes hlength
  · rcases hcame with ⟨f, -, -, hfound⟩
    exact (routerIpv4Packet_withoutPrefix hfound).1
  · rcases hcame with ⟨f, -, -, hfound⟩
    exact (routerIpv4Packet_withoutPrefix hfound).2
  · have halive : 1 < out.1.incoming.ttl.toNat := UInt8.lt_iff_toNat_lt.mp httl
    have hless : (out.1.incoming.ttl - 1).toNat = out.1.incoming.ttl.toNat - 1 :=
      UInt8.toNat_sub_of_le _ _ (UInt8.le_iff_toNat_le.mpr halive.le)
    have hcopy : (ipv4Reparsed out.1.forwarded).ttl = out.1.incoming.ttl - 1 := rfl
    rw [hcopy, hless]
    omega
  · exact ipv4ValidateChecksum_reparsed hlength

/-- In every network and every run, a packet injected with TTL `t` is forwarded at most `t - 1` times in
all, and every forwarded copy is the packet that came in, with a TTL one lower and a checksum that
validates. -/
theorem forwarding_bounded_and_faithful [DecidableEq N] [Fintype N] [SimTime Ms]
    (links : N → Fin maxPort → Option (N × Fin maxPort)) (w : RouterNetwork N Ms) (h : w.Untracked)
    (actions : List (NetworkAction N Ms)) :
    (∀ number raw, (run links w actions).injected[number]? = some raw →
      timesForwarded number (run links w actions).forwarded ≤ frameHops raw) ∧
    ∀ out ∈ (run links w actions).forwarded, (run links w actions).ForwardedCopy out := by
  have hbounded : w.Bounded := by
    intro number
    have hflights : (w.inFlight.map (flightHops number)).sum = 0 := by
      refine List.sum_eq_zero fun hops hhops => ?_
      rcases List.mem_map.mp hhops with ⟨f, hf, rfl⟩
      rw [flightHops, h.inFlight f hf]
      rfl
    have hrouters : ∑ n, ((w.routers n).waiting.map (waitingHops number)).sum = 0 :=
      Finset.sum_eq_zero fun n _ => by rw [h.waiting n]; rfl
    rw [hopsLeft, hflights, hrouters, h.forwarded]
    exact Nat.zero_le _
  have hfaithful : w.Faithful := by
    refine ⟨fun n packet hpacket => ?_, fun out hout => ?_⟩
    · rw [h.waiting n] at hpacket
      cases hpacket
    · rw [h.forwarded] at hout
      cases hout
  refine ⟨fun number raw hraw => ?_, fun out hout => ?_⟩
  · have hrun := run_bounded links hbounded actions number
    rw [hopsAllowed, hraw, Option.elim_some] at hrun
    omega
  · exact (run_faithful links hfaithful actions).forwardedCopy hout

/-- Two routers, each behind the first interface of the other, that both send everything on. -/
def loopNetwork : RouterNetwork Bool ℚ :=
  { routers := fun _ =>
      { routerStateInit 1 one_le_maxPort (fun _ => ⟨2, 0, 0, 0, 0, 1⟩) fun _ =>
          { nextHopIp := ipZero, outInterface := 0, vlanId := 0, packet := ipv4Init
            arpAttempts := 0, arpLastAttemptMs := (0 : ℚ), cargo := none } with
        config :=
          { interfaceIps := fun _ => { hasIp := true, ipAddress := ⟨10, 0, 0, 1, 24⟩ }
            interfaceVlans := fun _ => 0
            routingTable :=
              [{ destination := ipZero, nextHop := ⟨10, 0, 0, 2, 0⟩, outInterface := 1 }] } }
    inFlight := []
    injected := []
    arrived := []
    forwarded := [] }

/-- What comes to both routers first: an ARP message of `10.0.0.2`. -/
def loopArpFrame : List UInt8 :=
  ethernetBytes
    { dstMac := MacAddress.broadcast
      srcMac := ⟨2, 0, 0, 0, 0, 1⟩
      hasVlan := false
      vlanId := 0
      ethertype := ethernetTypeArp
      payload := arpMessageBytes
        (arpMessageInitRequest ⟨2, 0, 0, 0, 0, 1⟩ ⟨10, 0, 0, 2, 0⟩ ⟨10, 0, 0, 3, 0⟩) }

/-- A packet with TTL 3 for an address behind neither router. -/
def loopFrame : List UInt8 :=
  ethernetBytes
    { dstMac := ⟨2, 0, 0, 0, 0, 1⟩
      srcMac := ⟨2, 0, 0, 0, 0, 9⟩
      hasVlan := false
      vlanId := 0
      ethertype := ethernetTypeIpv4
      payload := ipv4Bytes { ipv4Init with ttl := 3, dstIp := ⟨10, 9, 9, 9, 0⟩ } }

/-- The packet is forwarded twice, which its TTL just allows, and is the same packet each time. -/
theorem forwarding_bounded_and_faithful_loop :
    let w := run (fun node _ => some (!node, 0)) loopNetwork
      [.inject false 0 loopArpFrame, .arrive 0 0, .inject true 0 loopArpFrame, .arrive 0 0,
        .inject false 0 loopFrame, .arrive 0 0, .arrive 0 0, .arrive 0 0]
    timesForwarded 2 w.forwarded ≤ frameHops loopFrame ∧ timesForwarded 2 w.forwarded = 2 ∧
      frameHops loopFrame = 2 ∧ ∀ out ∈ w.forwarded, w.ForwardedCopy out := by
  have hstart : loopNetwork.Untracked :=
    { waiting := fun _ => rfl, inFlight := fun _ hf => (nomatch hf), forwarded := rfl }
  rcases forwarding_bounded_and_faithful (fun node _ => some (!node, 0)) loopNetwork hstart
    [.inject false 0 loopArpFrame, .arrive 0 0, .inject true 0 loopArpFrame, .arrive 0 0,
      .inject false 0 loopFrame, .arrive 0 0, .arrive 0 0, .arrive 0 0] with ⟨hbound, hcopies⟩
  exact ⟨hbound 2 loopFrame (by decide +kernel), by decide +kernel, by decide +kernel, hcopies⟩

end RouterNetwork

end MagiStack
