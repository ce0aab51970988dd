import MagiStack.Layer4.TcpSettled

/-!
# TcpCompletion — a connection comes to rest

An answer is lighter than the segment that it answers, so that only so many arrivals are left once the applications
stop sending.  If they go on reading, the arrivals never stop at a full buffer either, and both sides end up with
everything that was sent.
-/

namespace MagiStack

/-! ## Room -/

/-- An application that asks for a whole buffer leaves nothing in it. -/
theorem RecvBufferOk.recv_all {socket : TcpSocket} (h : RecvBufferOk socket) :
    (tcpSocketRecv socket tcpSocketBufferSize).2.recvBuffer.data = [] := by
  rw [tcpSocketRecv]
  split
  · rename_i hnothing
    rcases hnothing with hzero | hnone | hempty
    · cases hzero
    · have hdata := h.hasData_eq
      rw [hnone, eq_comm, Bool.not_eq_false'] at hdata
      exact List.isEmpty_iff.mp hdata
    · exact List.isEmpty_iff.mp hempty
  · exact List.drop_eq_nil_of_le ((Nat.le_add_right _ _).trans h.room)

/-- What can be in flight fits into an empty buffer. -/
theorem Addressed.fits {addresses : TcpAddresses} {side : TcpSide} {segment : TcpSegment}
    (h : Addressed addresses side segment) : segment.payload.length ≤ tcpSocketBufferSize := by
  have hvalid := h.valid
  rw [tcpValidateChecksum, tcpToBytes] at hvalid
  split at hvalid
  · cases hvalid
  · rename_i hbytes
    split at hbytes
    · cases hbytes
    · rename_i hfits
      exact (Nat.not_lt.mp hfits).trans (by decide)

namespace TcpLink

/-! ## Arrivals come to an end -/

/-- How many arrivals what is in flight can still cause. -/
def weight (l : TcpLink) : Nat :=
  ((l.inFlight .client).map TcpSegment.weight).sum + ((l.inFlight .server).map TcpSegment.weight).sum

theorem weight_eq (l : TcpLink) (side : TcpSide) :
    l.weight = ((l.inFlight side).map TcpSegment.weight).sum + ((l.inFlight side.peer).map TcpSegment.weight).sum := by
  cases side with
  | client => rfl
  | server => exact Nat.add_comm _ _

theorem weight_pos (segment : TcpSegment) : 0 < segment.weight := by
  rw [TcpSegment.weight]
  split
  · split
    all_goals decide
  · split
    all_goals decide

/-- A side has not heard more than was sent. -/
def HeardOk (l : TcpLink) : Prop :=
  ∀ side, l.heard side ≤ (l.world.net side.peer).length

/-- What a delivery leaves in the network: an answer at most, lighter than the segment. -/
theorem deliver_net (addresses : TcpAddresses) (w : TcpWorld) (side : TcpSide) (segment : TcpSegment) :
    (w.deliver addresses side segment).net side.peer = w.net side.peer ∧
      ∃ out, (w.deliver addresses side segment).net side = w.net side ++ out ∧
        (out.map TcpSegment.weight).sum < segment.weight := by
  have hnothing : w.net side.peer = w.net side.peer ∧
      ∃ out, w.net side = w.net side ++ out ∧ (out.map TcpSegment.weight).sum < segment.weight :=
    ⟨rfl, [], (List.append_nil _).symm, weight_pos segment⟩
  rw [TcpWorld.deliver]
  split
  swap
  · exact hnothing
  split
  · exact hnothing
  · refine ⟨TcpWorld.update_net_peer w side _ _, _, TcpWorld.update_net_self w side _ _, ?_⟩
    cases hreply : tcpReply _ with
    | none => exact weight_pos segment
    | some reply =>
        have hlighter := tcpReply_lighter hreply
        simpa using hlighter

/-- What has arrived is replaced by something lighter. -/
theorem arrive_weight (addresses : TcpAddresses) {l : TcpLink} (h : l.HeardOk) {side : TcpSide}
    (hflight : l.inFlight side ≠ []) :
    (l.step addresses (.arrive side)).weight < l.weight ∧ (l.step addresses (.arrive side)).HeardOk := by
  rcases List.exists_cons_of_ne_nil hflight with ⟨segment, rest, hcons⟩
  rcases deliver_net addresses l.world side segment with ⟨hself, out, hpeer, hlighter⟩
  have hheard : l.heard side < (l.world.net side.peer).length := by
    by_contra hall
    exact hflight (List.drop_eq_nil_of_le (Nat.le_of_not_lt hall))
  have hle := h side.peer
  rw [TcpSide.peer_peer] at hle
  have hrest : (l.world.net side.peer).drop (l.heard side + 1) = rest := by
    rw [← List.tail_drop]
    exact congrArg List.tail hcons
  simp only [step, hcons]
  refine ⟨?_, fun side' => ?_⟩
  · have hflight' : (l.world.net side ++ out).drop (l.heard side.peer) = l.inFlight side.peer ++ out := by
      rw [inFlight, TcpSide.peer_peer]
      exact List.drop_append_of_le_length hle
    rw [weight_eq _ side, weight_eq l side, hcons]
    simp only [inFlight, Function.update_self, Function.update_of_ne side.peer_ne, TcpSide.peer_peer, hself, hpeer,
      hrest] at hflight' ⊢
    rw [hflight', List.map_append, List.sum_append, List.map_cons, List.sum_cons]
    omega
  · rcases side.eq_or_eq_peer side' with rfl | rfl
    · simp only [Function.update_self, hself]
      exact hheard
    · simp only [Function.update_of_ne side.peer_ne, TcpSide.peer_peer, hpeer, List.length_append]
      omega

/-- The applications only read, and segments arrive that are in flight. -/
def Draining (addresses : TcpAddresses) (l : TcpLink) : List TcpLinkAction → Prop
  | [] => True
  | .recv side maxLen :: actions => (l.step addresses (.recv side maxLen)).Draining addresses actions
  | .arrive side :: actions => l.inFlight side ≠ [] ∧ (l.step addresses (.arrive side)).Draining addresses actions
  | _ :: _ => False

def isArrival : TcpLinkAction → Bool
  | .arrive _ => true
  | _ => false

/-- A call only adds to the network. -/
theorem net_call (addresses : TcpAddresses) (l : TcpLink) {action : TcpLinkAction} (h : isArrival action = false)
    (side : TcpSide) :
    l.world.net side <+: (l.step addresses action).world.net side ∧
      (l.step addresses action).heard = l.heard := by
  have hupdate : ∀ (side' : TcpSide) (e : TcpEnd) (out : List TcpSegment),
      l.world.net side <+: (l.world.update side' e out).net side := by
    intro side' e out
    rcases side'.eq_or_eq_peer side with rfl | rfl
    · rw [TcpWorld.update_net_self]
      exact List.prefix_append _ _
    · rw [TcpWorld.update_net_peer]
  cases action with
  | send side' data =>
      simp only [step, TcpWorld.step]
      split
      · exact ⟨List.prefix_refl _, trivial⟩
      · exact ⟨hupdate side' _ _, trivial⟩
  | recv side' maxLen => exact ⟨hupdate side' _ _, rfl⟩
  | close side' => exact ⟨hupdate side' _ _, rfl⟩
  | arrive side' => cases h

theorem step_heardOk (addresses : TcpAddresses) {l : TcpLink} (h : l.HeardOk) (action : TcpLinkAction) :
    (l.step addresses action).HeardOk := by
  cases harrival : isArrival action with
  | false =>
      intro side
      rcases net_call addresses l harrival side.peer with ⟨hnet, hheard⟩
      rw [hheard]
      exact (h side).trans hnet.length_le
  | true =>
      cases action with
      | arrive side =>
          by_cases hflight : l.inFlight side = []
          · simp only [step, hflight]
            exact h
          · exact (arrive_weight addresses h hflight).2
      | _ => cases harrival

/-- Reading sends nothing. -/
theorem inFlight_recv (addresses : TcpAddresses) (l : TcpLink) (side : TcpSide) (maxLen : Nat) :
    (l.step addresses (.recv side maxLen)).inFlight = l.inFlight := by
  funext side'
  simp only [step, TcpWorld.step, inFlight, TcpWorld.update, List.append_nil, Function.update_eq_self]

theorem weight_recv (addresses : TcpAddresses) (l : TcpLink) (side : TcpSide) (maxLen : Nat) :
    (l.step addresses (.recv side maxLen)).weight = l.weight := by
  rw [weight, weight, inFlight_recv]

theorem Draining.arrivals_le {addresses : TcpAddresses} {l : TcpLink} (hheard : l.HeardOk)
    {actions : List TcpLinkAction} (h : l.Draining addresses actions) : actions.countP isArrival ≤ l.weight := by
  induction actions generalizing l with
  | nil => exact Nat.zero_le _
  | cons action actions ih =>
      cases action with
      | recv side maxLen =>
          have hrest := ih (step_heardOk addresses hheard _) h
          rwa [weight_recv] at hrest
      | arrive side =>
          rcases arrive_weight addresses hheard h.1 with ⟨hlighter, hheard'⟩
          have hrest := ih hheard' h.2
          rw [List.countP_cons_of_pos rfl]
          omega
      | _ => exact h.elim

theorem run_heardOk (addresses : TcpAddresses) (actions : List TcpLinkAction) :
    ((initial addresses).run addresses actions).HeardOk := by
  have hrun : ∀ l : TcpLink, l.HeardOk → (l.run addresses actions).HeardOk := by
    induction actions with
    | nil => exact fun _ h => h
    | cons action actions ih => exact fun l h => ih _ (step_heardOk addresses h action)
  exact hrun _ fun _ => Nat.zero_le _

/-- Two sockets do not answer each other for ever: after any run, what is in flight and all the answers to it have
arrived after so many arrivals. -/
theorem tcp_link_drains (addresses : TcpAddresses) (before after : List TcpLinkAction)
    (h : ((initial addresses).run addresses before).Draining addresses after) :
    after.countP isArrival ≤ ((initial addresses).run addresses before).weight :=
  h.arrivals_le (run_heardOk addresses before)

/-- The SYN, its answer and the acknowledgement of the answer. -/
theorem tcp_link_drains_handshake :
    3 ≤ ((initial exampleAddresses).run exampleAddresses []).weight :=
  tcp_link_drains exampleAddresses [] [.arrive .server, .recv .client 1, .arrive .client, .arrive .server]
    ⟨by decide +kernel, by decide +kernel, by decide +kernel, trivial⟩

/-! ## Applications that read -/

/-- An arrival adds nothing to what was sent. -/
theorem deliver_sent (addresses : TcpAddresses) (w : TcpWorld) (side : TcpSide) (segment : TcpSegment)
    (side' : TcpSide) :
    ((w.deliver addresses side segment).ends side').sent = (w.ends side').sent ∧
      ((w.deliver addresses side segment).ends side').finSent = (w.ends side').finSent := by
  have hupdate : ∀ (e : TcpEnd) (out : List TcpSegment), e.sent = (w.ends side).sent →
      e.finSent = (w.ends side).finSent →
        ((w.update side e out).ends side').sent = (w.ends side').sent ∧
          ((w.update side e out).ends side').finSent = (w.ends side').finSent := by
    intro e out hsent hfin
    rcases side.eq_or_eq_peer side' with rfl | rfl
    · rw [TcpWorld.update_ends_self]
      exact ⟨hsent, hfin⟩
    · rw [TcpWorld.update_ends_peer]
      exact ⟨rfl, rfl⟩
  rw [TcpWorld.deliver]
  split
  swap
  · exact ⟨rfl, rfl⟩
  split
  · exact ⟨rfl, rfl⟩
  · rename_i e hreceiver
    rw [TcpWorld.receiver] at hreceiver
    split at hreceiver
    · cases hreceiver
      exact hupdate _ _ rfl rfl
    · split at hreceiver
      · cases hreceiver
        exact hupdate _ _ rfl rfl
      · cases hreceiver

theorem recv_sent (addresses : TcpAddresses) (l : TcpLink) (side : TcpSide) (maxLen : Nat) (side' : TcpSide) :
    ((l.step addresses (.recv side maxLen)).world.ends side').sent = (l.world.ends side').sent ∧
      ((l.step addresses (.recv side maxLen)).world.ends side').finSent = (l.world.ends side').finSent := by
  simp only [step, TcpWorld.step]
  rcases side.eq_or_eq_peer side' with rfl | rfl
  · rw [TcpWorld.update_ends_self]
    exact ⟨rfl, rfl⟩
  · rw [TcpWorld.update_ends_peer]
    exact ⟨rfl, rfl⟩

theorem arrive_sent (addresses : TcpAddresses) (l : TcpLink) (side : TcpSide) (side' : TcpSide) :
    ((l.step addresses (.arrive side)).world.ends side').sent = (l.world.ends side').sent ∧
      ((l.step addresses (.arrive side)).world.ends side').finSent = (l.world.ends side').finSent := by
  rw [step]
  split
  · exact ⟨rfl, rfl⟩
  · exact deliver_sent addresses l.world side _ side'

theorem orderly_append {addresses : TcpAddresses} {l : TcpLink} {before after : List TcpLinkAction} :
    l.Orderly addresses (before ++ after) ↔
      l.Orderly addresses before ∧ (l.run addresses before).Orderly addresses after := by
  induction before generalizing l with
  | nil => exact (and_iff_right trivial).symm
  | cons action before ih =>
      rw [List.cons_append, Orderly, Orderly, ih, and_assoc]
      rfl

section Reading

variable {addresses : TcpAddresses} (hport : ∀ side, 0 < addresses.port side)

include hport

omit hport in
/-- After a side has read everything, the next segment may arrive there. -/
theorem Good.allows_after_recv {l : TcpLink} (h : l.Good addresses) (side : TcpSide) :
    (l.step addresses (.recv side tcpSocketBufferSize)).Allows (.arrive side) := by
  intro segment hsegment
  rw [inFlight_recv] at hsegment
  have hmem := mem_inFlight (List.mem_of_mem_head? hsegment)
  have hempty : ((l.step addresses (.recv side tcpSocketBufferSize)).world.ends side).socket.recvBuffer.data = [] := by
    simp only [TcpLink.step, TcpWorld.step, TcpWorld.update_ends_self]
    exact RecvBufferOk.recv_all (h.inOrder side).buffer
  rw [hempty, List.length_nil, Nat.zero_add]
  exact (h.addressed side.peer segment hmem).fits

/-- From a good state, reads and arrivals lead to one in which nothing is in flight. -/
theorem Good.completes {l : TcpLink} (h : l.Good addresses)
    (hbound : ∀ side, (l.world.ends side).sent.length < 2 ^ 31) :
    ∃ actions, l.Draining addresses actions ∧ l.Orderly addresses actions ∧
      (∀ side, (l.run addresses actions).inFlight side = []) ∧
        ∀ side, ((l.run addresses actions).world.ends side).sent = (l.world.ends side).sent ∧
          ((l.run addresses actions).world.ends side).finSent = (l.world.ends side).finSent := by
  induction hweight : l.weight using Nat.strong_induction_on generalizing l with
  | _ n ih =>
      by_cases hquiet : ∀ side, l.inFlight side = []
      · exact ⟨[], trivial, trivial, hquiet, fun _ => ⟨rfl, rfl⟩⟩
      rcases not_forall.mp hquiet with ⟨side, hflight⟩
      -- the side reads, and its oldest segment arrives
      have hread := h.step hport hbound (show l.Allows (.recv side tcpSocketBufferSize) from trivial)
      have hsent := recv_sent addresses l side tcpSocketBufferSize
      have hallows := h.allows_after_recv side
      have hlight := weight_recv addresses l side tcpSocketBufferSize
      have hflight' : (l.step addresses (.recv side tcpSocketBufferSize)).inFlight side ≠ [] := by
        rw [inFlight_recv]
        exact hflight
      generalize hl : l.step addresses (.recv side tcpSocketBufferSize) = l' at hread hsent hallows hlight hflight'
      have hbound' : ∀ side, (l'.world.ends side).sent.length < 2 ^ 31 := by
        intro side'
        rw [(hsent side').1]
        exact hbound side'
      have hgood := hread.step hport hbound' hallows
      have harrived := arrive_sent addresses l' side
      have hlighter := (arrive_weight addresses hread.heard_le hflight').1
      rw [hlight, hweight] at hlighter
      have hbound'' : ∀ side', ((l'.step addresses (.arrive side)).world.ends side').sent.length < 2 ^ 31 := by
        intro side'
        rw [(harrived side').1]
        exact hbound' side'
      rcases ih _ hlighter hgood hbound'' rfl with ⟨actions, hdrain, horderly, hdone, hsame⟩
      subst hl
      refine ⟨.recv side tcpSocketBufferSize :: .arrive side :: actions, ⟨hflight', hdrain⟩,
        ⟨trivial, hallows, horderly⟩, hdone, fun side' => ?_⟩
      exact ⟨(hsame side').1.trans ((harrived side').1.trans (hsent side').1),
        (hsame side').2.trans ((harrived side').2.trans (hsent side').2)⟩

/-- After any orderly run, applications that only read can bring in everything that was sent: the run can be continued
with reads and arrivals until nothing is in flight, and then each side has all that the other one had sent. -/
theorem tcp_link_completes {before : List TcpLinkAction} (horderly : (initial addresses).Orderly addresses before)
    (hbound : ∀ side, (((initial addresses).run addresses before).world.ends side).sent.length < 2 ^ 31) :
    ∃ after, ((initial addresses).run addresses before).Draining addresses after ∧
      (initial addresses).Orderly addresses (before ++ after) ∧
        ∀ side, ((initial addresses).run addresses (before ++ after)).inFlight side = [] ∧
          Settled (((initial addresses).run addresses (before ++ after)).world.ends side)
            (((initial addresses).run addresses (before ++ after)).world.ends side.peer) ∧
          (((initial addresses).run addresses (before ++ after)).world.ends side).entered =
            (((initial addresses).run addresses before).world.ends side.peer).sent := by
  have hgood := (initial_good addresses).run hport horderly hbound
  rcases hgood.completes hport hbound with ⟨after, hdrain, hafter, hquiet, hsame⟩
  have hrun : (initial addresses).run addresses (before ++ after) =
      ((initial addresses).run addresses before).run addresses after := List.foldl_append
  have hbound' : ∀ side, ((((initial addresses).run addresses before).run addresses after).world.ends
      side).sent.length < 2 ^ 31 := by
    intro side
    rw [(hsame side).1]
    exact hbound side
  refine ⟨after, hdrain, orderly_append.mpr ⟨horderly, hafter⟩, fun side => ?_⟩
  rw [hrun]
  have hsettled := (hgood.run hport hafter hbound').settled hquiet side
  exact ⟨hquiet side, hsettled, hsettled.entered.trans (hsame side.peer).1⟩

end Reading

/-- The client has sent and closed, and nothing of it has arrived. -/
theorem tcp_link_completes_unheard :
    ∃ after, ((initial exampleAddresses).run exampleAddresses
        [.arrive .server, .arrive .client, .send .client [1, 2, 3], .close .client]).Draining exampleAddresses after ∧
      ∃ l : TcpLink, l = (initial exampleAddresses).run exampleAddresses
          ([.arrive .server, .arrive .client, .send .client [1, 2, 3], .close .client] ++ after) ∧
        l.inFlight .client = [] ∧ l.inFlight .server = [] ∧ (l.world.ends .server).entered = [1, 2, 3] := by
  have hport : ∀ side, 0 < exampleAddresses.port side := by
    intro side
    cases side
    all_goals decide
  have hbound : ∀ side, (((initial exampleAddresses).run exampleAddresses
      [.arrive .server, .arrive .client, .send .client [1, 2, 3], .close .client]).world.ends
        side).sent.length < 2 ^ 31 := by
    intro side
    cases side
    all_goals decide +kernel
  rcases tcp_link_completes hport (by decide +kernel) hbound with ⟨after, hdrain, -, hsettled⟩
  exact ⟨after, hdrain, _, rfl, (hsettled .client).1, (hsettled .server).1,
    (hsettled .server).2.2.trans (by decide +kernel)⟩

end TcpLink

end MagiStack
