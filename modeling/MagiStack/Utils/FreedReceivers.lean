import MagiStack.Topology.NodeNames
import MagiStack.Topology.RealtimeDelivery
import MagiStack.Utils.LoaderState

/-!
# FreedReceivers — frames in flight when their nodes are freed

Runs in realtime mode that send frames, tick and change the topology in any order.  The in-flight table keeps
pointers to the interfaces its frames go to, and `simulator_remove_node`, `simulator_clear` and `simulator_load`
free nodes without looking at it.

Every frame in flight has a receiver that is still there in exactly those runs in which a node is removed only
while no frame is on its way to it, and in which the simulator is cleared only while the table is empty.
-/

namespace MagiStack

/-! ## Runs -/

/-- A call of `interface_send`, which is what calls `transmit`, or of `sim_clock_tick`, the next slot of a tick, or
a change of the topology. -/
inductive RealtimeAction
  | send (sender : Interface) (bytes : List UInt8) (speed nowMs : ℚ)
  | tick (nowMs : ℚ)
  | slot
  | topology (action : SimulatorAction exactFloat)
  | clear
  | load (alloc : Nat → Option Nat) (file : Option Text)

/-- The simulator and the frames in flight. -/
structure RealtimeState where
  sim : Simulator exactFloat
  clock : ClockState

/-- `simulator_load` parses the file to an object, and so clears the simulator. -/
def fileClears (A : CFloat) (file : Option Text) : Bool :=
  match file with
  | none => false
  | some content =>
      match jsonParse A (content.takeWhile (· ≠ 0)) with
      | some (.object _) => true
      | _ => false

namespace RealtimeState

instance (s : Simulator exactFloat) (iface : Interface) : Decidable (s.Live iface) :=
  inferInstanceAs (Decidable (_ ∧ _))

/-- Neither memory nor the table hold anything. -/
def init (heap : Nat → Node) (links : Nat → Link exactFloat) : RealtimeState :=
  { sim := simulatorInit heap links, clock := ClockState.init }

/-- The frames in flight, after a call that only they see. -/
def clockStep (s : RealtimeState) (action : DeliveryAction) : RealtimeState :=
  { s with clock := s.clock.deliverStep s.sim.links action }

/-- One call; an interface sends only while its node is there. -/
def step (s : RealtimeState) : RealtimeAction → RealtimeState
  | .send sender bytes speed nowMs =>
      if s.sim.Live sender then
        match s.sim.linkOf sender with
        | none => s
        | some link => s.clockStep (.transmit sender link bytes speed nowMs)
      else
        s
  | .tick nowMs => s.clockStep (.tick nowMs)
  | .slot => s.clockStep .slot
  | .topology action => { s with sim := s.sim.step action }
  | .clear => { s with sim := simulatorClear s.sim }
  | .load alloc file =>
      match simulatorLoadFile alloc s.sim file with
      | .ok sim => { s with sim := sim }
      | .error sim => { s with sim := sim }

def run (s : RealtimeState) (actions : List RealtimeAction) : RealtimeState :=
  actions.foldl step s

/-- The states an action leads through: `simulator_load` has freed every node before it creates the first. -/
def stages (s : RealtimeState) (action : RealtimeAction) : List RealtimeState :=
  match action with
  | .load _ file =>
      if fileClears exactFloat file then
        [{ s with sim := simulatorClear s.sim }, s.step action]
      else
        [s.step action]
  | _ => [s.step action]

/-- The states a run leads through. -/
def visits (s : RealtimeState) : List RealtimeAction → List RealtimeState
  | [] => [s]
  | action :: rest => s :: s.stages action ++ (s.step action).visits rest

/-- The receivers of the frames in flight are interfaces of nodes that are there, and so is the receiver of
what the next slot of a tick delivers. -/
structure ReceiversLive (s : RealtimeState) : Prop where
  receivers : ∀ i p, s.clock.inFlight i = some p → s.sim.Live p.receiver
  delivers : ∀ d, (s.step .slot).clock.received = s.clock.received ++ [d] → s.sim.Live d.receiver

/-- No frame is in flight. -/
def Quiet (s : RealtimeState) : Prop :=
  ∀ i, s.clock.inFlight i = none

/-- The condition on a step: the nodes it frees are not awaited. -/
def StepOk (s : RealtimeState) : RealtimeAction → Prop
  | .topology (.removeNode name) =>
      ∀ entry, s.sim.findEntry name = some entry →
        ∀ i p, s.clock.inFlight i = some p → p.receiver.node ≠ entry.node
  | .clear => s.Quiet
  | .load _ file => fileClears exactFloat file = true → s.Quiet
  | _ => True

/-- Every step of the run meets the condition. -/
def RunOk (s : RealtimeState) : List RealtimeAction → Prop
  | [] => True
  | action :: rest => s.StepOk action ∧ (s.step action).RunOk rest

end RealtimeState

/-! ## What an interface finds in its slot -/

namespace Simulator

variable {A : CFloat}

/-- The table is coherent, no two nodes have one address, and an interface that finds itself in the slot it
points to, even one the table has left behind, finds the ends of an entry there. -/
structure Wired (s : Simulator A) : Prop where
  coherent : s.Coherent
  addresses : (s.nodes.map SimulatorNodeEntry.node).Nodup
  current : ∀ i x, s.Live x → s.linkOf x = some i → linkTouches (s.links i) x = true →
    ∃ j, j < s.linkCount ∧ (s.links j).interface1 = (s.links i).interface1 ∧
      (s.links j).interface2 = (s.links i).interface2

/-- What an interface sends goes to an interface that is there. -/
theorem Wired.receiver_live {s : Simulator A} (h : s.Wired) {x receiver : Interface} {i : Nat}
    (hlive : s.Live x) (hlink : s.linkOf x = some i)
    (hreceiver : transmit x (s.links i) = some receiver) : s.Live receiver := by
  -- Both the sender and the receiver are ends of the slot.
  have hends : linkTouches (s.links i) x = true ∧ linkTouches (s.links i) receiver = true := by
    rw [transmit] at hreceiver
    split_ifs at hreceiver with hfirst hsecond
    · exact ⟨linkTouches_iff.mpr (Or.inl hfirst), linkTouches_iff.mpr (Or.inr hreceiver)⟩
    · exact ⟨linkTouches_iff.mpr (Or.inr hsecond), linkTouches_iff.mpr (Or.inl hreceiver)⟩
  rcases h.current i x hlive hlink hends.1 with ⟨j, hj, hfirst, hsecond⟩
  refine h.coherent.live hj ?_
  rw [linkTouches_iff, hfirst, hsecond]
  exact linkTouches_iff.mp hends.2

/-- A simulator without nodes and links. -/
theorem wired_empty {s : Simulator A} (hnodes : s.nodes = []) (hcount : s.linkCount = 0) :
    s.Wired := by
  refine ⟨⟨fun i hi => ?_, fun i j x hi => ?_, fun i x hi => ?_⟩, ?_, fun i x hlive => ?_⟩
  · exact absurd (hcount ▸ hi) (Nat.not_lt_zero i)
  · exact absurd (hcount ▸ hi) (Nat.not_lt_zero i)
  · exact absurd (hcount ▸ hi) (Nat.not_lt_zero i)
  · rw [hnodes]
    exact List.nodup_nil
  · rcases hlive.1 with ⟨entry, hentry, -⟩
    rw [hnodes] at hentry
    exact absurd hentry List.not_mem_nil

/-- A node in memory that was not in use. -/
theorem Wired.created {s : Simulator A} (h : s.Wired) {address : Nat} (hfresh : ¬ s.InUse address)
    (type : SimulatorNodeType) (name : Text) (requestedPorts : Int) :
    (s.created type name requestedPorts address).Wired := by
  refine ⟨h.coherent.created hfresh type name requestedPorts, ?_, fun i x hlive hlink htouches => ?_⟩
  · simp only [Simulator.created, List.map_append, List.map_cons, List.map_nil]
    rw [← List.concat_eq_append]
    refine h.addresses.concat fun hmem => ?_
    rcases List.mem_map.mp hmem with ⟨entry, hentry, heq⟩
    exact hfresh ⟨entry, hentry, heq⟩
  · by_cases hnew : x.node = address
    · -- A new interface points nowhere.
      simp only [linkOf, hnew, Simulator.created, Function.update_self] at hlink
      cases hlink
    · have hheap := created_heap_of_ne s type name requestedPorts hnew
      have hold : s.Live x := by
        rcases hlive with ⟨⟨entry, hentry, hnode⟩, hport⟩
        rcases List.mem_append.mp hentry with hold | hlast
        · exact ⟨⟨entry, hold, hnode⟩, hheap ▸ hport⟩
        · rw [List.mem_singleton.mp hlast] at hnode
          exact absurd hnode.symm hnew
      rw [linkOf, hheap] at hlink
      exact h.current i x hold hlink htouches

/-- A device is configured. -/
theorem Wired.setDevice {s : Simulator A} (h : s.Wired) (address : Nat) (device : Device) :
    (s.setDevice address device).Wired := by
  have hheap : ∀ other, ((s.setDevice address device).heap other).link = (s.heap other).link ∧
      ((s.setDevice address device).heap other).numInterfaces = (s.heap other).numInterfaces := by
    intro other
    by_cases hother : other = address
    · simp [Simulator.setDevice, hother]
    · simp [Simulator.setDevice, hother]
  have hlinkOf : ∀ x, (s.setDevice address device).linkOf x = s.linkOf x := by
    intro x
    rw [linkOf, (hheap x.node).1, linkOf]
  have hlive : ∀ x, (s.setDevice address device).Live x ↔ s.Live x := by
    intro x
    rw [Live, Live, (hheap x.node).2]
    rfl
  refine ⟨⟨fun i hi => ?_, h.coherent.disjoint, fun i x hi hx => ?_⟩, h.addresses,
    fun i x hx hlink => ?_⟩
  · rcases h.coherent.ends i hi with ⟨a, b, ha, hb, hne, hliveA, hliveB⟩
    exact ⟨a, b, ha, hb, hne, (hlive a).mpr hliveA, (hlive b).mpr hliveB⟩
  · rw [hlinkOf]
    exact h.coherent.linked i x hi hx
  · rw [hlinkOf] at hlink
    exact h.current i x ((hlive x).mp hx) hlink

/-- A new link stands in the slot its interfaces point to. -/
theorem Wired.addLink {s s' : Simulator A} (h : s.Wired) {a b : Interface} {delay : A.Single}
    (hne : a ≠ b) (ha : s.linkOf a = none) (hb : s.linkOf b = none) (hliveA : s.Live a)
    (hliveB : s.Live b) (hadd : AddedLink s s' a b delay) (hslots : ∀ i, i ≠ s.linkCount →
      s'.links i = s.links i) : s'.Wired := by
  refine ⟨h.coherent.addLink hne ha hb hliveA hliveB hadd, ?_, fun i x hlive hlink htouches => ?_⟩
  · rw [hadd.sameNodes.nodes]
    exact h.addresses
  · rw [hadd.linkOf] at hlink
    split_ifs at hlink with hend
    · cases hlink
      exact ⟨s.linkCount, by rw [hadd.linkCount]; exact Nat.lt_succ_self _, rfl, rfl⟩
    · have hi : i ≠ s.linkCount := by
        rintro rfl
        exact hend ((hadd.touches_last x).mp htouches)
      rw [hslots i hi] at htouches ⊢
      rcases h.current i x ((hadd.sameNodes.live x).mp hlive) hlink htouches with ⟨j, hj, hsame⟩
      refine ⟨j, by rw [hadd.linkCount]; exact Nat.lt_succ_of_lt hj, ?_⟩
      rw [hadd.kept j hj]
      exact hsame

/-- `simulator_link` writes no slot but the new one. -/
theorem simulatorLink_links {s s' : Simulator A} {endpointA endpointB : Text} {delay : A.Single}
    (hlink : simulatorLink s endpointA endpointB delay = some s') {i : Nat} (hi : i ≠ s.linkCount) :
    s'.links i = s.links i := by
  have hinit : ∀ a b delay', (linkInit { s with linkCount := s.linkCount + 1 } s.linkCount a b
      delay').links i = s.links i := by
    intro a b delay'
    rw [linkInit, linkLink]
    split_ifs
    · exact Function.update_of_ne hi _ _
    · exact (Function.update_of_ne hi _ _).trans (Function.update_of_ne hi _ _)
  rw [simulatorLink] at hlink
  split at hlink
  · cases hlink
  · split at hlink
    · split at hlink
      · cases hlink
      · split at hlink
        · cases hlink
        · split at hlink
          · cases hlink
          · rw [← Option.some.inj hlink]
            exact hinit _ _ _
    · cases hlink

theorem Wired.link {s s' : Simulator A} (h : s.Wired) {endpointA endpointB : Text}
    {delay : A.Single} (hlink : simulatorLink s endpointA endpointB delay = some s') : s'.Wired := by
  rcases simulatorLink_eq_some hlink with ⟨a, b, hendA, hendB, -, hne, ha, hb, hadd⟩
  exact h.addLink hne ha hb (endpointToInterface_live hendA) (endpointToInterface_live hendB) hadd
    fun i hi => simulatorLink_links hlink hi

/-- What stands in a slot after an entry was removed: an entry of the table before, nothing, or what stood
there. -/
theorem removeLink_slot (s : Simulator A) (i k : Nat) :
    (i ≤ k ∧ k + 1 < s.linkCount ∧ (removeLink s i).links k = (linkUnlink s i).links (k + 1)) ∨
      (¬ (i ≤ k ∧ k + 1 < s.linkCount) ∧
        (k = i ∧ (∀ x, linkTouches ((removeLink s i).links k) x = false) ∨
          k ≠ i ∧ (removeLink s i).links k = s.links k)) := by
  rcases linkUnlink_spec s i with ⟨-, hcount, hlinks, -⟩
  have hslot : (removeLink s i).links k =
      if i ≤ k ∧ k + 1 < s.linkCount then (linkUnlink s i).links (k + 1)
      else (linkUnlink s i).links k := by
    rw [← hcount]
    rfl
  by_cases hmoved : i ≤ k ∧ k + 1 < s.linkCount
  · rw [if_pos hmoved] at hslot
    exact Or.inl ⟨hmoved.1, hmoved.2, hslot⟩
  · rw [if_neg hmoved] at hslot
    rw [hslot]
    by_cases hki : k = i
    · have hcleared : (linkUnlink s i).links i =
          { s.links i with interface1 := none, interface2 := none } := Function.update_self _ _ _
      refine Or.inr ⟨hmoved, Or.inl ⟨hki, fun x => ?_⟩⟩
      rw [hki, hcleared]
      rfl
    · exact Or.inr ⟨hmoved, Or.inr ⟨hki, hlinks k hki⟩⟩

/-- An entry is removed and the later ones move down. -/
theorem Wired.remove {s : Simulator A} (h : s.Wired) {i : Nat} (hi : i < s.linkCount) :
    (removeLink s i).Wired := by
  rcases removeLink_spec s hi with ⟨hnodes, hcount, hlinks, hlinkOf⟩
  refine ⟨h.coherent.remove hi, ?_, fun k x hlive hlink htouches => ?_⟩
  · rw [hnodes.nodes]
    exact h.addresses
  · have hother : ¬ linkTouches (s.links i) x = true := by
      intro hremoved
      rw [hlinkOf, if_pos hremoved] at hlink
      cases hlink
    rw [hlinkOf, if_neg hother] at hlink
    rcases removeLink_slot s i k with ⟨hik, hk, -⟩ | ⟨hmoved, ⟨-, hnone⟩ | ⟨-, hslot⟩⟩
    · -- The slot is one of those that are left.
      exact ⟨k, by omega, rfl, rfl⟩
    · rw [hnone] at htouches
      cases htouches
    · rw [hslot] at htouches ⊢
      rcases h.current k x ((hnodes.live x).mp hlive) hlink htouches with ⟨j, hj, hfirst, hsecond⟩
      have hne : j ≠ i := by
        rintro rfl
        rw [linkTouches_iff, ← hfirst, ← hsecond] at htouches
        exact hother (linkTouches_iff.mpr htouches)
      rcases Nat.lt_or_gt_of_ne hne with hlt | hgt
      · refine ⟨j, by omega, ?_⟩
        rw [hlinks j (by omega), placeBefore, if_pos hlt]
        exact ⟨hfirst, hsecond⟩
      · have hback : placeBefore i (j - 1) = j := by
          rw [placeBefore, if_neg (by omega)]
          omega
        refine ⟨j - 1, by omega, ?_⟩
        rw [hlinks (j - 1) (by omega), hback]
        exact ⟨hfirst, hsecond⟩

theorem Wired.unlinkPorts {s : Simulator A} (h : s.Wired) (node n : Nat) :
    (s.unlinkPorts node n).Wired := by
  induction n with
  | zero => exact h
  | succ n ih =>
      rw [unlinkPorts_succ]
      rcases ih.coherent.unlinkInterface_cases { node := node, port := n } with
        ⟨heq, -⟩ | ⟨i, hi, -, heq⟩
      · rwa [heq]
      · rw [heq]
        exact ih.remove hi

/-- A node is removed with its links. -/
theorem Wired.removeNode {s s' : Simulator A} (h : s.Wired) {name : Text}
    (hremove : simulatorRemoveNode s name = some s') : s'.Wired := by
  have hcoherent := h.coherent.removeNode hremove
  rcases simulatorRemoveNode_eq_some hremove with
    ⟨index, entry, -, -, hnodes, hheap, hlinks, hcount⟩
  have hunlinked := h.unlinkPorts entry.node (s.heap entry.node).numInterfaces
  refine ⟨hcoherent, ?_, fun i x hlive hlink htouches => ?_⟩
  · rw [hnodes]
    exact hunlinked.addresses.sublist ((List.eraseIdx_sublist _ _).map _)
  · have hbefore : (s.unlinkPorts entry.node (s.heap entry.node).numInterfaces).Live x := by
      rcases hlive with ⟨⟨other, hother, hnode⟩, hport⟩
      rw [hnodes] at hother
      rw [hheap] at hport
      exact ⟨⟨other, List.mem_of_mem_eraseIdx hother, hnode⟩, hport⟩
    rw [linkOf, hheap] at hlink
    rw [hlinks] at htouches ⊢
    rw [hcount]
    exact hunlinked.current i x hbefore hlink htouches

theorem Wired.step {s : Simulator A} (h : s.Wired) (action : SimulatorAction A) :
    (s.step action).Wired := by
  cases action with
  | createNode type name requestedPorts address =>
      refine getD_holds h fun s' hcreate => ?_
      rcases simulatorCreateNode_eq_some hcreate with ⟨nodeType, a, -, hcalloc, -, -, rfl⟩
      exact h.created (calloc_eq_some hcalloc) nodeType name requestedPorts
  | link endpointA endpointB delay => exact getD_holds h fun _ => h.link
  | unlink endpointA endpointB =>
      refine getD_holds h fun s' hunlink => ?_
      rcases simulatorUnlink_eq_some hunlink with ⟨-, -, i, -, -, -, hi, rfl⟩
      exact h.remove hi
  | removeNode name => exact getD_holds h fun _ => h.removeNode

end Simulator

/-! ## Loading -/

section Loading

variable {A : CFloat}

/-- A load leaves a simulator with a property, whether it succeeds or not. -/
def Leaves (p : Simulator A → Prop) : Except (Simulator A) (Simulator A) → Prop
  | .ok s => p s
  | .error s => p s

theorem Leaves.bind {p : Simulator A → Prop} {r : Except (Simulator A) (Simulator A)}
    (h : Leaves p r) {f : Simulator A → Except (Simulator A) (Simulator A)}
    (hf : ∀ s, p s → Leaves p (f s)) : Leaves p (r >>= f) := by
  cases r with
  | error s => exact h
  | ok s => exact hf s h

theorem Leaves.foldlM {p : Simulator A → Prop}
    {f : Simulator A → JsonValue A.Double → Except (Simulator A) (Simulator A)}
    (hf : ∀ s item, p s → Leaves p (f s item)) {s : Simulator A} (h : p s)
    (items : List (JsonValue A.Double)) : Leaves p (items.foldlM f s) := by
  induction items generalizing s with
  | nil => exact h
  | cons item items ih =>
      rw [List.foldlM_cons]
      exact (hf s item h).bind fun s' hs' => ih hs'

theorem Simulator.Wired.loadNode {s : Simulator A} (h : s.Wired) (alloc : Nat → Option Nat)
    (type name : Text) (requestedPorts : Int) (configure : Node → Device) :
    Leaves Simulator.Wired (loadNode alloc s type name requestedPorts configure) := by
  rw [MagiStack.loadNode]
  cases hcreate : simulatorCreateNode s type name requestedPorts (s.calloc (alloc s.nodes.length)) with
  | none => exact h
  | some s' =>
      rcases Simulator.simulatorCreateNode_eq_some hcreate with ⟨nodeType, a, -, hcalloc, -, -, rfl⟩
      have hcreated := h.created (Simulator.calloc_eq_some hcalloc) nodeType name requestedPorts
      simp only
      split
      · exact hcreated
      · exact hcreated.setDevice _ _

theorem Simulator.Wired.loadLink {s : Simulator A} (h : s.Wired) (l : JsonValue A.Double) :
    (loadLink s l).Wired := by
  rcases loadLink_cases s l with heq | ⟨endpoint1, endpoint2, delay, hlink⟩
  · rwa [heq]
  · exact h.link hlink

/-- Loading a parsed file, whatever is in it. -/
theorem wired_loadRoot (alloc : Nat → Option Nat) (s : Simulator A) (root : JsonValue A.Double) :
    Leaves Simulator.Wired (loadRoot alloc s root) := by
  have hhost : ∀ (s : Simulator A) item, s.Wired →
      Leaves Simulator.Wired (loadHost alloc s item) := by
    intro s item h
    rw [loadHost]
    split
    · exact h.loadNode _ _ _ _ _
    · exact h
  have hswitch : ∀ (s : Simulator A) item, s.Wired →
      Leaves Simulator.Wired (loadSwitch alloc s item) := by
    intro s item h
    rw [loadSwitch]
    split
    · exact h.loadNode _ _ _ _ _
    · exact h
  have hrouter : ∀ (s : Simulator A) item, s.Wired →
      Leaves Simulator.Wired (loadRouter alloc s item) := by
    intro s item h
    rw [loadRouter]
    split
    · exact h.loadNode _ _ _ _ _
    · exact h
  have hclear : (simulatorClear s).Wired := Simulator.wired_empty rfl rfl
  rw [loadRoot]
  refine (Leaves.foldlM hhost hclear _).bind fun s₁ h₁ => ?_
  refine (Leaves.foldlM hswitch h₁ _).bind fun s₂ h₂ => ?_
  refine (Leaves.foldlM hrouter h₂ _).bind fun s₃ h₃ => ?_
  exact List.foldlRecOn _ _ (motive := Simulator.Wired) h₃ fun s' hs' item _ => hs'.loadLink item

theorem Simulator.Wired.loadFile {s : Simulator A} (h : s.Wired) (alloc : Nat → Option Nat)
    (file : Option Text) : Leaves Simulator.Wired (simulatorLoadFile alloc s file) := by
  cases file with
  | none => exact h
  | some content =>
      change Leaves Simulator.Wired (simulatorLoad alloc s content)
      rw [simulatorLoad]
      split
      · exact wired_loadRoot alloc s _
      · exact h

/-- A load that does not clear the simulator changes nothing. -/
theorem simulatorLoadFile_of_not_clears {file : Option Text} (hfile : fileClears A file = false)
    (alloc : Nat → Option Nat) (s : Simulator A) :
    simulatorLoadFile alloc s file = .error s := by
  cases file with
  | none => rfl
  | some content =>
      change simulatorLoad alloc s content = .error s
      rw [simulatorLoad]
      split
      · rename_i members hparse
        simp only [fileClears, hparse] at hfile
        cases hfile
      · rfl

end Loading

/-! ## The frames in flight -/

namespace ClockState

/-- A frame that is in flight after a call was so before, or has just been sent. -/
theorem deliverStep_flight (links : Nat → Link exactFloat) (s : ClockState) (action : DeliveryAction)
    {i : Fin simInflightMax} {p : InFlightPacket}
    (hp : (s.deliverStep links action).inFlight i = some p) :
    s.inFlight i = some p ∨
      ∃ sender link bytes speed nowMs, action = .transmit sender link bytes speed nowMs ∧
        MagiStack.transmit sender (links link) = some p.receiver := by
  cases action with
  | tick nowMs => exact Or.inl hp
  | transmit sender link bytes speed nowMs =>
      cases hreceiver : MagiStack.transmit sender (links link) with
      | none =>
          rw [deliverStep, transmit_none hreceiver] at hp
          exact Or.inl hp
      | some receiver =>
          rcases transmit_some hreceiver speed { s with now := nowMs } bytes with
            ⟨-, -, ⟨-, -, hflying⟩ | ⟨-, -, j, q, -, hflying, hq, -⟩⟩
          · rw [deliverStep, hflying] at hp
            exact Or.inl hp
          · rw [deliverStep, hflying] at hp
            by_cases hij : i = j
            · -- The new frame goes to the other end.
              rw [hij, Function.update_self] at hp
              have hsame : p.receiver = receiver := by
                rw [← Option.some.inj hp]
                exact congrArg Delivery.receiver hq
              exact Or.inr ⟨sender, link, bytes, speed, nowMs, rfl, by rw [hreceiver, hsame]⟩
            · rw [Function.update_of_ne hij] at hp
              exact Or.inl hp
  | slot =>
      refine Or.inl ?_
      cases htick : s.tick with
      | none =>
          rw [deliverStep, htick] at hp
          exact hp
      | some tick =>
          rw [deliverStep_slot links htick] at hp
          rcases tickSlot_cases s tick.1 tick.2 with
            ⟨-, ⟨-, heq⟩ | ⟨-, -, ⟨-, hflying, -⟩ | ⟨j, q, -, -, -, -, hflying⟩⟩⟩
          · rw [heq] at hp
            exact hp
          · rwa [hflying] at hp
          · rw [hflying] at hp
            by_cases hij : i = j
            · rw [hij, Function.update_self] at hp
              cases hp
            · rwa [Function.update_of_ne hij] at hp

/-- What a slot delivers was in flight. -/
theorem deliverStep_delivers (links : Nat → Link exactFloat) (s : ClockState) {d : Delivery}
    (hd : (s.deliverStep links .slot).received = s.received ++ [d]) :
    ∃ i p, s.inFlight i = some p ∧ p.delivery = d := by
  have hlonger : ∀ e : List Delivery, e = s.received ++ [d] → e ≠ s.received := by
    rintro e rfl hsame
    have hlength := congrArg List.length hsame
    rw [List.length_append, List.length_singleton] at hlength
    omega
  cases htick : s.tick with
  | none =>
      rw [deliverStep, htick] at hd
      exact absurd rfl (hlonger _ hd)
  | some tick =>
      rw [deliverStep_slot links htick] at hd
      rcases tickSlot_cases s tick.1 tick.2 with
        ⟨-, ⟨-, heq⟩ | ⟨-, -, ⟨hreceived, -⟩ | ⟨j, q, -, hq, -, hreceived, -⟩⟩⟩
      · rw [heq] at hd
        exact absurd rfl (hlonger _ hd)
      · exact absurd hreceived (hlonger _ hd)
      · rw [hreceived] at hd
        exact ⟨j, q, hq, List.singleton_inj.mp (List.append_cancel_left hd)⟩

end ClockState

/-! ## One step -/

namespace RealtimeState

open Simulator

theorem receiversLive_iff {s : RealtimeState} :
    s.ReceiversLive ↔ ∀ i p, s.clock.inFlight i = some p → s.sim.Live p.receiver := by
  refine ⟨fun h => h.receivers, fun h => ⟨h, fun d hd => ?_⟩⟩
  rcases ClockState.deliverStep_delivers s.sim.links s.clock hd with ⟨i, p, hp, rfl⟩
  exact h i p hp

theorem Quiet.receiversLive {s : RealtimeState} (h : s.Quiet) : s.ReceiversLive := by
  refine receiversLive_iff.mpr fun i p hp => ?_
  rw [h i] at hp
  cases hp

/-- Only an empty table survives the nodes. -/
theorem receiversLive_cleared_iff (s : RealtimeState) :
    ({ s with sim := simulatorClear s.sim } : RealtimeState).ReceiversLive ↔ s.Quiet := by
  constructor
  · intro h i
    cases hp : s.clock.inFlight i with
    | none => rfl
    | some p =>
        rcases (h.receivers i p hp).1 with ⟨entry, hentry, -⟩
        exact absurd hentry List.not_mem_nil
  · intro h
    have hcleared : ({ s with sim := simulatorClear s.sim } : RealtimeState).Quiet := h
    exact hcleared.receiversLive

theorem wired_step {s : RealtimeState} (h : s.sim.Wired) (action : RealtimeAction) :
    (s.step action).sim.Wired := by
  cases action with
  | send sender bytes speed nowMs =>
      rw [step]
      split_ifs
      · split
        · exact h
        · exact h
      · exact h
  | tick nowMs => exact h
  | slot => exact h
  | topology action => exact h.step action
  | clear => exact wired_empty rfl rfl
  | load alloc file =>
      have hload := h.loadFile alloc file
      rw [step]
      split
      · rename_i sim hresult
        rwa [hresult] at hload
      · rename_i sim hresult
        rwa [hresult] at hload

/-- Sending and ticking put no freed receiver into the table. -/
theorem ReceiversLive.clockStep {s : RealtimeState} (h : s.ReceiversLive) {action : DeliveryAction}
    (hsent : ∀ sender link bytes speed nowMs receiver,
      action = .transmit sender link bytes speed nowMs →
        transmit sender (s.sim.links link) = some receiver → s.sim.Live receiver) :
    (s.clockStep action).ReceiversLive := by
  refine receiversLive_iff.mpr fun i p hp => ?_
  rcases ClockState.deliverStep_flight s.sim.links s.clock action hp with
    hold | ⟨sender, link, bytes, speed, nowMs, haction, hreceiver⟩
  · exact h.receivers i p hold
  · exact hsent sender link bytes speed nowMs p.receiver haction hreceiver

/-- The interfaces of the other nodes stay when a node is removed, and its own go. -/
theorem live_removeNode {s s' : Simulator exactFloat} (h : s.Wired) {name : Text}
    (hremove : simulatorRemoveNode s name = some s') {entry : SimulatorNodeEntry}
    (hfound : s.findEntry name = some entry) {x : Interface} (hlive : s.Live x) :
    s'.Live x ↔ x.node ≠ entry.node := by
  rcases simulatorRemoveNode_eq_some hremove with
    ⟨index, entry', hindex, hentry, hnodes, hheap, -⟩
  have hsame : entry' = entry := by
    rw [findEntry, hindex, Option.bind_some, hentry] at hfound
    exact Option.some.inj hfound
  rw [hsame] at hentry hnodes hheap
  have hkept := (h.coherent.removing entry.node (s.heap entry.node).numInterfaces).sameNodes
  rw [hkept.nodes] at hnodes
  constructor
  · rintro ⟨⟨other, hother, hnode⟩, -⟩ heq
    rw [hnodes] at hother
    rcases List.mem_eraseIdx_iff_getElem?.mp hother with ⟨k, hk, hat⟩
    -- Two entries with one address are at one place.
    have hlt : k < (s.nodes.map SimulatorNodeEntry.node).length := by
      rw [List.length_map]
      exact (List.getElem?_eq_some_iff.mp hat).1
    refine hk ((List.getElem?_inj hlt h.addresses).mp ?_)
    rw [List.getElem?_map, List.getElem?_map, hat, hentry, Option.map_some, Option.map_some, hnode,
      heq]
  · intro hne
    rcases hlive with ⟨⟨other, hother, hnode⟩, hport⟩
    refine ⟨⟨other, ?_, hnode⟩, ?_⟩
    · rw [hnodes]
      rcases List.mem_iff_getElem?.mp hother with ⟨k, hk⟩
      refine List.mem_eraseIdx_iff_getElem?.mpr ⟨k, fun hsame => ?_, hk⟩
      rw [hsame, hentry] at hk
      exact hne (hnode.symm.trans (congrArg SimulatorNodeEntry.node (Option.some.inj hk).symm))
    · rw [hheap, hkept.numInterfaces]
      exact hport

/-- What a change of the topology that removes no node leaves. -/
theorem live_step {s : Simulator exactFloat} {action : SimulatorAction exactFloat}
    (haction : ∀ name, action ≠ .removeNode name) {x : Interface} (hlive : s.Live x) :
    (s.step action).Live x := by
  cases action with
  | createNode type name requestedPorts address =>
      refine @getD_holds _ (·.Live x) s hlive _ fun s' hcreate => ?_
      rcases simulatorCreateNode_eq_some hcreate with ⟨nodeType, a, -, hcalloc, -, -, rfl⟩
      exact (created_live (calloc_eq_some hcalloc) nodeType name requestedPorts hlive).1
  | link endpointA endpointB delay =>
      refine @getD_holds _ (·.Live x) s hlive _ fun s' hlink => ?_
      rcases simulatorLink_eq_some hlink with ⟨a, b, -, -, -, -, -, -, hadd⟩
      exact (hadd.sameNodes.live x).mpr hlive
  | unlink endpointA endpointB =>
      refine @getD_holds _ (·.Live x) s hlive _ fun s' hunlink => ?_
      rcases simulatorUnlink_eq_some hunlink with ⟨-, -, i, -, -, -, hi, rfl⟩
      exact ((removeLink_spec s hi).1.live x).mpr hlive
  | removeNode name => exact absurd rfl (haction name)

/-- Removing a node leaves the receivers exactly when none of them was on it. -/
theorem ReceiversLive.removeNode_iff {s : RealtimeState} (h : s.ReceiversLive) (hwired : s.sim.Wired)
    (name : Text) : (s.step (.topology (.removeNode name))).ReceiversLive ↔
      s.StepOk (.topology (.removeNode name)) := by
  rw [receiversLive_iff]
  cases hremove : simulatorRemoveNode s.sim name with
  | none =>
      have hstep : s.step (.topology (.removeNode name)) = s := by
        rw [step, Simulator.step, hremove]
        rfl
      rw [hstep]
      refine ⟨fun _ entry hfound => ?_, fun _ => h.receivers⟩
      -- A node that is found is removed.
      rcases Option.bind_eq_some_iff.mp hfound with ⟨index, hindex, hentry⟩
      rw [simulatorRemoveNode, hindex] at hremove
      simp only [hentry] at hremove
      cases hremove
  | some s' =>
      have hstep : s.step (.topology (.removeNode name)) = { s with sim := s' } := by
        rw [step, Simulator.step, hremove]
        rfl
      rw [hstep]
      rcases removeNode_nodes hremove with ⟨index, entry, hfound, -⟩
      constructor
      · intro hlive other hother i p hp
        rw [← Option.some.inj (hfound.symm.trans hother)]
        exact (live_removeNode hwired hremove hfound (h.receivers i p hp)).mp (hlive i p hp)
      · intro hok i p hp
        exact (live_removeNode hwired hremove hfound (h.receivers i p hp)).mpr
          (hok entry hfound i p hp)

/-- The step that the condition is about, and no other, can free a receiver. -/
theorem ReceiversLive.stages_iff {s : RealtimeState} (h : s.ReceiversLive) (hwired : s.sim.Wired)
    (action : RealtimeAction) :
    (∀ s' ∈ s.stages action, s'.ReceiversLive) ↔ s.StepOk action := by
  cases action with
  | send sender bytes speed nowMs =>
      refine ⟨fun _ => trivial, fun _ => List.forall_mem_singleton.mpr ?_⟩
      rw [step]
      split_ifs with hlive
      · split
        · exact h
        · rename_i link hlink
          refine h.clockStep fun sender' link' bytes' speed' nowMs' receiver haction hreceiver => ?_
          cases haction
          exact hwired.receiver_live hlive hlink hreceiver
      · exact h
  | tick nowMs =>
      refine ⟨fun _ => trivial, fun _ => List.forall_mem_singleton.mpr ?_⟩
      exact h.clockStep fun _ _ _ _ _ _ haction => (nomatch haction)
  | slot =>
      refine ⟨fun _ => trivial, fun _ => List.forall_mem_singleton.mpr ?_⟩
      exact h.clockStep fun _ _ _ _ _ _ haction => (nomatch haction)
  | clear => exact List.forall_mem_singleton.trans (receiversLive_cleared_iff s)
  | load alloc file =>
      rw [stages, StepOk]
      by_cases hfile : fileClears exactFloat file = true
      · rw [if_pos hfile]
        -- Loading clears the simulator first, and only that can free a receiver.
        constructor
        · intro hlive _
          exact (receiversLive_cleared_iff s).mp (hlive _ List.mem_cons_self)
        · intro hquiet s' hs'
          have hempty := hquiet hfile
          rcases List.mem_pair.mp hs' with rfl | rfl
          · exact (receiversLive_cleared_iff s).mpr hempty
          · refine Quiet.receiversLive fun i => ?_
            rw [step]
            split
            · exact hempty i
            · exact hempty i
      · rw [if_neg hfile]
        refine ⟨fun _ hclears => absurd hclears hfile, fun _ => List.forall_mem_singleton.mpr ?_⟩
        rw [step, simulatorLoadFile_of_not_clears (Bool.not_eq_true _ ▸ hfile)]
        exact h
  | topology action =>
      refine List.forall_mem_singleton.trans ?_
      by_cases hremoves : ∃ name, action = .removeNode name
      · rcases hremoves with ⟨name, rfl⟩
        exact h.removeNode_iff hwired name
      · have hkept : ∀ name, action ≠ .removeNode name := fun name heq => hremoves ⟨name, heq⟩
        have hok : s.StepOk (.topology action) := by
          cases action with
          | removeNode name => exact absurd rfl (hkept name)
          | _ => trivial
        refine ⟨fun _ => hok, fun _ => receiversLive_iff.mpr fun i p hp => ?_⟩
        exact live_step hkept (h.receivers i p hp)

/-- The last of the states is the one after the action. -/
theorem step_mem_stages (s : RealtimeState) (action : RealtimeAction) :
    s.step action ∈ s.stages action := by
  cases action with
  | load alloc file =>
      rw [stages]
      split_ifs
      · exact List.mem_cons_of_mem _ List.mem_cons_self
      · exact List.mem_cons_self
  | _ => exact List.mem_cons_self

theorem run_mem_visits (s : RealtimeState) (actions : List RealtimeAction) :
    s.run actions ∈ s.visits actions := by
  induction actions generalizing s with
  | nil => exact List.mem_cons_self
  | cons action rest ih => exact List.mem_append_right _ (ih (s.step action))

theorem visits_iff {s : RealtimeState} (hwired : s.sim.Wired) (actions : List RealtimeAction) :
    (∀ s' ∈ s.visits actions, s'.ReceiversLive) ↔ s.ReceiversLive ∧ s.RunOk actions := by
  induction actions generalizing s with
  | nil => exact List.forall_mem_singleton.trans (and_iff_left trivial).symm
  | cons action rest ih =>
      rw [visits, RunOk, List.forall_mem_append, List.forall_mem_cons]
      constructor
      · rintro ⟨⟨hlive, hstages⟩, hrest⟩
        exact ⟨hlive, (hlive.stages_iff hwired action).mp hstages,
          ((ih (wired_step hwired action)).mp hrest).2⟩
      · rintro ⟨hlive, hok, hrest⟩
        have hstages := (hlive.stages_iff hwired action).mpr hok
        refine ⟨⟨hlive, hstages⟩, (ih (wired_step hwired action)).mpr ⟨?_, hrest⟩⟩
        exact hstages _ (s.step_mem_stages action)

end RealtimeState

/-- Every frame in flight is on its way to a node that is still there, in every state of a run, exactly when
each step of it frees no node that a frame in flight is on its way to. -/
theorem receivers_live_iff (heap : Nat → Node) (links : Nat → Link exactFloat)
    (actions : List RealtimeAction) :
    (∀ s ∈ (RealtimeState.init heap links).visits actions, s.ReceiversLive) ↔
      (RealtimeState.init heap links).RunOk actions := by
  have hwired : (RealtimeState.init heap links).sim.Wired := Simulator.wired_empty rfl rfl
  have hstart : (RealtimeState.init heap links).ReceiversLive :=
    RealtimeState.Quiet.receiversLive fun _ => rfl
  exact (RealtimeState.visits_iff hwired actions).trans (and_iff_right hstart)

/-- Two hosts on a cable with a delay of ten milliseconds; one sends, the other is removed, and a tick begins. -/
def removedReceiver : List RealtimeAction :=
  [.topology (.createNode (text "host") (text "H1") 1 (some 0)),
    .topology (.createNode (text "host") (text "H2") 1 (some 1)),
    .topology (.link (text "H1:1") (text "H2:1") (10 : ℚ)),
    .send { node := 0, port := 0 } [7] 1 0,
    .topology (.removeNode (text "H2")),
    .tick 1000]

/-- The tick hands the frame to an interface of the host that was freed. -/
theorem receivers_live_iff_removed :
    let start := RealtimeState.init blankSimulator.heap blankSimulator.links
    ((start.run removedReceiver).step .slot).clock.received.map Delivery.receiver =
        [{ node := 1, port := 0 }] ∧
      ¬ (start.run removedReceiver).sim.InUse 1 ∧
      ¬ ∀ s ∈ start.visits removedReceiver, s.ReceiversLive := by
  intro start
  have hflying : ((start.run removedReceiver).clock.inFlight ⟨0, by decide⟩).map
      InFlightPacket.receiver = some { node := 1, port := 0 } := by decide +kernel
  have hfreed : ¬ (start.run removedReceiver).sim.InUse 1 := by decide +kernel
  refine ⟨by decide +kernel, hfreed, fun hlive => ?_⟩
  rcases Option.map_eq_some_iff.mp hflying with ⟨p, hp, hreceiver⟩
  have hreceiverLive := (hlive _ (start.run_mem_visits removedReceiver)).receivers _ p hp
  rw [hreceiver] at hreceiverLive
  exact hfreed hreceiverLive.1

end MagiStack
