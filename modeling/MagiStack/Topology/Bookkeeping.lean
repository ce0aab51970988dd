import Mathlib.Data.List.Perm.Subperm
import MagiStack.Library.StatusCall
import MagiStack.Topology.NodeNames

/-!
# Bookkeeping — pointers, the link table and the interface registry

What `simulator.c` keeps in three arrays and in its nodes agrees after every run: the `link` of an interface
is set exactly where one entry of the link table names it, and the registry holds the ports of the nodes,
each once.  The registry has room for the ports of as many nodes as there can be, so none is ever left out.
-/

namespace MagiStack

variable {A : CFloat}

open StatusCall

/-! ## What is returned and what is written -/

/-- `simulator_create_node`, where `calloc` returns `address`, with its writes. -/
def simulatorCreateNodeCall (type name : Text) (requestedPorts : Int) (address : Option Nat) :
    StateM (Simulator A) Bool := do
  let s ← get
  if (simulatorFindNode s name).isSome then
    return false
  if simulatorMaxNodes ≤ s.nodes.length then
    return false
  let some nodeType := parseNodeType type | return false
  let some address := address | return false
  modify fun s => { s with
    heap := Function.update s.heap address
      { name := strncpyTerminated name maxName
        numInterfaces := requestedPortCount requestedPorts
        numInterfaces_le := requestedPortCount_le requestedPorts
        link := fun _ => none
        device := deviceInit nodeType } }
  modify fun s => { s with
    interfaces := registerInterfaces s.interfaces address (requestedPortCount requestedPorts) }
  modify fun s => { s with
    nodes := s.nodes ++ [{ name := strncpyTerminated name maxName, type := nodeType, node := address }] }
  return true

/-- `simulator_link` with its writes. -/
def simulatorLinkCall (endpointA endpointB : Text) (delay : A.Single) : StateM (Simulator A) Bool := do
  let s ← get
  if simulatorMaxLinks ≤ s.linkCount then
    return false
  let delay := if A.isNegative delay then A.zero else delay
  let some a := endpointToInterface s endpointA | return false
  let some b := endpointToInterface s endpointB | return false
  if a = b then
    return false
  if (s.linkOf a).isSome || (s.linkOf b).isSome then
    return false
  if (findLink s fun link => linkJoins link a b).isSome then
    return false
  modify fun s => { s with linkCount := s.linkCount + 1 }
  modify fun linked => linkInit linked s.linkCount a b delay
  return true

/-- `simulator_unlink` with its writes. -/
def simulatorUnlinkCall (endpointA endpointB : Text) : StateM (Simulator A) Bool := do
  let s ← get
  let some a := endpointToInterface s endpointA | return false
  let some b := endpointToInterface s endpointB | return false
  let some i := findLink s fun link => linkJoins link a b | return false
  modify fun s => removeLink s i
  return true

/-- `simulator_remove_node` with its writes. -/
def simulatorRemoveNodeCall (name : Text) : StateM (Simulator A) Bool := do
  let s ← get
  let some index := simulatorFindNode s name | return false
  let some entry := s.nodes[index]? | return false
  for p in List.range (s.heap entry.node).numInterfaces do
    modify fun s => unlinkInterface s { node := entry.node, port := p }
  for p in List.range (s.heap entry.node).numInterfaces do
    modify fun s => { s with interfaces := s.interfaces.erase { node := entry.node, port := p } }
  modify fun s => { s with nodes := s.nodes.eraseIdx index }
  return true

theorem simulatorCreateNodeCall_commits (type name : Text) (requestedPorts : Int) (address : Option Nat) :
    Commits (simulatorCreateNodeCall type name requestedPorts address) fun s : Simulator A =>
      simulatorCreateNode s type name requestedPorts address := by
  intro s
  simp only [simulatorCreateNodeCall, StateT.run_bind, StateT.run_get, pure_bind, simulatorCreateNode]
  split_ifs
  · rfl
  · rfl
  · cases parseNodeType type with
    | none => rfl
    | some nodeType =>
        cases address with
        | none => rfl
        | some address => rfl

theorem simulatorLinkCall_commits (endpointA endpointB : Text) (delay : A.Single) :
    Commits (simulatorLinkCall endpointA endpointB delay) fun s : Simulator A =>
      simulatorLink s endpointA endpointB delay := by
  intro s
  simp only [simulatorLinkCall, StateT.run_bind, StateT.run_get, pure_bind, simulatorLink]
  by_cases hfull : simulatorMaxLinks ≤ s.linkCount
  · rw [if_pos hfull, if_pos hfull]
    rfl
  · rw [if_neg hfull, if_neg hfull]
    cases endpointToInterface s endpointA with
    | none => rfl
    | some a =>
        cases endpointToInterface s endpointB with
        | none => rfl
        | some b =>
            dsimp only
            split_ifs
            all_goals rfl

theorem simulatorUnlinkCall_commits (endpointA endpointB : Text) :
    Commits (simulatorUnlinkCall endpointA endpointB) fun s : Simulator A =>
      simulatorUnlink s endpointA endpointB := by
  intro s
  simp only [simulatorUnlinkCall, StateT.run_bind, StateT.run_get, pure_bind, simulatorUnlink]
  cases endpointToInterface s endpointA with
  | none => rfl
  | some a =>
      cases endpointToInterface s endpointB with
      | none => rfl
      | some b =>
          dsimp only
          cases findLink s fun link => linkJoins link a b with
          | none => rfl
          | some i => rfl

/-- Taking interfaces out of the registry changes nothing else. -/
theorem foldl_erase_interfaces (s : Simulator A) (node : Nat) (ports : List Nat) :
    ports.foldl (fun s p => { s with interfaces := s.interfaces.erase { node := node, port := p } }) s =
      { s with
        interfaces :=
          ports.foldl (fun interfaces p => interfaces.erase { node := node, port := p }) s.interfaces } := by
  induction ports generalizing s with
  | nil => rfl
  | cons p ports ih => exact ih _

theorem simulatorRemoveNodeCall_commits (name : Text) :
    Commits (simulatorRemoveNodeCall name) fun s : Simulator A => simulatorRemoveNode s name := by
  intro s
  simp only [simulatorRemoveNodeCall, StateT.run_bind, StateT.run_get, pure_bind, simulatorRemoveNode]
  cases simulatorFindNode s name with
  | none => rfl
  | some index =>
      dsimp only
      cases s.nodes[index]? with
      | none => rfl
      | some entry =>
          dsimp only
          rw [run_forIn_bind, run_forIn_bind, foldl_erase_interfaces]
          rfl

namespace Simulator

/-! ## The property -/

/-- The call of an action: what it returns and what it leaves. -/
def call (s : Simulator A) : SimulatorAction A → Bool × Simulator A
  | .createNode type name requestedPorts address =>
      (simulatorCreateNodeCall type name requestedPorts (s.calloc address)).run s
  | .link endpointA endpointB delay => (simulatorLinkCall endpointA endpointB delay).run s
  | .unlink endpointA endpointB => (simulatorUnlinkCall endpointA endpointB).run s
  | .removeNode name => (simulatorRemoveNodeCall name).run s

/-- Pointers, link table and registry agree, and what returns `0` changes nothing. -/
structure Bookkept (s : Simulator A) : Prop where
  linked : ∀ x, s.InUse x.node →
    ((s.linkOf x).isSome = true ↔ ∃! i, i < s.linkCount ∧ linkTouches (s.links i) x = true)
  ends : ∀ i, i < s.linkCount →
    ∃ a b, (s.links i).interface1 = some a ∧ (s.links i).interface2 = some b ∧ a ≠ b
  registered : ∀ x, x ∈ s.interfaces ↔ s.Live x
  once : s.interfaces.Nodup
  stepped : ∀ action, s.step action = (s.call action).2
  refused : ∀ action, (s.call action).1 = false → (s.call action).2 = s

/-! ## Calls that return `0` -/

theorem step_eq_call (s : Simulator A) (action : SimulatorAction A) : s.step action = (s.call action).2 := by
  cases action with
  | createNode type name requestedPorts address =>
      rw [call, simulatorCreateNodeCall_commits, committed_snd]
      rfl
  | link endpointA endpointB delay =>
      rw [call, simulatorLinkCall_commits, committed_snd]
      rfl
  | unlink endpointA endpointB =>
      rw [call, simulatorUnlinkCall_commits, committed_snd]
      rfl
  | removeNode name =>
      rw [call, simulatorRemoveNodeCall_commits, committed_snd]
      rfl

theorem call_keeps {s : Simulator A} {action : SimulatorAction A} (h : (s.call action).1 = false) :
    (s.call action).2 = s := by
  cases action with
  | createNode type name requestedPorts address =>
      exact (simulatorCreateNodeCall_commits type name requestedPorts _).keeps h
  | link endpointA endpointB delay => exact (simulatorLinkCall_commits endpointA endpointB delay).keeps h
  | unlink endpointA endpointB => exact (simulatorUnlinkCall_commits endpointA endpointB).keeps h
  | removeNode name => exact (simulatorRemoveNodeCall_commits name).keeps h

/-! ## The invariant -/

/-- An interface with a link is named by an entry. -/
def Joined (s : Simulator A) : Prop :=
  ∀ x, s.InUse x.node → (s.linkOf x).isSome = true →
    ∃ i, i < s.linkCount ∧ linkTouches (s.links i) x = true

/-- The registry holds the ports of the nodes, each once, and the nodes are where no other is. -/
structure Registered (s : Simulator A) : Prop where
  addresses : (s.nodes.map SimulatorNodeEntry.node).Nodup
  size : s.nodes.length ≤ simulatorMaxNodes
  once : s.interfaces.Nodup
  ports : ∀ x, x ∈ s.interfaces ↔ s.Live x

/-- What holds in every state of a run. -/
structure Consistent (s : Simulator A) : Prop where
  coherent : s.Coherent
  joined : s.Joined
  registered : s.Registered

theorem Consistent.bookkept {s : Simulator A} (h : s.Consistent) : s.Bookkept where
  linked := by
    intro x hx
    constructor
    · intro hlink
      obtain ⟨i, hi, htouches⟩ := h.joined x hx hlink
      exact ⟨i, ⟨hi, htouches⟩, fun j hj => h.coherent.disjoint j i x hj.1 hi hj.2 htouches⟩
    · rintro ⟨i, ⟨hi, htouches⟩, -⟩
      exact h.coherent.linked i x hi htouches
  ends := by
    intro i hi
    obtain ⟨a, b, ha, hb, hne, -, -⟩ := h.coherent.ends i hi
    exact ⟨a, b, ha, hb, hne⟩
  registered := h.registered.ports
  once := h.registered.once
  stepped := s.step_eq_call
  refused _ := call_keeps

/-! ## Interfaces with a link -/

/-- Every entry but the one removed stands somewhere. -/
theorem exists_placeBefore {s : Simulator A} {i j : Nat} (hi : i < s.linkCount) (hj : j < s.linkCount)
    (hne : j ≠ i) : ∃ j', j' < (removeLink s i).linkCount ∧ placeBefore i j' = j := by
  have hcount := (removeLink_spec s hi).2.1
  by_cases hlt : j < i
  · exact ⟨j, by omega, if_pos hlt⟩
  · refine ⟨j - 1, by omega, ?_⟩
    rw [placeBefore, if_neg (by omega)]
    omega

theorem Joined.remove {s : Simulator A} (h : s.Joined) {i : Nat} (hi : i < s.linkCount) :
    (removeLink s i).Joined := by
  obtain ⟨hnodes, -, hlinks, hlinkOf⟩ := removeLink_spec s hi
  intro x hx hlink
  rw [hlinkOf] at hlink
  split at hlink
  · cases hlink
  · rename_i hnot
    rw [InUse, hnodes.nodes] at hx
    obtain ⟨j, hj, htouches⟩ := h x hx hlink
    have hne : j ≠ i := fun heq => hnot (heq ▸ htouches)
    obtain ⟨j', hj', hplace⟩ := exists_placeBefore hi hj hne
    refine ⟨j', hj', ?_⟩
    rw [hlinks j' hj', hplace]
    exact htouches

theorem Joined.unlinkInterface {s : Simulator A} (h : s.Joined) (hcoherent : s.Coherent) (x : Interface) :
    (unlinkInterface s x).Joined := by
  obtain ⟨heq, -⟩ | ⟨i, hi, -, heq⟩ := hcoherent.unlinkInterface_cases x
  · rwa [heq]
  · rw [heq]
    exact h.remove hi

theorem Joined.unlinkPorts {s : Simulator A} (h : s.Joined) (hcoherent : s.Coherent) (node n : Nat) :
    (s.unlinkPorts node n).Joined := by
  induction n with
  | zero => exact h
  | succ n ih =>
      rw [unlinkPorts_succ]
      exact ih.unlinkInterface (hcoherent.removing node n).coherent _

theorem Joined.removeNode {s s' : Simulator A} (h : s.Joined) (hcoherent : s.Coherent) {name : Text}
    (hremove : simulatorRemoveNode s name = some s') : s'.Joined := by
  obtain ⟨index, entry, -, -, hnodes, hheap, hlinks, hcount⟩ := simulatorRemoveNode_eq_some hremove
  have hdone := h.unlinkPorts hcoherent entry.node (s.heap entry.node).numInterfaces
  intro x hx hlink
  rw [hcount, hlinks]
  refine hdone x ?_ ?_
  · obtain ⟨other, hother, hnode⟩ := hx
    rw [hnodes] at hother
    exact ⟨other, List.mem_of_mem_eraseIdx hother, hnode⟩
  · rwa [linkOf, hheap] at hlink

theorem Joined.addLink {s s' : Simulator A} (h : s.Joined) {a b : Interface} {delay : A.Single}
    (hadd : AddedLink s s' a b delay) : s'.Joined := by
  intro x hx hlink
  rw [hadd.linkOf] at hlink
  split at hlink
  · rename_i hends
    exact ⟨s.linkCount, by rw [hadd.linkCount]; exact Nat.lt_succ_self _, (hadd.touches_last x).mpr hends⟩
  · rw [InUse, hadd.sameNodes.nodes] at hx
    obtain ⟨i, hi, htouches⟩ := h x hx hlink
    refine ⟨i, by rw [hadd.linkCount]; exact Nat.lt_succ_of_lt hi, ?_⟩
    rwa [hadd.kept i hi]

theorem created_heap_self (s : Simulator A) (type : SimulatorNodeType) (name : Text) (requestedPorts : Int)
    (address : Nat) :
    ((s.created type name requestedPorts address).heap address).link = (fun _ => none) ∧
      ((s.created type name requestedPorts address).heap address).numInterfaces =
        requestedPortCount requestedPorts := by
  have hheap := Function.update_self address (f := s.heap)
  exact ⟨congrArg Node.link (hheap _), congrArg Node.numInterfaces (hheap _)⟩

theorem Joined.created {s : Simulator A} (h : s.Joined) (type : SimulatorNodeType) (name : Text)
    (requestedPorts : Int) (address : Nat) : (s.created type name requestedPorts address).Joined := by
  rintro x ⟨entry, hentry, hnode⟩ hlink
  by_cases hnew : x.node = address
  · -- The interfaces of the new node have no link.
    rw [linkOf, hnew, (created_heap_self s type name requestedPorts address).1] at hlink
    cases hlink
  · rcases List.mem_append.mp hentry with hold | hlast
    · rw [linkOf, created_heap_of_ne s type name requestedPorts hnew] at hlink
      exact h x ⟨entry, hold, hnode⟩ hlink
    · rw [List.mem_singleton.mp hlast] at hnode
      exact absurd hnode.symm hnew

/-! ## The registry -/

/-- The ports of a node, as they are entered. -/
def portsOf (address count : Nat) : List Interface :=
  (List.range count).map fun port => { node := address, port := port }

theorem mem_portsOf {address count : Nat} {x : Interface} :
    x ∈ portsOf address count ↔ x.node = address ∧ x.port < count := by
  rcases x with ⟨node, port⟩
  simp only [portsOf, List.mem_map, List.mem_range, Interface.mk.injEq]
  constructor
  · rintro ⟨port', hport, rfl, rfl⟩
    exact ⟨rfl, hport⟩
  · rintro ⟨rfl, hport⟩
    exact ⟨port, hport, rfl, rfl⟩

theorem nodup_portsOf (address count : Nat) : (portsOf address count).Nodup :=
  List.nodup_range.map fun _ _ heq => (Interface.mk.inj heq).2

/-- With room for all of them, the ports of a new node are entered behind the others. -/
theorem registerInterfaces_eq {interfaces : List Interface} {count : Nat}
    (hroom : interfaces.length + count ≤ simulatorMaxInterfaces) (address : Nat) :
    registerInterfaces interfaces address count = interfaces ++ portsOf address count := by
  induction count with
  | zero => exact (List.append_nil _).symm
  | succ count ih =>
      have hlast : registerInterfaces interfaces address (count + 1) =
          if (registerInterfaces interfaces address count).length < simulatorMaxInterfaces then
            registerInterfaces interfaces address count ++ [{ node := address, port := count }]
          else registerInterfaces interfaces address count := by
        rw [registerInterfaces, List.range_succ, List.foldl_append]
        rfl
      rw [hlast, ih (by omega), if_pos, portsOf, portsOf, List.range_succ, List.map_append, List.append_assoc]
      · rfl
      · rw [List.length_append, portsOf, List.length_map, List.length_range]
        omega

/-- The registry is no longer than all ports that its nodes could have. -/
theorem Registered.length_le {s : Simulator A} (h : s.Registered) :
    s.interfaces.length ≤ maxPort * s.nodes.length := by
  -- No interface is there twice, so that the registry is no longer than the ports of all nodes.
  have hsubset : s.interfaces ⊆ s.nodes.flatMap fun entry => portsOf entry.node maxPort := by
    intro x hx
    obtain ⟨⟨entry, hentry, hnode⟩, hport⟩ := (h.ports x).mp hx
    exact List.mem_flatMap.mpr
      ⟨entry, hentry, mem_portsOf.mpr ⟨hnode.symm, hport.trans_le (s.heap x.node).numInterfaces_le⟩⟩
  refine (List.subperm_of_subset h.once hsubset).length_le.trans (le_of_eq ?_)
  rw [List.length_flatMap]
  simp [portsOf, Nat.mul_comm]

theorem Registered.created {s : Simulator A} (h : s.Registered) (hroom : s.nodes.length < simulatorMaxNodes)
    {address : Nat} (hfresh : ¬ s.InUse address) (type : SimulatorNodeType) (name : Text)
    (requestedPorts : Int) : (s.created type name requestedPorts address).Registered := by
  have hcount : requestedPortCount requestedPorts ≤ maxPort := Nat.min_le_right _ _
  have hinterfaces : (s.created type name requestedPorts address).interfaces =
      s.interfaces ++ portsOf address (requestedPortCount requestedPorts) := by
    refine registerInterfaces_eq ?_ address
    -- There is room for the ports of one more node.
    have hlength := h.length_le
    calc
      s.interfaces.length + requestedPortCount requestedPorts ≤ maxPort * s.nodes.length + maxPort :=
        Nat.add_le_add hlength hcount
      _ = maxPort * (s.nodes.length + 1) := rfl
      _ ≤ maxPort * simulatorMaxNodes := Nat.mul_le_mul_left _ hroom
      _ = simulatorMaxInterfaces := rfl
  have hnotLive : ∀ x : Interface, x.node = address → ¬ s.Live x := fun x hx hlive =>
    hfresh (hx ▸ hlive.1)
  have hlive : ∀ x, (s.created type name requestedPorts address).Live x ↔
      s.Live x ∨ x.node = address ∧ x.port < requestedPortCount requestedPorts := by
    intro x
    constructor
    · rintro ⟨⟨entry, hentry, hnode⟩, hport⟩
      by_cases hnew : x.node = address
      · rw [hnew, (created_heap_self s type name requestedPorts address).2] at hport
        exact Or.inr ⟨hnew, hport⟩
      · rw [created_heap_of_ne s type name requestedPorts hnew] at hport
        rcases List.mem_append.mp hentry with hold | hlast
        · exact Or.inl ⟨⟨entry, hold, hnode⟩, hport⟩
        · rw [List.mem_singleton.mp hlast] at hnode
          exact absurd hnode.symm hnew
    · rintro (hold | ⟨hnew, hport⟩)
      · exact (created_live hfresh type name requestedPorts hold).1
      · refine ⟨⟨_, List.mem_append_right _ (List.mem_singleton_self _), hnew.symm⟩, ?_⟩
        rw [hnew, (created_heap_self s type name requestedPorts address).2]
        exact hport
  refine ⟨?_, ?_, ?_, fun x => ?_⟩
  · rw [Simulator.created, List.map_append]
    refine List.nodup_append.mpr ⟨h.addresses, List.nodup_singleton _, ?_⟩
    rintro a ha b hb rfl
    obtain ⟨entry, hentry, hnode⟩ := List.mem_map.mp ha
    exact hfresh ⟨entry, hentry, hnode.trans (List.mem_singleton.mp hb)⟩
  · rw [Simulator.created, List.length_append]
    exact hroom
  · rw [hinterfaces]
    refine List.nodup_append.mpr ⟨h.once, nodup_portsOf _ _, ?_⟩
    rintro x hx y hy rfl
    exact hnotLive x (mem_portsOf.mp hy).1 ((h.ports x).mp hx)
  · rw [hinterfaces, List.mem_append, h.ports, mem_portsOf, hlive]

/-- Taking the ports of a node out, one after the other. -/
theorem foldl_erase_eq (interfaces : List Interface) (address count : Nat) :
    (List.range count).foldl (fun interfaces port => interfaces.erase { node := address, port := port })
      interfaces = interfaces.diff (portsOf address count) := by
  rw [List.diff_eq_foldl, portsOf, List.foldl_map]

theorem removeLink_interfaces (s : Simulator A) (i : Nat) : (removeLink s i).interfaces = s.interfaces := by
  rw [removeLink, linkUnlink]
  cases (s.links i).interface1 with
  | none =>
      cases (s.links i).interface2 with
      | none => rfl
      | some b => rfl
  | some a =>
      cases (s.links i).interface2 with
      | none => rfl
      | some b => rfl

theorem unlinkPorts_interfaces (s : Simulator A) (node n : Nat) :
    (s.unlinkPorts node n).interfaces = s.interfaces := by
  induction n with
  | zero => rfl
  | succ n ih =>
      rw [unlinkPorts_succ, unlinkInterface]
      split
      · split
        · exact ih
        · rw [removeLink_interfaces, ih]
      · exact ih

theorem removeNode_interfaces {s s' : Simulator A} {name : Text}
    (h : simulatorRemoveNode s name = some s') :
    ∃ entry, s.findEntry name = some entry ∧
      s'.interfaces = s.interfaces.diff (portsOf entry.node (s.heap entry.node).numInterfaces) := by
  rw [simulatorRemoveNode] at h
  split at h
  · cases h
  · rename_i index hindex
    split at h
    · cases h
    · rename_i entry hentry
      cases h
      refine ⟨entry, ?_, ?_⟩
      · rw [findEntry, hindex, Option.bind_some, hentry]
      · rw [foldl_erase_eq]
        exact congrArg (List.diff · _) (unlinkPorts_interfaces s entry.node _)

/-- The nodes that are left are those at other addresses. -/
theorem Registered.mem_eraseIdx {s : Simulator A} (h : s.Registered) {index : Nat}
    {entry : SimulatorNodeEntry} (hentry : s.nodes[index]? = some entry) {other : SimulatorNodeEntry} :
    other ∈ s.nodes.eraseIdx index ↔ other ∈ s.nodes ∧ other.node ≠ entry.node := by
  rw [List.mem_eraseIdx_iff_getElem?, List.mem_iff_getElem?]
  constructor
  · rintro ⟨place, hne, hplace⟩
    refine ⟨⟨place, hplace⟩, fun hsame => hne ?_⟩
    -- Two entries with one address are the same entry.
    have hlt : place < (s.nodes.map SimulatorNodeEntry.node).length := by
      rw [List.length_map]
      exact (List.getElem?_eq_some_iff.mp hplace).1
    refine (List.getElem?_inj hlt h.addresses).mp ?_
    rw [List.getElem?_map, List.getElem?_map, hplace, hentry, Option.map_some, Option.map_some, hsame]
  · rintro ⟨⟨place, hplace⟩, hne⟩
    refine ⟨place, ?_, hplace⟩
    rintro rfl
    exact hne (congrArg SimulatorNodeEntry.node (Option.some.inj (hplace.symm.trans hentry)))

theorem Registered.removeNode {s s' : Simulator A} (h : s.Registered) (hcoherent : s.Coherent) {name : Text}
    (hremove : simulatorRemoveNode s name = some s') : s'.Registered := by
  obtain ⟨index, entry, hfind, hentry, hnodes⟩ := removeNode_nodes hremove
  obtain ⟨removed, hremoved, hinterfaces⟩ := removeNode_interfaces hremove
  cases hfind.symm.trans hremoved
  have hports : ∀ address, (s'.heap address).numInterfaces = (s.heap address).numInterfaces := by
    obtain ⟨_, found, -, -, -, hheap, -⟩ := simulatorRemoveNode_eq_some hremove
    rw [hheap]
    exact (hcoherent.removing found.node (s.heap found.node).numInterfaces).sameNodes.numInterfaces
  have hsublist : s'.nodes.Sublist s.nodes := by
    rw [hnodes]
    exact List.eraseIdx_sublist _ _
  refine ⟨h.addresses.sublist (hsublist.map _), hsublist.length_le.trans h.size, ?_, fun x => ?_⟩
  · rw [hinterfaces]
    exact h.once.diff
  · rw [hinterfaces, h.once.mem_sdiff_iff, h.ports, mem_portsOf, Live, Live, InUse, InUse, hports, hnodes]
    constructor
    · rintro ⟨⟨⟨other, hother, hnode⟩, hport⟩, hnot⟩
      refine ⟨⟨other, (h.mem_eraseIdx hentry).mpr ⟨hother, fun hsame => ?_⟩, hnode⟩, hport⟩
      have hgone : x.node = entry.node := hnode.symm.trans hsame
      exact hnot ⟨hgone, hgone ▸ hport⟩
    · rintro ⟨⟨other, hother, hnode⟩, hport⟩
      obtain ⟨hold, hne⟩ := (h.mem_eraseIdx hentry).mp hother
      exact ⟨⟨⟨other, hold, hnode⟩, hport⟩, fun hgone => hne (hnode.trans hgone.1)⟩

/-- The other actions leave the nodes and the registry as they are. -/
theorem Registered.sameNodes {s s' : Simulator A} (h : s.Registered) (hnodes : SameNodes s s')
    (hinterfaces : s'.interfaces = s.interfaces) : s'.Registered := by
  refine ⟨hnodes.nodes ▸ h.addresses, hnodes.nodes ▸ h.size, hinterfaces ▸ h.once, fun x => ?_⟩
  rw [hinterfaces, h.ports, hnodes.live]

theorem simulatorLink_interfaces {s s' : Simulator A} {endpointA endpointB : Text} {delay : A.Single}
    (hlink : simulatorLink s endpointA endpointB delay = some s') : s'.interfaces = s.interfaces := by
  have hinit : ∀ (s : Simulator A) slot a b delay,
      (linkInit s slot a b delay).interfaces = s.interfaces := by
    intro s slot a b delay
    rw [linkInit, linkLink]
    split
    · rfl
    · rfl
  rw [simulatorLink] at hlink
  generalize (if A.isNegative delay then A.zero else delay) = kept at hlink
  split_ifs at hlink
  split at hlink
  · split_ifs at hlink
    rw [← Option.some.inj hlink, hinit]
  · cases hlink

/-! ## One step -/

theorem Consistent.createNode {s s' : Simulator A} (h : s.Consistent) {type name : Text}
    {requestedPorts : Int} {address : Option Nat}
    (hcreate : simulatorCreateNode s type name requestedPorts (s.calloc address) = some s') :
    s'.Consistent := by
  obtain ⟨nodeType, a, -, hcalloc, -, hroom, rfl⟩ := simulatorCreateNode_eq_some hcreate
  have hfresh := calloc_eq_some hcalloc
  exact
    { coherent := h.coherent.created hfresh nodeType name requestedPorts
      joined := h.joined.created nodeType name requestedPorts a
      registered := h.registered.created hroom hfresh nodeType name requestedPorts }

theorem Consistent.link {s s' : Simulator A} (h : s.Consistent) {endpointA endpointB : Text}
    {delay : A.Single} (hlink : simulatorLink s endpointA endpointB delay = some s') : s'.Consistent := by
  obtain ⟨a, b, hendA, hendB, -, hne, ha, hb, hadd⟩ := simulatorLink_eq_some hlink
  exact
    { coherent := h.coherent.addLink hne ha hb (endpointToInterface_live hendA)
        (endpointToInterface_live hendB) hadd
      joined := h.joined.addLink hadd
      registered := h.registered.sameNodes hadd.sameNodes (simulatorLink_interfaces hlink) }

theorem Consistent.unlink {s s' : Simulator A} (h : s.Consistent) {endpointA endpointB : Text}
    (hunlink : simulatorUnlink s endpointA endpointB = some s') : s'.Consistent := by
  obtain ⟨-, -, i, -, -, -, hi, rfl⟩ := simulatorUnlink_eq_some hunlink
  exact
    { coherent := h.coherent.remove hi
      joined := h.joined.remove hi
      registered := h.registered.sameNodes (removeLink_spec s hi).1 (removeLink_interfaces s i) }

theorem Consistent.step {s : Simulator A} (h : s.Consistent) (action : SimulatorAction A) :
    (s.step action).Consistent := by
  cases action with
  | createNode type name requestedPorts address => exact getD_holds h fun _ => h.createNode
  | link endpointA endpointB delay => exact getD_holds h fun _ => h.link
  | unlink endpointA endpointB => exact getD_holds h fun _ => h.unlink
  | removeNode name =>
      exact getD_holds h fun _ hremove =>
        { coherent := h.coherent.removeNode hremove
          joined := h.joined.removeNode h.coherent hremove
          registered := h.registered.removeNode h.coherent hremove }

/-! ## Runs -/

theorem consistent_init (heap : Nat → Node) (links : Nat → Link A) :
    (simulatorInit heap links).Consistent where
  coherent := (ok_init heap links).coherent
  joined := fun _ ⟨_, hentry, _⟩ => absurd hentry List.not_mem_nil
  registered :=
    { addresses := List.nodup_nil
      size := Nat.zero_le _
      once := List.nodup_nil
      ports := fun _ =>
        ⟨fun hx => absurd hx List.not_mem_nil, fun hx => absurd hx.1.choose_spec.1 List.not_mem_nil⟩ }

theorem Consistent.run {s : Simulator A} (h : s.Consistent) (actions : List (SimulatorAction A)) :
    (s.run actions).Consistent := by
  induction actions generalizing s with
  | nil => exact h
  | cons action actions ih => exact ih (h.step action)

end Simulator

/-- After any run pointers, link table, nodes and registry agree, and what returns `0` changes nothing. -/
theorem simulator_bookkeeping (heap : Nat → Node) (links : Nat → Link A)
    (actions : List (SimulatorAction A)) : ((simulatorInit heap links).run actions).Bookkept :=
  ((Simulator.consistent_init heap links).run actions).bookkept

end MagiStack
