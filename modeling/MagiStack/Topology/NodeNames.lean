import MagiStack.Topology.Links

/-!
# NodeNames — when a name is that of one node

`simulator_create_node` looks for the name it is given and stores the 31 bytes of it that fit.  A longer name
is therefore never found, neither by a later creation nor afterwards.
-/

namespace MagiStack

variable {A : CFloat}

/-! ## Runs -/

/-- What creates and removes nodes. -/
inductive NodeAction
  | createNode (type name : Text) (requestedPorts : Int) (address : Option Nat)
  | removeNode (name : Text)
  | clear

namespace Simulator

def nodeStep (s : Simulator A) : NodeAction → Simulator A
  | .createNode type name requestedPorts address =>
      (simulatorCreateNode s type name requestedPorts (s.calloc address)).getD s
  | .removeNode name => (simulatorRemoveNode s name).getD s
  | .clear => simulatorClear s

def nodeRun (s : Simulator A) (actions : List NodeAction) : Simulator A :=
  actions.foldl nodeStep s

/-- The step removes the node at an address. -/
def RemovesNode (s : Simulator A) (address : Nat) : NodeAction → Prop
  | .createNode _ _ _ _ => False
  | .removeNode name => ∃ entry, s.findEntry name = some entry ∧ entry.node = address
  | .clear => True

/-- No step of the run removes the node at an address. -/
def NodeKept (s : Simulator A) (address : Nat) : List NodeAction → Prop
  | [] => True
  | action :: rest => ¬ s.RemovesNode address action ∧ (s.nodeStep action).NodeKept address rest

/-- Names identify nodes all along a run: no two nodes have one name, and a node is found under the name it
was created with until it is removed. -/
structure NamesIdentify (s : Simulator A) (actions : List NodeAction) : Prop where
  unique : ∀ earlier, earlier <+: actions →
    ((s.nodeRun earlier).nodes.map SimulatorNodeEntry.name).Nodup
  found : ∀ before type name requestedPorts address after created,
    before ++ .createNode type name requestedPorts (some address) :: after <+: actions →
    simulatorCreateNode (s.nodeRun before) type name requestedPorts
      ((s.nodeRun before).calloc (some address)) = some created →
    created.NodeKept address after →
    ∃ entry, (created.nodeRun after).findEntry name = some entry ∧ entry.node = address

/-- The condition on a step: a node that is created has a name that is stored as it is. -/
def NameOk (s : Simulator A) : NodeAction → Prop
  | .createNode type name _ address =>
      name.length < maxName ∨ parseNodeType type = none ∨ simulatorMaxNodes ≤ s.nodes.length ∨
        s.calloc address = none
  | .removeNode _ => True
  | .clear => True

/-- Every step of the run meets the condition. -/
def NamesOk (s : Simulator A) : List NodeAction → Prop
  | [] => True
  | action :: rest => s.NameOk action ∧ (s.nodeStep action).NamesOk rest

/-! ## Finding a node -/

theorem findEntry_eq (s : Simulator A) (name : Text) :
    s.findEntry name = s.nodes.find? fun entry => entry.name == name :=
  List.find?_eq_bind_findIdx?_getElem?.symm

theorem findEntry_eq_some {s : Simulator A} {name : Text} {entry : SimulatorNodeEntry}
    (h : s.findEntry name = some entry) : entry ∈ s.nodes ∧ entry.name = name := by
  rw [findEntry_eq] at h
  exact ⟨List.mem_of_find?_eq_some h,
    beq_iff_eq.mp (List.find?_some (p := fun entry : SimulatorNodeEntry => entry.name == name) h)⟩

/-- Where no two nodes have one name, each is found under its own. -/
theorem findEntry_of_mem {s : Simulator A} (hnames : (s.nodes.map SimulatorNodeEntry.name).Nodup)
    {entry : SimulatorNodeEntry} (hentry : entry ∈ s.nodes) :
    s.findEntry entry.name = some entry := by
  cases hfind : s.findEntry entry.name with
  | none =>
      rw [findEntry_eq, List.find?_eq_none] at hfind
      exact absurd (beq_self_eq_true entry.name) (hfind entry hentry)
  | some other =>
      rcases findEntry_eq_some hfind with ⟨hother, hname⟩
      rw [List.inj_on_of_nodup_map hnames hother hentry hname]

theorem unlinkInterface_nodes (s : Simulator A) (x : Interface) :
    (unlinkInterface s x).nodes = s.nodes := by
  rw [unlinkInterface]
  split
  · split
    · rfl
    · rename_i i hfound
      exact (removeLink_spec s (findLink_eq_some hfound).1).1.nodes
  · rfl

theorem unlinkPorts_nodes (s : Simulator A) (node n : Nat) :
    (s.unlinkPorts node n).nodes = s.nodes := by
  induction n with
  | zero => rfl
  | succ n ih => rw [unlinkPorts_succ, unlinkInterface_nodes, ih]

/-- What is left after a node is removed: the entries at other places. -/
theorem removeNode_nodes {s s' : Simulator A} {name : Text}
    (h : simulatorRemoveNode s name = some s') :
    ∃ index entry, s.findEntry name = some entry ∧ s.nodes[index]? = some entry ∧
      s'.nodes = s.nodes.eraseIdx index := by
  rcases simulatorRemoveNode_eq_some h with ⟨index, entry, hindex, hentry, hnodes, -⟩
  rw [unlinkPorts_nodes] at hnodes
  refine ⟨index, entry, ?_, hentry, hnodes⟩
  rw [findEntry, hindex, Option.bind_some, hentry]

/-! ## What holds in every state -/

/-- The stored names fit into their arrays. -/
def NamesFit (s : Simulator A) : Prop :=
  ∀ entry ∈ s.nodes, entry.name.length < maxName

theorem NamesFit.step {s : Simulator A} (h : s.NamesFit) (action : NodeAction) :
    (s.nodeStep action).NamesFit := by
  cases action with
  | createNode type name requestedPorts address =>
      rw [nodeStep]
      cases hcreate : simulatorCreateNode s type name requestedPorts (s.calloc address) with
      | none => exact h
      | some s' =>
          rcases simulatorCreateNode_eq_some hcreate with ⟨nodeType, a, -, -, -, -, rfl⟩
          intro entry hentry
          rcases List.mem_append.mp hentry with hold | hnew
          · exact h entry hold
          · rw [List.mem_singleton.mp hnew]
            exact Nat.lt_of_le_of_lt (List.length_take_le _ _) (by decide)
  | removeNode name =>
      rw [nodeStep]
      cases hremove : simulatorRemoveNode s name with
      | none => exact h
      | some s' =>
          rcases removeNode_nodes hremove with ⟨index, entry, -, -, hnodes⟩
          intro other hother
          rw [Option.getD_some, hnodes] at hother
          exact h other (List.mem_of_mem_eraseIdx hother)
  | clear => exact fun entry hentry => (nomatch hentry)

/-- A name that does not fit is not found. -/
theorem NamesFit.not_found {s : Simulator A} (h : s.NamesFit) {name : Text}
    (hname : maxName ≤ name.length) : s.findEntry name = none := by
  cases hfind : s.findEntry name with
  | none => rfl
  | some entry =>
      rcases findEntry_eq_some hfind with ⟨hentry, rfl⟩
      exact absurd (h entry hentry) (Nat.not_lt.mpr hname)

theorem simulatorFindNode_eq_none {s : Simulator A} {name : Text} :
    simulatorFindNode s name = none ↔ s.findEntry name = none := by
  rw [findEntry_eq, simulatorFindNode, List.findIdx?_eq_none_iff, List.find?_eq_none]
  simp

/-- No two nodes have one name or one address. -/
structure Named (s : Simulator A) : Prop where
  names : (s.nodes.map SimulatorNodeEntry.name).Nodup
  addresses : (s.nodes.map SimulatorNodeEntry.node).Nodup

/-- A node whose name is stored as it is gets a name and an address of its own. -/
theorem Named.created {s : Simulator A} (h : s.Named) {address : Nat} (hfresh : ¬ s.InUse address)
    (type : SimulatorNodeType) {name : Text} (hname : name.length < maxName)
    (hnew : simulatorFindNode s name = none) (requestedPorts : Int) :
    (s.created type name requestedPorts address).Named ∧
      { name := name, type := type, node := address } ∈
        (s.created type name requestedPorts address).nodes := by
  have hstored : strncpyTerminated name maxName = name :=
    List.take_of_length_le (Nat.le_pred_of_lt hname)
  have hnodes : (s.created type name requestedPorts address).nodes =
      s.nodes.concat { name := name, type := type, node := address } := by
    rw [Simulator.created, hstored, List.concat_eq_append]
  rw [hnodes, List.concat_eq_append]
  refine ⟨⟨?_, ?_⟩, List.mem_append_right _ (List.mem_singleton_self _)⟩
  · rw [hnodes, List.map_concat]
    refine h.names.concat fun hmem => ?_
    rcases List.mem_map.mp hmem with ⟨entry, hentry, heq⟩
    have hnone := simulatorFindNode_eq_none.mp hnew
    rw [findEntry_eq, List.find?_eq_none] at hnone
    exact hnone entry hentry (beq_iff_eq.mpr heq)
  · rw [hnodes, List.map_concat]
    refine h.addresses.concat fun hmem => ?_
    rcases List.mem_map.mp hmem with ⟨entry, hentry, heq⟩
    exact hfresh ⟨entry, hentry, heq⟩

/-- What a creation that meets the condition adds. -/
theorem Named.createNode {s s' : Simulator A} (h : s.Named) {type name : Text}
    {requestedPorts : Int} {address : Option Nat}
    (hok : s.NameOk (.createNode type name requestedPorts address))
    (hcreate : simulatorCreateNode s type name requestedPorts (s.calloc address) = some s') :
    ∃ nodeType a, s.calloc address = some a ∧ s'.Named ∧
      { name := name, type := nodeType, node := a } ∈ s'.nodes ∧
      ∀ entry ∈ s.nodes, entry ∈ s'.nodes := by
  rcases simulatorCreateNode_eq_some hcreate with
    ⟨nodeType, a, htype, hcalloc, hnew, hroom, rfl⟩
  have hname : name.length < maxName := by
    -- The condition allows a longer name only where the creation fails anyhow.
    rcases hok with hname | hnone | hfull | hnone
    · exact hname
    · rw [htype] at hnone
      cases hnone
    · exact absurd hroom (Nat.not_lt.mpr hfull)
    · rw [hcalloc] at hnone
      cases hnone
  rcases h.created (calloc_eq_some hcalloc) nodeType hname hnew requestedPorts with
    ⟨hnamed, hentry⟩
  exact ⟨nodeType, a, hcalloc, hnamed, hentry, fun entry hold => List.mem_append_left _ hold⟩

/-- A step that meets the condition keeps names apart, and keeps every node it does not remove. -/
theorem Named.step {s : Simulator A} (h : s.Named) {action : NodeAction} (hok : s.NameOk action) :
    (s.nodeStep action).Named ∧
      ∀ entry ∈ s.nodes, ¬ s.RemovesNode entry.node action →
        entry ∈ (s.nodeStep action).nodes := by
  cases action with
  | createNode type name requestedPorts address =>
      rw [nodeStep]
      cases hcreate : simulatorCreateNode s type name requestedPorts (s.calloc address) with
      | none => exact ⟨h, fun entry hentry _ => hentry⟩
      | some s' =>
          rcases h.createNode hok hcreate with ⟨nodeType, a, -, hnamed, -, hkept⟩
          exact ⟨hnamed, fun entry hentry _ => hkept entry hentry⟩
  | removeNode name =>
      rw [nodeStep]
      cases hremove : simulatorRemoveNode s name with
      | none => exact ⟨h, fun entry hentry _ => hentry⟩
      | some s' =>
          rcases removeNode_nodes hremove with ⟨index, removed, hfind, hindex, hnodes⟩
          -- The later entries move down, in their order.
          have hsub : s'.nodes.Sublist s.nodes := by
            rw [hnodes]
            exact List.eraseIdx_sublist _ _
          refine ⟨⟨h.names.sublist (hsub.map _), h.addresses.sublist (hsub.map _)⟩,
            fun entry hentry hkept => ?_⟩
          rw [Option.getD_some, hnodes, List.mem_eraseIdx_iff_getElem?]
          rcases List.mem_iff_getElem?.mp hentry with ⟨place, hplace⟩
          refine ⟨place, fun hsame => ?_, hplace⟩
          rw [hsame, hindex] at hplace
          exact hkept ⟨removed, hfind, congrArg SimulatorNodeEntry.node (Option.some.inj hplace)⟩
  | clear =>
      exact ⟨⟨List.nodup_nil, List.nodup_nil⟩, fun entry _ hkept => absurd trivial hkept⟩

/-! ## Every run -/

theorem NamesOk.append {s : Simulator A} {before after : List NodeAction}
    (h : s.NamesOk (before ++ after)) : s.NamesOk before ∧ (s.nodeRun before).NamesOk after := by
  induction before generalizing s with
  | nil => exact ⟨trivial, h⟩
  | cons action before ih =>
      rcases ih h.2 with ⟨hbefore, hafter⟩
      exact ⟨⟨h.1, hbefore⟩, hafter⟩

/-- A node that is not removed stays. -/
theorem Named.run {s : Simulator A} (h : s.Named) {actions : List NodeAction}
    (hok : s.NamesOk actions) :
    (s.nodeRun actions).Named ∧
      ∀ entry ∈ s.nodes, s.NodeKept entry.node actions → entry ∈ (s.nodeRun actions).nodes := by
  induction actions generalizing s with
  | nil => exact ⟨h, fun entry hentry _ => hentry⟩
  | cons action rest ih =>
      rcases h.step hok.1 with ⟨hnamed, hstays⟩
      rcases ih hnamed hok.2 with ⟨hrun, hrest⟩
      exact ⟨hrun, fun entry hentry hkept =>
        hrest entry (hstays entry hentry hkept.1) hkept.2⟩

theorem Named.namesIdentify {s : Simulator A} (h : s.Named) {actions : List NodeAction}
    (hok : s.NamesOk actions) : s.NamesIdentify actions := by
  refine ⟨fun earlier hearlier => ?_, ?_⟩
  · rcases hearlier with ⟨later, rfl⟩
    exact (h.run hok.append.1).1.names
  · intro before type name requestedPorts address after created hprefix hcreate hkept
    rcases hprefix with ⟨later, rfl⟩
    -- The run up to the creation, the creation, and the run in which the node is kept.
    rcases hok.append.1.append with ⟨hbefore, hstep, hafter⟩
    rw [nodeStep, hcreate, Option.getD_some] at hafter
    rcases (h.run hbefore).1.createNode hstep hcreate with ⟨nodeType, a, hcalloc, hnamed, hentry, -⟩
    cases (Option.filter_eq_some_iff.mp hcalloc).1
    rcases hnamed.run hafter with ⟨hrun, hstays⟩
    exact ⟨_, findEntry_of_mem hrun.names (hstays _ hentry hkept), rfl⟩

theorem named_init (heap : Nat → Node) (links : Nat → Link A) : (simulatorInit heap links).Named :=
  ⟨List.Pairwise.nil, List.Pairwise.nil⟩

/-- A run on which names identify nodes, after its first step. -/
theorem NamesIdentify.tail {s : Simulator A} {action : NodeAction} {rest : List NodeAction}
    (h : s.NamesIdentify (action :: rest)) : (s.nodeStep action).NamesIdentify rest :=
  ⟨fun earlier hearlier => h.unique (action :: earlier) (List.cons_prefix_cons.mpr ⟨rfl, hearlier⟩),
    fun before type name requestedPorts address after created hprefix =>
      h.found (action :: before) type name requestedPorts address after created
        (List.cons_prefix_cons.mpr ⟨rfl, hprefix⟩)⟩

/-- A node with a name that does not fit is not found when it is created. -/
theorem NamesFit.namesOk {s : Simulator A} (h : s.NamesFit) {actions : List NodeAction}
    (hidentify : s.NamesIdentify actions) : s.NamesOk actions := by
  induction actions generalizing s with
  | nil => trivial
  | cons action rest ih =>
      refine ⟨?_, ih (h.step action) hidentify.tail⟩
      cases action with
      | removeNode name => trivial
      | clear => trivial
      | createNode type name requestedPorts address =>
          by_contra hbad
          simp only [NameOk, not_or, Nat.not_lt, not_le] at hbad
          rcases hbad with ⟨hlong, htype, hroom, hcalloc⟩
          rcases Option.ne_none_iff_exists'.mp htype with ⟨nodeType, htype⟩
          rcases Option.ne_none_iff_exists'.mp hcalloc with ⟨a, hcalloc⟩
          have haddress := (Option.filter_eq_some_iff.mp hcalloc).1
          subst haddress
          -- Nothing stored is as long as the name, so that the node is created under a shorter one.
          have hcreate := simulatorCreateNode_created htype
            (simulatorFindNode_eq_none.mpr (h.not_found hlong)) hroom requestedPorts a
          rw [← hcalloc] at hcreate
          have hfound := hidentify.found [] type name requestedPorts a [] _
            ⟨rest, rfl⟩ hcreate trivial
          have hfit := h.step (.createNode type name requestedPorts (some a))
          rw [nodeStep, hcreate, Option.getD_some] at hfit
          rcases hfound with ⟨entry, hfind, -⟩
          exact absurd ((hfit.not_found hlong).symm.trans hfind) (by simp)

end Simulator

/-- Names identify nodes all along a run exactly when every node that it creates has a name of at most 31
bytes. -/
theorem node_names_identify_iff (heap : Nat → Node) (links : Nat → Link A)
    (actions : List NodeAction) :
    (simulatorInit heap links).NamesIdentify actions ↔ (simulatorInit heap links).NamesOk actions :=
  ⟨Simulator.NamesFit.namesOk fun _ hentry => absurd hentry List.not_mem_nil,
    (Simulator.named_init heap links).namesIdentify⟩

/-- Two nodes of one name, which is longer than what is stored of it. -/
def longName : Text :=
  List.replicate 32 97

def longNames : List NodeAction :=
  [.createNode (text "host") longName 1 (some 0), .createNode (text "host") longName 1 (some 1)]

/-- Both nodes are created, and their stored names are the same. -/
theorem node_names_identify_iff_longNames :
    (blankSimulator.nodeRun longNames).nodes.map SimulatorNodeEntry.name =
        [List.replicate 31 97, List.replicate 31 97] ∧
      ¬ blankSimulator.NamesIdentify longNames := by
  have hnames : (blankSimulator.nodeRun longNames).nodes.map SimulatorNodeEntry.name =
      [List.replicate 31 97, List.replicate 31 97] := by decide +kernel
  refine ⟨hnames, fun h => ?_⟩
  have hunique := h.unique longNames (List.prefix_refl _)
  rw [hnames] at hunique
  exact absurd hunique (by decide)

end MagiStack
