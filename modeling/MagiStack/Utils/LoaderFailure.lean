import MagiStack.Topology.NodeNames
import MagiStack.Utils.Loader

/-!
# LoaderFailure — what a load that fails leaves

The simulator is cleared when the file is parsed, before the first of its nodes is created.  A node that
cannot be created ends the load.
-/

namespace MagiStack

variable {A : CFloat}

/-! ## The nodes of a file -/

/-- The name of a node of the file; others are skipped. -/
def jsonNodeName (item : JsonValue A.Double) : Option Text :=
  match jsonObjectGet item (text "name") with
  | some (.string name) => some name
  | _ => none

/-- The names of the nodes that are created from a file, in turn. -/
def fileNodeNames (root : JsonValue A.Double) : List Text :=
  (jsonItems root (text "hosts")).filterMap jsonNodeName ++
    ((jsonItems root (text "switches")).filterMap jsonNodeName ++
      (jsonItems root (text "routers")).filterMap jsonNodeName)

/-- A node can be created after those with the names `done`: there is room, none of them was stored under
its name, and there is memory. -/
def NodeFits (alloc : Nat → Option Nat) (done : List Text) (name : Text) : Prop :=
  done.length < simulatorMaxNodes ∧ (∀ earlier ∈ done, strncpyTerminated earlier maxName ≠ name) ∧
    ∃ address, alloc done.length = some address ∧ ∀ j, j < done.length → alloc j ≠ some address

/-- Nodes can be created one after the other. -/
def NodesFit (alloc : Nat → Option Nat) : List Text → List Text → Prop
  | _, [] => True
  | done, name :: rest => NodeFits alloc done name ∧ NodesFit alloc (done ++ [name]) rest

theorem nodesFit_append {alloc : Nat → Option Nat} {done names rest : List Text} :
    NodesFit alloc done (names ++ rest) ↔
      NodesFit alloc done names ∧ NodesFit alloc (done ++ names) rest := by
  induction names generalizing done with
  | nil => simp [NodesFit]
  | cons name names ih =>
      rw [List.cons_append, NodesFit, NodesFit, ih, List.append_assoc, and_assoc]
      rfl

/-! ## Creating them -/

/-- The state in which the nodes with the names `done` have been created. -/
structure Loading (alloc : Nat → Option Nat) (done : List Text) (s : Simulator A) : Prop where
  names : s.nodes.map SimulatorNodeEntry.name = done.map (strncpyTerminated · maxName)
  addresses : s.nodes.map (some ∘ SimulatorNodeEntry.node) = (List.range done.length).map alloc
  linkCount : s.linkCount = 0

theorem Loading.length {alloc : Nat → Option Nat} {done : List Text} {s : Simulator A}
    (h : Loading alloc done s) : s.nodes.length = done.length := by
  have hlength := congrArg List.length h.names
  rwa [List.length_map, List.length_map] at hlength

theorem Loading.inUse {alloc : Nat → Option Nat} {done : List Text} {s : Simulator A}
    (h : Loading alloc done s) (address : Nat) :
    s.InUse address ↔ ∃ j, j < done.length ∧ alloc j = some address := by
  calc
    s.InUse address ↔ some address ∈ s.nodes.map (some ∘ SimulatorNodeEntry.node) := by
      simp [Simulator.InUse]
    _ ↔ some address ∈ (List.range done.length).map alloc := by rw [h.addresses]
    _ ↔ _ := by simp

theorem Loading.new_iff {alloc : Nat → Option Nat} {done : List Text} {s : Simulator A}
    (h : Loading alloc done s) (name : Text) :
    simulatorFindNode s name = none ↔ ∀ earlier ∈ done, strncpyTerminated earlier maxName ≠ name := by
  rw [simulatorFindNode, List.findIdx?_eq_none_iff]
  calc
    (∀ entry ∈ s.nodes, (entry.name == name) = false) ↔
        ∀ stored ∈ s.nodes.map SimulatorNodeEntry.name, stored ≠ name := by simp
    _ ↔ ∀ stored ∈ done.map (strncpyTerminated · maxName), stored ≠ name := by rw [h.names]
    _ ↔ _ := by simp

theorem Loading.created {alloc : Nat → Option Nat} {done : List Text} {s : Simulator A}
    (h : Loading alloc done s) {address : Nat} (halloc : alloc done.length = some address)
    (type : SimulatorNodeType) (name : Text) (requestedPorts : Int) :
    Loading alloc (done ++ [name]) (s.created type name requestedPorts address) := by
  refine ⟨?_, ?_, h.linkCount⟩
  · rw [Simulator.created, List.map_append, h.names, List.map_append]
    rfl
  · rw [Simulator.created, List.map_append, h.addresses, List.length_append, List.length_singleton,
      List.range_succ, List.map_append, List.map_singleton, List.map_singleton, halloc]
    rfl

/-- `simulator_load` creates a node exactly when it fits. -/
theorem Loading.loadNode {alloc : Nat → Option Nat} {done : List Text} {s : Simulator A}
    (h : Loading alloc done s) {type : Text} {nodeType : SimulatorNodeType}
    (htype : parseNodeType type = some nodeType) (name : Text) (requestedPorts : Int)
    (configure : Node → Device) :
    (NodeFits alloc done name ∧
        ∃ s', MagiStack.loadNode alloc s type name requestedPorts configure = .ok s' ∧
          Loading alloc (done ++ [name]) s') ∨
      (¬ NodeFits alloc done name ∧
        MagiStack.loadNode alloc s type name requestedPorts configure = .error s) := by
  rw [MagiStack.loadNode, h.length]
  cases hcreate : simulatorCreateNode s type name requestedPorts (s.calloc (alloc done.length)) with
  | none =>
      -- The call failed, so that one of its checks did: a node that fits would have passed them all.
      refine Or.inr ⟨?_, rfl⟩
      rintro ⟨hroom, hnew, address, halloc, hfresh⟩
      have hcalloc : s.calloc (alloc done.length) = some address := by
        have hunused : ¬ s.InUse address := by
          rw [h.inUse]
          rintro ⟨j, hj, hsame⟩
          exact hfresh j hj hsame
        rw [halloc, Simulator.calloc, Option.filter_some, if_pos (by simpa using hunused)]
      have hcreated := Simulator.simulatorCreateNode_created htype ((h.new_iff name).mpr hnew)
        (h.length.symm ▸ hroom) requestedPorts address
      rw [hcalloc, hcreated] at hcreate
      cases hcreate
  | some s₁ =>
      rcases Simulator.simulatorCreateNode_eq_some hcreate with
        ⟨_, address, -, hcalloc, hnew, hroom, rfl⟩
      have halloc := (Option.filter_eq_some_iff.mp hcalloc).1
      have hfits : NodeFits alloc done name := by
        refine ⟨h.length ▸ hroom, (h.new_iff name).mp hnew, address, halloc, fun j hj hsame => ?_⟩
        exact Simulator.calloc_eq_some hcalloc ((h.inUse address).mpr ⟨j, hj, hsame⟩)
      have hloading := h.created halloc ‹_› name requestedPorts
      refine Or.inl ⟨hfits, ?_⟩
      simp only
      split
      · exact ⟨_, rfl, hloading⟩
      · exact ⟨_, rfl, ⟨hloading.names, hloading.addresses, hloading.linkCount⟩⟩

/-! ## Loading a file -/

/-- What a stage of the load does with the nodes it is given. -/
def StageSpec (alloc : Nat → Option Nat) (done names : List Text)
    (r : Except (Simulator A) (Simulator A)) : Prop :=
  (NodesFit alloc done names ∧ ∃ s, r = .ok s ∧ Loading alloc (done ++ names) s) ∨
    (¬ NodesFit alloc done names ∧ ∃ s, r = .error s ∧ s.linkCount = 0)

theorem StageSpec.bind {alloc : Nat → Option Nat} {done names rest : List Text}
    {r : Except (Simulator A) (Simulator A)} (h : StageSpec alloc done names r)
    {f : Simulator A → Except (Simulator A) (Simulator A)}
    (hf : ∀ s, Loading alloc (done ++ names) s → StageSpec alloc (done ++ names) rest (f s)) :
    StageSpec alloc done (names ++ rest) (r >>= f) := by
  rcases h with ⟨hfit, s, rfl, hloading⟩ | ⟨hnot, s, rfl, hlinks⟩
  · rcases hf s hloading with ⟨hrest, s', hs', hloading'⟩ | ⟨hrest, s', hs', hlinks⟩
    · exact Or.inl ⟨nodesFit_append.mpr ⟨hfit, hrest⟩, s', hs', List.append_assoc _ _ _ ▸ hloading'⟩
    · exact Or.inr ⟨fun hall => hrest (nodesFit_append.mp hall).2, s', hs', hlinks⟩
  · exact Or.inr ⟨fun hall => hnot (nodesFit_append.mp hall).1, s, rfl, hlinks⟩

/-- A stage over all items, from what it does with one. -/
theorem StageSpec.foldlM {alloc : Nat → Option Nat}
    {f : Simulator A → JsonValue A.Double → Except (Simulator A) (Simulator A)}
    (hf : ∀ done s item, Loading alloc done s →
      StageSpec alloc done (jsonNodeName item).toList (f s item))
    (items : List (JsonValue A.Double)) {done : List Text} {s : Simulator A}
    (h : Loading alloc done s) :
    StageSpec alloc done (items.filterMap jsonNodeName) (items.foldlM f s) := by
  induction items generalizing done s with
  | nil => exact Or.inl ⟨trivial, s, rfl, (List.append_nil done).symm ▸ h⟩
  | cons item items ih =>
      have hnames : (item :: items).filterMap jsonNodeName =
          (jsonNodeName item).toList ++ items.filterMap jsonNodeName := by
        rw [List.filterMap_cons]
        cases jsonNodeName item with
        | none => rfl
        | some name => rfl
      rw [hnames, List.foldlM_cons]
      exact (hf done s item h).bind fun s' hs' => ih hs'

theorem Loading.stage {alloc : Nat → Option Nat} {done : List Text} {s : Simulator A}
    (h : Loading alloc done s) {type : Text} {nodeType : SimulatorNodeType}
    (htype : parseNodeType type = some nodeType) (name : Text) (requestedPorts : Int)
    (configure : Node → Device) :
    StageSpec alloc done [name]
      (MagiStack.loadNode alloc s type name requestedPorts configure) := by
  rcases h.loadNode htype name requestedPorts configure with
    ⟨hfits, s', hs', hloading⟩ | ⟨hnot, hs'⟩
  · exact Or.inl ⟨⟨hfits, trivial⟩, s', hs', hloading⟩
  · exact Or.inr ⟨fun hfits => hnot hfits.1, s, hs', h.linkCount⟩

/-- An item without a name is skipped. -/
theorem Loading.named {alloc : Nat → Option Nat} {done : List Text} {s : Simulator A}
    (h : Loading alloc done s) (item : JsonValue A.Double)
    {f : Text → Except (Simulator A) (Simulator A)}
    (hf : ∀ name, StageSpec alloc done [name] (f name)) :
    StageSpec alloc done (jsonNodeName item).toList
      (match jsonObjectGet item (text "name") with
        | some (.string name) => f name
        | _ => .ok s) := by
  have hskipped : StageSpec alloc done [] (.ok s) :=
    Or.inl ⟨trivial, s, rfl, (List.append_nil done).symm ▸ h⟩
  rw [jsonNodeName]
  cases jsonObjectGet item (text "name") with
  | none => exact hskipped
  | some value =>
      cases value with
      | string name => exact hf name
      | object members => exact hskipped
      | array items => exact hskipped
      | number n => exact hskipped
      | bool b => exact hskipped
      | null => exact hskipped

theorem loadHost_stage {alloc : Nat → Option Nat} {done : List Text} {s : Simulator A}
    (item : JsonValue A.Double) (h : Loading alloc done s) :
    StageSpec alloc done (jsonNodeName item).toList (loadHost alloc s item) := by
  have htype : parseNodeType (text "host") = some .host := by decide
  exact h.named item fun name => h.stage htype name _ _

theorem loadSwitch_stage {alloc : Nat → Option Nat} {done : List Text} {s : Simulator A}
    (item : JsonValue A.Double) (h : Loading alloc done s) :
    StageSpec alloc done (jsonNodeName item).toList (loadSwitch alloc s item) := by
  have htype : parseNodeType (text "switch") = some .switch := by decide
  exact h.named item fun name => h.stage htype name _ _

theorem loadRouter_stage {alloc : Nat → Option Nat} {done : List Text} {s : Simulator A}
    (item : JsonValue A.Double) (h : Loading alloc done s) :
    StageSpec alloc done (jsonNodeName item).toList (loadRouter alloc s item) := by
  have htype : parseNodeType (text "router") = some .router := by decide
  exact h.named item fun name => h.stage htype name _ _

theorem loading_cleared (alloc : Nat → Option Nat) (s : Simulator A) :
    Loading alloc [] (simulatorClear s) :=
  ⟨rfl, rfl, rfl⟩

/-- A parsed file is loaded exactly when all of its nodes can be created, and a load that fails leaves no
links. -/
theorem loadRoot_spec (alloc : Nat → Option Nat) (s : Simulator A) (root : JsonValue A.Double) :
    (NodesFit alloc [] (fileNodeNames root) ∧ ∃ s', loadRoot alloc s root = .ok s') ∨
      (¬ NodesFit alloc [] (fileNodeNames root) ∧
        ∃ s', loadRoot alloc s root = .error s' ∧ s'.linkCount = 0) := by
  have hnodes : StageSpec alloc [] (fileNodeNames root)
      ((jsonItems root (text "hosts")).foldlM (loadHost alloc) (simulatorClear s) >>= fun s =>
        (jsonItems root (text "switches")).foldlM (loadSwitch alloc) s >>= fun s =>
          (jsonItems root (text "routers")).foldlM (loadRouter alloc) s) := by
    refine (StageSpec.foldlM (fun _ _ item => loadHost_stage item) _
      (loading_cleared alloc s)).bind fun s₁ h₁ => ?_
    refine (StageSpec.foldlM (fun _ _ item => loadSwitch_stage item) _ h₁).bind fun s₂ h₂ => ?_
    exact StageSpec.foldlM (fun _ _ item => loadRouter_stage item) _ h₂
  -- The links come after all nodes, and adding them never fails.
  have hroot : loadRoot alloc s root =
      ((jsonItems root (text "hosts")).foldlM (loadHost alloc) (simulatorClear s) >>= fun s =>
        (jsonItems root (text "switches")).foldlM (loadSwitch alloc) s >>= fun s =>
          (jsonItems root (text "routers")).foldlM (loadRouter alloc) s) >>= fun s =>
        .ok ((jsonItems root (text "links")).foldl loadLink s) := by
    simp only [loadRoot, bind_assoc]
  rw [hroot]
  rcases hnodes with ⟨hfit, s', hs', -⟩ | ⟨hnot, s', hs', hlinks⟩
  · rw [hs']
    exact Or.inl ⟨hfit, _, rfl⟩
  · rw [hs']
    exact Or.inr ⟨hnot, s', rfl, hlinks⟩

/-! ## All or nothing -/

/-- A load that fails leaves the simulator as it was. -/
def AllOrNothing (alloc : Nat → Option Nat) (s : Simulator A) (file : Option Text) : Prop :=
  ∀ s', simulatorLoadFile alloc s file = .error s' → s' = s

/-- Two hosts with a cable between them. -/
def twoHosts (A : CFloat) : Simulator A :=
  (simulatorInit
    (fun _ =>
      { name := []
        numInterfaces := 0
        numInterfaces_le := Nat.zero_le _
        link := fun _ => none
        device := deviceInit .host })
    (fun _ => { interface1 := none, interface2 := none, delay := A.zero })).run
    [.createNode (text "host") (text "A") 1 (some 0), .createNode (text "host") (text "B") 1 (some 1),
      .link (text "A") (text "B") A.zero]

theorem twoHosts_linkCount (A : CFloat) : (twoHosts A).linkCount = 1 := rfl

/-- A load that fails after parsing takes the links of a simulator away. -/
theorem AllOrNothing.nodesFit {alloc : Nat → Option Nat} {s : Simulator A} {content : Text}
    (h : AllOrNothing alloc s (some content)) (hlinks : s.linkCount ≠ 0)
    {members : List (Text × JsonValue A.Double)}
    (hparse : jsonParse A (content.takeWhile (· ≠ 0)) = some (.object members)) :
    NodesFit alloc [] (fileNodeNames (.object members : JsonValue A.Double)) := by
  rcases loadRoot_spec alloc s (.object members) with ⟨hfit, -⟩ | ⟨-, s', hs', hnone⟩
  · exact hfit
  · have hload : simulatorLoadFile alloc s (some content) = .error s' := by
      rw [simulatorLoadFile, simulatorLoad, hparse]
      exact hs'
    exact absurd (h s' hload ▸ hnone) hlinks

/-- A file leaves every simulator as it was, or is loaded, exactly when it holds no JSON object, or one all
of whose nodes can be created. -/
theorem simulatorLoad_all_or_nothing_iff (A : CFloat) (alloc : Nat → Option Nat)
    (file : Option Text) :
    (∀ s : Simulator A, AllOrNothing alloc s file) ↔
      ∀ content members, file = some content →
        jsonParse A (content.takeWhile (· ≠ 0)) = some (.object members) →
        NodesFit alloc [] (fileNodeNames (.object members : JsonValue A.Double)) := by
  constructor
  · rintro hall content members rfl hparse
    exact (hall (twoHosts A)).nodesFit (by rw [twoHosts_linkCount]; exact Nat.one_ne_zero) hparse
  · intro hfit s s' hload
    cases file with
    | none => exact (Except.error.inj hload).symm
    | some content =>
        rw [simulatorLoadFile, simulatorLoad] at hload
        split at hload
        · rename_i members hparse
          rcases loadRoot_spec alloc s (.object members) with ⟨-, s'', hs''⟩ | ⟨hnot, -⟩
          · rw [hs''] at hload
            cases hload
          · exact absurd (hfit content members rfl hparse) hnot
        · exact (Except.error.inj hload).symm

/-- A file with two nodes of one name. -/
def sameNameFile : Text :=
  text "\x7b\"hosts\": [\x7b\"name\": \"C\"\x7d, \x7b\"name\": \"C\"\x7d]\x7d"

/-- The load fails at the second node: the hosts and their cable are gone, and the first node is there. -/
theorem simulatorLoad_all_or_nothing_iff_sameName :
    (match simulatorLoadFile some (twoHosts exactFloat) (some sameNameFile) with
      | .ok _ => none
      | .error s => some (s.nodes.map SimulatorNodeEntry.name, s.linkCount)) =
        some ([text "C"], 0) ∧
      ¬ AllOrNothing some (twoHosts exactFloat) (some sameNameFile) := by
  have hload : (match simulatorLoadFile some (twoHosts exactFloat) (some sameNameFile) with
      | .ok _ => none
      | .error s => some (s.nodes.map SimulatorNodeEntry.name, s.linkCount)) =
        some ([text "C"], 0) := by decide +kernel
  refine ⟨hload, fun h => ?_⟩
  split at hload
  · cases hload
  · rename_i s hs
    rw [h s hs] at hload
    exact absurd hload (by decide +kernel)

end MagiStack
