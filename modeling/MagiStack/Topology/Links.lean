import MagiStack.Topology.Simulator

/-!
# Links — when the interfaces of a link designate its slot

Removing an entry of the link table moves the later ones down, and the interfaces of those go on pointing
to the slots they left.  So the links of a topology work in every state of a run in which each removal
takes links from the end of the table only.
-/

namespace MagiStack

variable {A : CFloat}

namespace Simulator

/-! ## The property -/

/-- The interface belongs to a node of the simulator. -/
def Live (s : Simulator A) (iface : Interface) : Prop :=
  s.InUse iface.node ∧ iface.port < (s.heap iface.node).numInterfaces

/-- Entry `i` joins two interfaces that designate it, and `transmit` hands what one sends to the other. -/
def LinkWorks (s : Simulator A) (i : Nat) : Prop :=
  ∃ a b, (s.links i).interface1 = some a ∧ (s.links i).interface2 = some b ∧
    s.linkOf a = some i ∧ s.linkOf b = some i ∧
    interfaceSend s a = some b ∧ interfaceSend s b = some a

/-- Every link of the table works. -/
def LinksWork (s : Simulator A) : Prop :=
  ∀ i, i < s.linkCount → s.LinkWorks i

/-! ## Runs -/

end Simulator

inductive SimulatorAction (A : CFloat)
  | createNode (type name : Text) (requestedPorts : Int) (address : Option Nat)
  | link (endpointA endpointB : Text) (delay : A.Single)
  | unlink (endpointA endpointB : Text)
  | removeNode (name : Text)

namespace Simulator

/-- What `calloc` returns: memory that is not in use, or nothing. -/
def calloc (s : Simulator A) (address : Option Nat) : Option Nat :=
  address.filter fun address => ¬ s.InUse address

def step (s : Simulator A) : SimulatorAction A → Simulator A
  | .createNode type name requestedPorts address =>
      (simulatorCreateNode s type name requestedPorts (s.calloc address)).getD s
  | .link endpointA endpointB delay => (simulatorLink s endpointA endpointB delay).getD s
  | .unlink endpointA endpointB => (simulatorUnlink s endpointA endpointB).getD s
  | .removeNode name => (simulatorRemoveNode s name).getD s

def run (s : Simulator A) (actions : List (SimulatorAction A)) : Simulator A :=
  actions.foldl step s

/-- The action removes entry `i` of the link table. -/
def Removes (s : Simulator A) (i : Nat) : SimulatorAction A → Prop
  | .unlink endpointA endpointB =>
      ∃ a b, endpointToInterface s endpointA = some a ∧ endpointToInterface s endpointB = some b ∧
        findLink s (fun link => linkJoins link a b) = some i
  | .removeNode name =>
      ∃ index entry, simulatorFindNode s name = some index ∧ s.nodes[index]? = some entry ∧
        ∃ port, linkTouches (s.links i) { node := entry.node, port := port } = true
  | _ => False

/-- The condition on a step: what it removes stands at the end of the link table. -/
def StepOk (s : Simulator A) (action : SimulatorAction A) : Prop :=
  ∀ i j, i ≤ j → j < s.linkCount → s.Removes i action → s.Removes j action

/-- Every step of the run meets the condition. -/
def RunOk (s : Simulator A) : List (SimulatorAction A) → Prop
  | [] => True
  | action :: rest => s.StepOk action ∧ (s.step action).RunOk rest

/-! ## Pointers and slots -/

theorem linkOf_setLink (s : Simulator A) (x y : Interface) (slot : Option Nat) :
    (s.setLink x slot).linkOf y = if y = x then slot else s.linkOf y := by
  rcases x with ⟨node, port⟩
  rcases y with ⟨node', port'⟩
  simp only [setLink, linkOf, Interface.mk.injEq]
  by_cases hnode : node' = node
  · subst hnode
    by_cases hport : port' = port
    · simp [hport]
    · simp [hport]
  · simp [hnode]

/-- Everything of a node but where its interfaces point to. -/
structure SameNodes (s s' : Simulator A) : Prop where
  nodes : s'.nodes = s.nodes
  name : ∀ address, (s'.heap address).name = (s.heap address).name
  numInterfaces : ∀ address, (s'.heap address).numInterfaces = (s.heap address).numInterfaces
  device : ∀ address, (s'.heap address).device = (s.heap address).device

theorem SameNodes.refl (s : Simulator A) : SameNodes s s :=
  ⟨rfl, fun _ => rfl, fun _ => rfl, fun _ => rfl⟩

theorem SameNodes.trans {s s' s'' : Simulator A} (h : SameNodes s s') (h' : SameNodes s' s'') :
    SameNodes s s'' :=
  ⟨h'.nodes.trans h.nodes, fun address => (h'.name address).trans (h.name address),
    fun address => (h'.numInterfaces address).trans (h.numInterfaces address),
    fun address => (h'.device address).trans (h.device address)⟩

theorem sameNodes_setLink (s : Simulator A) (x : Interface) (slot : Option Nat) :
    SameNodes s (s.setLink x slot) := by
  have hheap : ∀ address, ((s.setLink x slot).heap address) = s.heap address ∨
      address = x.node ∧ (s.setLink x slot).heap address =
        { s.heap x.node with link := Function.update (s.heap x.node).link x.port slot } := by
    intro address
    by_cases h : address = x.node
    · refine Or.inr ⟨h, ?_⟩
      rw [h]
      exact Function.update_self _ _ _
    · exact Or.inl (Function.update_of_ne h _ _)
  refine ⟨rfl, fun address => ?_, fun address => ?_, fun address => ?_⟩
  all_goals
    rcases hheap address with h | ⟨h, hnode⟩
    · rw [h]
    · rw [hnode, h]

theorem SameNodes.live {s s' : Simulator A} (h : SameNodes s s') (x : Interface) :
    s'.Live x ↔ s.Live x := by
  rw [Live, Live, InUse, InUse, h.nodes, h.numInterfaces]

@[simp] theorem linkOf_setSlot (s : Simulator A) (slot : Nat) (link : Link A) (x : Interface) :
    (s.setSlot slot link).linkOf x = s.linkOf x := rfl

theorem linkTouches_iff {link : Link A} {x : Interface} :
    linkTouches link x = true ↔ link.interface1 = some x ∨ link.interface2 = some x := by
  simp [linkTouches]

/-- `link_unlink` clears the pointers of the interfaces its slot names, and that slot. -/
theorem linkUnlink_spec (s : Simulator A) (i : Nat) :
    SameNodes s (linkUnlink s i) ∧ (linkUnlink s i).linkCount = s.linkCount ∧
      (∀ j, j ≠ i → (linkUnlink s i).links j = s.links j) ∧
      ∀ x, (linkUnlink s i).linkOf x =
        if linkTouches (s.links i) x then none else s.linkOf x := by
  -- Both ends are cleared in the same way, one after the other.
  have hclear : ∀ (s : Simulator A) (int : Option Interface),
      SameNodes s (int.elim s fun iface => s.setLink iface none) ∧
        (int.elim s fun iface => s.setLink iface none).linkCount = s.linkCount ∧
        (int.elim s fun iface => s.setLink iface none).links = s.links ∧
        ∀ x, (int.elim s fun iface => s.setLink iface none).linkOf x =
          if int = some x then none else s.linkOf x := by
    intro s int
    cases int with
    | none => exact ⟨SameNodes.refl s, rfl, rfl, fun x => (if_neg (by simp)).symm⟩
    | some iface =>
        refine ⟨sameNodes_setLink s iface none, rfl, rfl, fun x => ?_⟩
        simp only [Option.elim_some, linkOf_setLink, Option.some.injEq, eq_comm]
  rcases hclear s (s.links i).interface1 with ⟨hnodes, hcount, hlinks, hlinkOf⟩
  simp only [linkUnlink]
  generalize ((s.links i).interface1.elim s fun iface => s.setLink iface none) = first
    at hnodes hcount hlinks hlinkOf ⊢
  rcases hclear first (s.links i).interface2 with ⟨hnodes', hcount', hlinks', hlinkOf'⟩
  generalize ((s.links i).interface2.elim first fun iface => first.setLink iface none) = second
    at hnodes' hcount' hlinks' hlinkOf' ⊢
  refine ⟨hnodes.trans ⟨hnodes'.nodes, hnodes'.name, hnodes'.numInterfaces, hnodes'.device⟩,
    hcount'.trans hcount, fun j hj => ?_, fun x => ?_⟩
  · rw [setSlot, hlinks', hlinks]
    exact Function.update_of_ne hj _ _
  · rw [linkOf_setSlot, hlinkOf', hlinkOf]
    by_cases hfirst : (s.links i).interface1 = some x
    · simp [linkTouches, hfirst]
    · by_cases hsecond : (s.links i).interface2 = some x
      · simp [linkTouches, hsecond]
      · simp [linkTouches, hfirst, hsecond]

/-- Where the entry at a place stood before entry `i` was removed. -/
def placeBefore (i j : Nat) : Nat :=
  if j < i then j else j + 1

/-- Removing an entry moves the later ones down and clears the pointers of its own interfaces only. -/
theorem removeLink_spec (s : Simulator A) {i : Nat} (hi : i < s.linkCount) :
    SameNodes s (removeLink s i) ∧ (removeLink s i).linkCount + 1 = s.linkCount ∧
      (∀ j, j < (removeLink s i).linkCount → (removeLink s i).links j = s.links (placeBefore i j)) ∧
      ∀ x, (removeLink s i).linkOf x =
        if linkTouches (s.links i) x then none else s.linkOf x := by
  rcases linkUnlink_spec s i with ⟨hnodes, hcount, hlinks, hlinkOf⟩
  have hremoved : (removeLink s i).linkCount + 1 = s.linkCount := by
    simp only [removeLink, hcount]
    omega
  refine ⟨⟨hnodes.nodes, hnodes.name, hnodes.numInterfaces, hnodes.device⟩, hremoved, ?_, hlinkOf⟩
  intro j hj
  rw [placeBefore]
  simp only [removeLink, hcount]
  by_cases hlt : j < i
  · rw [if_neg (by omega), if_pos hlt]
    exact hlinks j (by omega)
  · rw [if_pos (by omega), if_neg hlt]
    exact hlinks (j + 1) (by omega)

theorem findLink_eq_some {s : Simulator A} {p : Link A → Bool} {i : Nat}
    (h : findLink s p = some i) : i < s.linkCount ∧ p (s.links i) = true := by
  have hmem := List.mem_of_find?_eq_some h
  exact ⟨List.mem_range.mp hmem, List.find?_some (p := fun i => p (s.links i)) h⟩

theorem findLink_eq_none {s : Simulator A} {p : Link A → Bool} (h : findLink s p = none) {i : Nat}
    (hi : i < s.linkCount) : p (s.links i) = false := by
  have hnot := List.find?_eq_none.mp h i (List.mem_range.mpr hi)
  simpa using hnot

/-! ## What holds in every state -/

/-- Every entry joins two interfaces of nodes of the simulator, no interface has two links, and the
interfaces of an entry point somewhere. -/
structure Coherent (s : Simulator A) : Prop where
  ends : ∀ i, i < s.linkCount → ∃ a b, (s.links i).interface1 = some a ∧
    (s.links i).interface2 = some b ∧ a ≠ b ∧ s.Live a ∧ s.Live b
  disjoint : ∀ i j x, i < s.linkCount → j < s.linkCount → linkTouches (s.links i) x = true →
    linkTouches (s.links j) x = true → i = j
  linked : ∀ i x, i < s.linkCount → linkTouches (s.links i) x = true → (s.linkOf x).isSome = true

/-- The interfaces of every entry point to its slot. -/
def Designated (s : Simulator A) : Prop :=
  ∀ i x, i < s.linkCount → linkTouches (s.links i) x = true → s.linkOf x = some i

/-- Pointers to the right slots make the links work. -/
theorem Coherent.linksWork {s : Simulator A} (h : s.Coherent) (hdesignated : s.Designated) :
    s.LinksWork := by
  intro i hi
  rcases h.ends i hi with ⟨a, b, ha, hb, hne, -, -⟩
  have hlinkA := hdesignated i a hi (linkTouches_iff.mpr (Or.inl ha))
  have hlinkB := hdesignated i b hi (linkTouches_iff.mpr (Or.inr hb))
  refine ⟨a, b, ha, hb, hlinkA, hlinkB, ?_, ?_⟩
  · rw [interfaceSend, hlinkA, Option.bind_some, transmit, if_pos ha, hb]
  · have hother : (s.links i).interface1 ≠ some b := by
      rw [ha]
      exact fun heq => hne (Option.some.inj heq)
    rw [interfaceSend, hlinkB, Option.bind_some, transmit, if_neg hother, if_pos hb, ha]

theorem placeBefore_ne (i j : Nat) : placeBefore i j ≠ i := by
  rw [placeBefore]
  split
  all_goals omega

theorem placeBefore_injective {i j j' : Nat} (h : placeBefore i j = placeBefore i j') : j = j' := by
  rw [placeBefore, placeBefore] at h
  split at h
  all_goals split at h
  all_goals omega

theorem placeBefore_lt {s : Simulator A} {i j : Nat} (hi : i < s.linkCount)
    (hj : j < (removeLink s i).linkCount) : placeBefore i j < s.linkCount := by
  have hcount := (removeLink_spec s hi).2.1
  rw [placeBefore]
  split
  all_goals omega

theorem Coherent.remove {s : Simulator A} (h : s.Coherent) {i : Nat} (hi : i < s.linkCount) :
    (removeLink s i).Coherent := by
  rcases removeLink_spec s hi with ⟨hnodes, hcount, hlinks, hlinkOf⟩
  refine ⟨?_, ?_, ?_⟩
  · intro j hj
    rcases h.ends _ (placeBefore_lt hi hj) with ⟨a, b, ha, hb, hne, hliveA, hliveB⟩
    rw [hlinks j hj]
    exact ⟨a, b, ha, hb, hne, (hnodes.live a).mpr hliveA, (hnodes.live b).mpr hliveB⟩
  · intro j j' x hj hj' hx hx'
    rw [hlinks j hj] at hx
    rw [hlinks j' hj'] at hx'
    exact placeBefore_injective
      (h.disjoint _ _ x (placeBefore_lt hi hj) (placeBefore_lt hi hj') hx hx')
  · intro j x hj hx
    rw [hlinks j hj] at hx
    have hnot : ¬ linkTouches (s.links i) x = true := by
      intro hremoved
      exact placeBefore_ne i j (h.disjoint _ _ x (placeBefore_lt hi hj) hi hx hremoved)
    rw [hlinkOf, if_neg hnot]
    exact h.linked _ x (placeBefore_lt hi hj) hx

/-- Removing the last entry leaves the others where their interfaces point to. -/
theorem Designated.remove {s : Simulator A} (hdesignated : s.Designated) {i : Nat}
    (hi : i + 1 = s.linkCount) : (removeLink s i).Designated := by
  rcases removeLink_spec s (i := i) (by omega) with ⟨-, hcount, hlinks, hlinkOf⟩
  intro j x hj hx
  have hplace : placeBefore i j = j := if_pos (by omega)
  rw [hlinks j hj, hplace] at hx
  have hlink := hdesignated j x (by omega) hx
  have hnot : ¬ linkTouches (s.links i) x = true := by
    intro hremoved
    have hsame := hlink.symm.trans (hdesignated i x (by omega) hremoved)
    have heq := Option.some.inj hsame
    omega
  rw [hlinkOf, if_neg hnot, hlink]

/-! ## Removing a node -/

/-- One port of `simulator_remove_node`: the entry that names it goes, if there is one. -/
theorem Coherent.unlinkInterface_cases {s : Simulator A} (h : s.Coherent) (x : Interface) :
    (unlinkInterface s x = s ∧ ∀ i, i < s.linkCount → linkTouches (s.links i) x = false) ∨
      ∃ i, i < s.linkCount ∧ linkTouches (s.links i) x = true ∧
        unlinkInterface s x = removeLink s i := by
  rw [unlinkInterface]
  split
  · split
    · rename_i hnone
      exact Or.inl ⟨rfl, fun i hi => findLink_eq_none hnone hi⟩
    · rename_i i hfound
      rcases findLink_eq_some hfound with ⟨hi, htouches⟩
      exact Or.inr ⟨i, hi, htouches, rfl⟩
  · rename_i hnone
    refine Or.inl ⟨rfl, fun i hi => ?_⟩
    by_contra hx
    exact hnone (h.linked i x hi (Bool.not_eq_false _ ▸ hx))

/-- The state while `simulator_remove_node` works on a node: the ports before `p` have no links left. -/
structure Removing (s₀ s : Simulator A) (node p : Nat) : Prop where
  sameNodes : SameNodes s₀ s
  coherent : s.Coherent
  done : ∀ i port, i < s.linkCount → port < p →
    linkTouches (s.links i) { node := node, port := port } = false

theorem Removing.unlink {s₀ s : Simulator A} {node p : Nat} (h : Removing s₀ s node p) :
    Removing s₀ (unlinkInterface s { node := node, port := p }) node (p + 1) := by
  rcases h.coherent.unlinkInterface_cases { node := node, port := p } with
    ⟨heq, hnone⟩ | ⟨i, hi, htouches, heq⟩
  · rw [heq]
    refine { h with done := fun i port hi hport => ?_ }
    rcases Nat.lt_succ_iff_lt_or_eq.mp hport with hlt | rfl
    · exact h.done i port hi hlt
    · exact hnone i hi
  · rw [heq]
    rcases removeLink_spec s hi with ⟨hnodes, -, hlinks, -⟩
    refine ⟨h.sameNodes.trans hnodes, h.coherent.remove hi, fun j port hj hport => ?_⟩
    rw [hlinks j hj]
    rcases Nat.lt_succ_iff_lt_or_eq.mp hport with hlt | rfl
    · exact h.done _ port (placeBefore_lt hi hj) hlt
    · by_contra hx
      exact placeBefore_ne i j (h.coherent.disjoint _ _ _ (placeBefore_lt hi hj) hi
        (Bool.not_eq_false _ ▸ hx) htouches)

/-- The state after the first `n` ports of the node. -/
def unlinkPorts (s : Simulator A) (node n : Nat) : Simulator A :=
  (List.range n).foldl (fun s p => unlinkInterface s { node := node, port := p }) s

theorem unlinkPorts_succ (s : Simulator A) (node n : Nat) :
    s.unlinkPorts node (n + 1) =
      unlinkInterface (s.unlinkPorts node n) { node := node, port := n } := by
  rw [unlinkPorts, List.range_succ, List.foldl_append]
  rfl

theorem Coherent.removing {s : Simulator A} (h : s.Coherent) (node n : Nat) :
    Removing s (s.unlinkPorts node n) node n := by
  induction n with
  | zero =>
      exact
        { sameNodes := SameNodes.refl s
          coherent := h
          done := fun i port _ hport => absurd hport (Nat.not_lt_zero port) }
  | succ n ih =>
      rw [unlinkPorts_succ]
      exact ih.unlink

/-- After the last port no entry names the node. -/
theorem Removing.noneLeft {s₀ s : Simulator A} {node : Nat}
    (h : Removing s₀ s node (s₀.heap node).numInterfaces) {i port : Nat} (hi : i < s.linkCount) :
    linkTouches (s.links i) { node := node, port := port } = false := by
  by_contra hx
  have hport := linkTouches_iff.mp (Bool.not_eq_false _ ▸ hx)
  rcases h.coherent.ends i hi with ⟨a, b, ha, hb, -, hliveA, hliveB⟩
  have hlive : s.Live { node := node, port := port } := by
    rcases hport with heq | heq
    · rwa [← Option.some.inj (ha.symm.trans heq)]
    · rwa [← Option.some.inj (hb.symm.trans heq)]
  have hbound := hlive.2
  rw [h.sameNodes.numInterfaces] at hbound
  exact hx (h.done i port hi hbound)

/-- Where the links of the node are the entries from `k` on, the entries before `k` stay in place and
so do the pointers of their interfaces. -/
structure Kept (s₀ s : Simulator A) (node k : Nat) : Prop where
  le : k ≤ s.linkCount
  links : ∀ i, i < k → s.links i = s₀.links i
  pointers : ∀ i x, i < k → linkTouches (s.links i) x = true → s.linkOf x = s₀.linkOf x
  fromNode : ∀ i, k ≤ i → i < s.linkCount →
    ∃ port, linkTouches (s.links i) { node := node, port := port } = true

theorem Kept.unlink {s₀ s : Simulator A} {node k p : Nat} (h : Kept s₀ s node k)
    (hcoherent : s.Coherent)
    (hbefore : ∀ i port, i < k → linkTouches (s₀.links i) { node := node, port := port } = false) :
    Kept s₀ (unlinkInterface s { node := node, port := p }) node k := by
  rcases hcoherent.unlinkInterface_cases { node := node, port := p } with
    ⟨heq, -⟩ | ⟨i, hi, htouches, heq⟩
  · rwa [heq]
  · rw [heq]
    rcases removeLink_spec s hi with ⟨-, hcount, hlinks, hlinkOf⟩
    have hki : k ≤ i := by
      by_contra hlt
      rw [h.links i (not_le.mp hlt), hbefore i p (not_le.mp hlt)] at htouches
      cases htouches
    have hkept : ∀ j, j < k → (removeLink s i).links j = s.links j := by
      intro j hj
      rw [hlinks j (by omega), placeBefore, if_pos (by omega)]
    refine ⟨by omega, fun j hj => (hkept j hj).trans (h.links j hj), fun j x hj hx => ?_,
      fun j hkj hj => ?_⟩
    · rw [hkept j hj] at hx
      have hnot : ¬ linkTouches (s.links i) x = true := by
        intro hremoved
        have hsame := hcoherent.disjoint j i x (by omega) hi hx hremoved
        omega
      rw [hlinkOf, if_neg hnot]
      exact h.pointers j x hj hx
    · rw [hlinks j hj]
      refine h.fromNode _ ?_ (placeBefore_lt hi hj)
      rw [placeBefore]
      split
      all_goals omega

theorem Coherent.kept {s : Simulator A} (h : s.Coherent) {node k : Nat} (hk : k ≤ s.linkCount)
    (hbefore : ∀ i port, i < k → linkTouches (s.links i) { node := node, port := port } = false)
    (hafter : ∀ i, k ≤ i → i < s.linkCount →
      ∃ port, linkTouches (s.links i) { node := node, port := port } = true) (n : Nat) :
    Kept s (s.unlinkPorts node n) node k := by
  induction n with
  | zero => exact ⟨hk, fun _ _ => rfl, fun _ _ _ _ => rfl, hafter⟩
  | succ n ih =>
      rw [unlinkPorts_succ]
      exact ih.unlink (h.removing node n).coherent hbefore

/-- An entry that is not the node's keeps its pointers, and moves down when one of the node's stands
before it. -/
structure Moved (s₀ s : Simulator A) (node j : Nat) : Prop where
  place : ∃ j', j' < s.linkCount ∧ s.links j' = s₀.links j ∧
    (j' < j ∨ j' = j ∧ ∃ i port, i < j ∧
      linkTouches (s.links i) { node := node, port := port } = true)
  pointers : ∀ x, linkTouches (s₀.links j) x = true → s.linkOf x = s₀.linkOf x

theorem Moved.unlink {s₀ s : Simulator A} {node j p : Nat} (h : Moved s₀ s node j)
    (hcoherent : s.Coherent)
    (hother : ∀ port, linkTouches (s₀.links j) { node := node, port := port } = false) :
    Moved s₀ (unlinkInterface s { node := node, port := p }) node j := by
  rcases hcoherent.unlinkInterface_cases { node := node, port := p } with
    ⟨heq, -⟩ | ⟨i, hi, htouches, heq⟩
  · rwa [heq]
  · rw [heq]
    rcases removeLink_spec s hi with ⟨-, hcount, hlinks, hlinkOf⟩
    rcases h.place with ⟨j', hj', hlink, hplace⟩
    have hne : j' ≠ i := by
      intro hsame
      rw [← hsame, hlink, hother p] at htouches
      cases htouches
    refine ⟨?_, fun x hx => ?_⟩
    · rcases Nat.lt_or_gt_of_ne hne with hlt | hgt
      · -- The entry removed stands after it.
        refine ⟨j', by omega, ?_, ?_⟩
        · rw [hlinks j' (by omega), placeBefore, if_pos hlt, hlink]
        · rcases hplace with hmoved | ⟨rfl, i', port, hi', hx⟩
          · exact Or.inl hmoved
          · refine Or.inr ⟨rfl, i', port, hi', ?_⟩
            rw [hlinks i' (by omega), placeBefore, if_pos (by omega)]
            exact hx
      · -- The entry removed stands before it, and it moves down by one.
        refine ⟨j' - 1, by omega, ?_, Or.inl (by omega)⟩
        have hback : placeBefore i (j' - 1) = j' := by
          rw [placeBefore, if_neg (by omega)]
          omega
        rw [hlinks _ (by omega), hback, hlink]
    · have hnot : ¬ linkTouches (s.links i) x = true := by
        intro hremoved
        rw [← hlink] at hx
        exact hne (hcoherent.disjoint j' i x hj' hi hx hremoved)
      rw [hlinkOf, if_neg hnot]
      exact h.pointers x hx

theorem Coherent.moved {s : Simulator A} (h : s.Coherent) {node i j port : Nat} (hij : i < j)
    (hj : j < s.linkCount) (hi : linkTouches (s.links i) { node := node, port := port } = true)
    (hother : ∀ port, linkTouches (s.links j) { node := node, port := port } = false) (n : Nat) :
    Moved s (s.unlinkPorts node n) node j := by
  induction n with
  | zero => exact ⟨⟨j, hj, rfl, Or.inr ⟨rfl, i, port, hij, hi⟩⟩, fun _ _ => rfl⟩
  | succ n ih =>
      rw [unlinkPorts_succ]
      exact ih.unlink (h.removing node n).coherent hother

/-! ## One step -/

/-- The entries of the link table are coherent and designated by their interfaces. -/
structure Ok (s : Simulator A) : Prop where
  coherent : s.Coherent
  designated : s.Designated

/-- A set of places that is closed upwards begins somewhere. -/
theorem exists_start (n : Nat) (p : Nat → Prop) (hup : ∀ i j, i ≤ j → j < n → p i → p j) :
    ∃ k, k ≤ n ∧ (∀ i, i < k → ¬ p i) ∧ ∀ i, k ≤ i → i < n → p i := by
  classical
  by_cases hsome : ∃ i, i < n ∧ p i
  · refine ⟨Nat.find hsome, (Nat.find_spec hsome).1.le, fun i hi hpi => ?_, fun i hki hi => ?_⟩
    · exact Nat.find_min hsome hi ⟨hi.trans (Nat.find_spec hsome).1, hpi⟩
    · exact hup _ i hki hi (Nat.find_spec hsome).2
  · exact ⟨n, le_refl n, fun i hi hpi => hsome ⟨i, hi, hpi⟩, fun i hni hi => absurd hi (by omega)⟩

/-- What `simulator_remove_node` leaves when it returns `1`. -/
theorem simulatorRemoveNode_eq_some {s s' : Simulator A} {name : Text}
    (h : simulatorRemoveNode s name = some s') :
    ∃ index entry, simulatorFindNode s name = some index ∧ s.nodes[index]? = some entry ∧
      s'.nodes = (s.unlinkPorts entry.node (s.heap entry.node).numInterfaces).nodes.eraseIdx index ∧
      s'.heap = (s.unlinkPorts entry.node (s.heap entry.node).numInterfaces).heap ∧
      s'.links = (s.unlinkPorts entry.node (s.heap entry.node).numInterfaces).links ∧
      s'.linkCount = (s.unlinkPorts entry.node (s.heap entry.node).numInterfaces).linkCount := by
  rw [simulatorRemoveNode] at h
  split at h
  · cases h
  · rename_i index hindex
    split at h
    · cases h
    · rename_i entry hentry
      rw [← Option.some.inj h]
      exact ⟨index, entry, hindex, hentry, rfl, rfl, rfl, rfl⟩

/-- An entry that is left names no interface of the node that was removed, so its ends are still there. -/
theorem Removing.live {s₀ s s' : Simulator A} {index : Nat} {entry : SimulatorNodeEntry}
    (h : Removing s₀ s entry.node (s₀.heap entry.node).numInterfaces)
    (hentry : s₀.nodes[index]? = some entry) (hnodes : s'.nodes = s.nodes.eraseIdx index)
    (hheap : s'.heap = s.heap) {i : Nat} {x : Interface} (hi : i < s.linkCount)
    (hx : linkTouches (s.links i) x = true) (hlive : s.Live x) : s'.Live x := by
  rcases hlive with ⟨⟨other, hother, hnode⟩, hport⟩
  refine ⟨⟨other, ?_, hnode⟩, by rwa [hheap]⟩
  rw [hnodes]
  refine List.mem_eraseIdx_iff_getElem?.mpr ?_
  rcases List.mem_iff_getElem?.mp hother with ⟨index', hindex'⟩
  refine ⟨index', fun hsame => ?_, hindex'⟩
  rw [hsame, h.sameNodes.nodes, hentry] at hindex'
  have hnot := @Removing.noneLeft _ _ _ _ h _ x.port hi
  rw [Option.some.inj hindex', hnode] at hnot
  exact absurd hx (by rw [hnot]; exact Bool.false_ne_true)

theorem Coherent.removeNode {s s' : Simulator A} (h : s.Coherent) {name : Text}
    (hremove : simulatorRemoveNode s name = some s') : s'.Coherent := by
  rcases simulatorRemoveNode_eq_some hremove with
    ⟨index, entry, -, hentry, hnodes, hheap, hlinks, hcount⟩
  have hdone := h.removing entry.node (s.heap entry.node).numInterfaces
  generalize s.unlinkPorts entry.node (s.heap entry.node).numInterfaces = unlinked
    at hnodes hheap hlinks hcount hdone
  have hlinkOf : ∀ x, s'.linkOf x = unlinked.linkOf x := fun x => by rw [linkOf, linkOf, hheap]
  refine ⟨?_, ?_, ?_⟩
  all_goals simp only [hlinks, hcount, hlinkOf]
  · intro i hi
    rcases hdone.coherent.ends i hi with ⟨a, b, ha, hb, hne, hliveA, hliveB⟩
    exact ⟨a, b, ha, hb, hne,
      hdone.live hentry hnodes hheap hi (linkTouches_iff.mpr (Or.inl ha)) hliveA,
      hdone.live hentry hnodes hheap hi (linkTouches_iff.mpr (Or.inr hb)) hliveB⟩
  · exact hdone.coherent.disjoint
  · exact hdone.coherent.linked

theorem Ok.removeNode {s s' : Simulator A} (h : s.Ok) {name : Text}
    (hok : s.StepOk (.removeNode name)) (hremove : simulatorRemoveNode s name = some s') : s'.Ok := by
  refine ⟨h.coherent.removeNode hremove, ?_⟩
  rcases simulatorRemoveNode_eq_some hremove with
    ⟨index, entry, hindex, hentry, -, hheap, hlinks, hcount⟩
  have hup : ∀ i j, i ≤ j → j < s.linkCount →
      (∃ port, linkTouches (s.links i) { node := entry.node, port := port } = true) →
        ∃ port, linkTouches (s.links j) { node := entry.node, port := port } = true := by
    intro i j hij hj hi
    rcases hok i j hij hj ⟨index, entry, hindex, hentry, hi⟩ with
      ⟨index', entry', hindex', hentry', hj'⟩
    cases hindex.symm.trans hindex'
    cases hentry.symm.trans hentry'
    exact hj'
  rcases exists_start s.linkCount _ hup with ⟨k, hk, hbefore, hafter⟩
  have hdone := h.coherent.removing entry.node (s.heap entry.node).numInterfaces
  have hkept := h.coherent.kept hk
    (fun i port hi => Bool.not_eq_true _ ▸ fun hx => hbefore i hi ⟨port, hx⟩) hafter
    (s.heap entry.node).numInterfaces
  generalize s.unlinkPorts entry.node (s.heap entry.node).numInterfaces = unlinked
    at hheap hlinks hcount hdone hkept
  -- Every link from `k` on is a link of the node, so none of them is left.
  have hall : unlinked.linkCount ≤ k := by
    by_contra hlt
    rcases hkept.fromNode k (le_refl k) (not_le.mp hlt) with ⟨port, hport⟩
    rw [hdone.noneLeft (not_le.mp hlt)] at hport
    cases hport
  intro i x hi hx
  rw [hcount] at hi
  rw [hlinks] at hx
  have hik : i < k := by omega
  rw [linkOf, hheap, ← linkOf, hkept.pointers i x hik hx]
  rw [hkept.links i hik] at hx
  exact h.designated i x (by omega) hx

/-- An interface of an entry that was there has a link already. -/
theorem Coherent.not_free {s : Simulator A} (h : s.Coherent) {i : Nat} {x : Interface}
    (hi : i < s.linkCount) (hx : linkTouches (s.links i) x = true) : s.linkOf x ≠ none := by
  intro hnone
  have hsome := h.linked i x hi hx
  rw [hnone] at hsome
  cases hsome

/-- What a new last entry between two interfaces without a link changes. -/
structure AddedLink (s s' : Simulator A) (a b : Interface) (delay : A.Single) : Prop where
  sameNodes : SameNodes s s'
  linkCount : s'.linkCount = s.linkCount + 1
  kept : ∀ j, j < s.linkCount → s'.links j = s.links j
  last : s'.links s.linkCount = { interface1 := some a, interface2 := some b, delay := delay }
  linkOf : ∀ x, s'.linkOf x = if x = a ∨ x = b then some s.linkCount else s.linkOf x

/-- `simulator_link` fills a new slot and points both interfaces to it. -/
theorem linkInit_spec {s : Simulator A} {a b : Interface} (delay : A.Single)
    (ha : s.linkOf a = none) (hb : s.linkOf b = none) :
    AddedLink s (linkInit { s with linkCount := s.linkCount + 1 } s.linkCount a b delay) a b
      delay := by
  have hfree : ∀ slot : Link A,
      ((({ s with linkCount := s.linkCount + 1 } : Simulator A).setSlot s.linkCount slot).linkOf
          a).isSome = false ∧
        ((({ s with linkCount := s.linkCount + 1 } : Simulator A).setSlot s.linkCount slot).linkOf
          b).isSome = false := by
    intro slot
    exact ⟨congrArg Option.isSome ha, congrArg Option.isSome hb⟩
  rw [linkInit, linkLink, (hfree _).1, (hfree _).2, if_neg (by simp)]
  refine ⟨?_, rfl, fun j hj => ?_, ?_, fun x => ?_⟩
  · refine SameNodes.trans ?_ (sameNodes_setLink _ b _)
    refine SameNodes.trans ?_ (sameNodes_setLink _ a _)
    exact ⟨rfl, fun _ => rfl, fun _ => rfl, fun _ => rfl⟩
  · calc
      _ = Function.update s.links s.linkCount _ j :=
        Function.update_of_ne (show j ≠ s.linkCount by omega) _ _
      _ = s.links j := Function.update_of_ne (by omega) _ _
  · refine (Function.update_self _ _ _).trans ?_
    simp [setSlot]
  · rw [linkOf_setLink, linkOf_setLink]
    by_cases hxb : x = b
    · simp [hxb]
    · by_cases hxa : x = a
      · simp [hxa]
      · simp only [hxa, hxb, if_false, or_self]
        rfl

theorem AddedLink.touches_last {s s' : Simulator A} {a b : Interface} {delay : A.Single}
    (h : AddedLink s s' a b delay) (x : Interface) :
    linkTouches (s'.links s.linkCount) x = true ↔ x = a ∨ x = b := by
  rw [h.last, linkTouches_iff, Option.some.injEq, Option.some.injEq, eq_comm, @eq_comm _ b]

theorem Coherent.addLink {s s' : Simulator A} (h : s.Coherent) {a b : Interface} {delay : A.Single}
    (hne : a ≠ b) (ha : s.linkOf a = none) (hb : s.linkOf b = none) (hliveA : s.Live a)
    (hliveB : s.Live b) (hadd : AddedLink s s' a b delay) : s'.Coherent := by
  -- No old entry touches the two interfaces, which were free.
  have hold : ∀ i x, i < s.linkCount → linkTouches (s.links i) x = true → ¬ (x = a ∨ x = b) := by
    rintro i x hi hx (rfl | rfl)
    · exact h.not_free hi hx ha
    · exact h.not_free hi hx hb
  refine ⟨?_, ?_, ?_⟩
  · intro i hi
    rcases Nat.lt_succ_iff_lt_or_eq.mp (hadd.linkCount ▸ hi) with hlt | rfl
    · rcases h.ends i hlt with ⟨c, d, hc, hd, hcd, hliveC, hliveD⟩
      rw [hadd.kept i hlt]
      exact ⟨c, d, hc, hd, hcd, (hadd.sameNodes.live c).mpr hliveC,
        (hadd.sameNodes.live d).mpr hliveD⟩
    · rw [hadd.last]
      exact ⟨a, b, rfl, rfl, hne, (hadd.sameNodes.live a).mpr hliveA,
        (hadd.sameNodes.live b).mpr hliveB⟩
  · intro i j x hi hj hx hx'
    rcases Nat.lt_succ_iff_lt_or_eq.mp (hadd.linkCount ▸ hi) with hilt | rfl
    · rw [hadd.kept i hilt] at hx
      rcases Nat.lt_succ_iff_lt_or_eq.mp (hadd.linkCount ▸ hj) with hjlt | rfl
      · rw [hadd.kept j hjlt] at hx'
        exact h.disjoint i j x hilt hjlt hx hx'
      · exact absurd ((hadd.touches_last x).mp hx') (hold i x hilt hx)
    · rcases Nat.lt_succ_iff_lt_or_eq.mp (hadd.linkCount ▸ hj) with hjlt | rfl
      · rw [hadd.kept j hjlt] at hx'
        exact absurd ((hadd.touches_last x).mp hx) (hold j x hjlt hx')
      · rfl
  · intro i x hi hx
    rw [hadd.linkOf]
    split_ifs with hends
    · rfl
    · rcases Nat.lt_succ_iff_lt_or_eq.mp (hadd.linkCount ▸ hi) with hlt | rfl
      · rw [hadd.kept i hlt] at hx
        exact h.linked i x hlt hx
      · exact absurd ((hadd.touches_last x).mp hx) hends

/-- A new last entry between two interfaces without a link keeps the table in order. -/
theorem Ok.addLink {s s' : Simulator A} (h : s.Ok) {a b : Interface} {delay : A.Single} (hne : a ≠ b)
    (ha : s.linkOf a = none) (hb : s.linkOf b = none) (hliveA : s.Live a) (hliveB : s.Live b)
    (hadd : AddedLink s s' a b delay) : s'.Ok := by
  refine ⟨h.coherent.addLink hne ha hb hliveA hliveB hadd, fun i x hi hx => ?_⟩
  rw [hadd.linkOf]
  rcases Nat.lt_succ_iff_lt_or_eq.mp (hadd.linkCount ▸ hi) with hlt | rfl
  · rw [hadd.kept i hlt] at hx
    have hnot : ¬ (x = a ∨ x = b) := by
      rintro (rfl | rfl)
      · exact h.coherent.not_free hlt hx ha
      · exact h.coherent.not_free hlt hx hb
    rw [if_neg hnot]
    exact h.designated i x hlt hx
  · exact if_pos ((hadd.touches_last x).mp hx)

theorem endpointToInterface_live {s : Simulator A} {endpoint : Text} {x : Interface}
    (h : endpointToInterface s endpoint = some x) : s.Live x := by
  rw [endpointToInterface] at h
  simp only at h
  split at h
  · cases h
  · rename_i entry hentry
    rcases Option.map_eq_some_iff.mp h with ⟨port, hport, hx⟩
    rcases Option.bind_eq_some_iff.mp hentry with ⟨index, -, hindex⟩
    have hbound : port < (s.heap entry.node).numInterfaces := by
      rw [nodeGetInterface] at hport
      split at hport
      · cases hport
        omega
      · cases hport
    rw [← hx]
    exact ⟨⟨entry, List.mem_of_getElem? hindex, rfl⟩, hbound⟩

/-- What `simulator_link` has checked when it adds a link. -/
theorem simulatorLink_eq_some {s s' : Simulator A} {endpointA endpointB : Text} {delay : A.Single}
    (hlink : simulatorLink s endpointA endpointB delay = some s') :
    ∃ a b, endpointToInterface s endpointA = some a ∧ endpointToInterface s endpointB = some b ∧
      s.linkCount < simulatorMaxLinks ∧ a ≠ b ∧ s.linkOf a = none ∧ s.linkOf b = none ∧
      AddedLink s s' a b (if A.isNegative delay then A.zero else delay) := by
  rw [simulatorLink] at hlink
  split at hlink
  · cases hlink
  · rename_i hroom
    split at hlink
    · rename_i a b hendA hendB
      split at hlink
      · cases hlink
      · rename_i hne
        split at hlink
        · cases hlink
        · rename_i hfree
          split at hlink
          · cases hlink
          · have ha : s.linkOf a = none := by
              cases hlinkOf : s.linkOf a with
              | none => rfl
              | some slot => exact absurd (by rw [hlinkOf]; rfl) hfree
            have hb : s.linkOf b = none := by
              cases hlinkOf : s.linkOf b with
              | none => rfl
              | some slot => exact absurd (by rw [hlinkOf, Option.isSome_some, Bool.or_true]) hfree
            have hadd := linkInit_spec (if A.isNegative delay then A.zero else delay) ha hb
            rw [Option.some.inj hlink] at hadd
            exact ⟨a, b, hendA, hendB, not_le.mp hroom, hne, ha, hb, hadd⟩
    · cases hlink

theorem Ok.link {s s' : Simulator A} (h : s.Ok) {endpointA endpointB : Text} {delay : A.Single}
    (hlink : simulatorLink s endpointA endpointB delay = some s') : s'.Ok := by
  rcases simulatorLink_eq_some hlink with ⟨a, b, hendA, hendB, -, hne, ha, hb, hadd⟩
  exact h.addLink hne ha hb (endpointToInterface_live hendA) (endpointToInterface_live hendB) hadd

theorem linkJoins_touches {link : Link A} {a b : Interface} (h : linkJoins link a b = true) :
    linkTouches link a = true := by
  rw [linkTouches_iff]
  rcases (Bool.or_eq_true _ _).mp h with h | h
  · exact Or.inl (beq_iff_eq.mp (Bool.and_eq_true_iff.mp h).1)
  · exact Or.inr (beq_iff_eq.mp (Bool.and_eq_true_iff.mp h).2)

/-- What `simulator_unlink` does when it succeeds: it removes the first entry that joins the interfaces. -/
theorem simulatorUnlink_eq_some {s s' : Simulator A} {endpointA endpointB : Text}
    (hunlink : simulatorUnlink s endpointA endpointB = some s') :
    ∃ a b i, endpointToInterface s endpointA = some a ∧ endpointToInterface s endpointB = some b ∧
      (findLink s fun link => linkJoins link a b) = some i ∧ i < s.linkCount ∧ s' = removeLink s i := by
  rw [simulatorUnlink] at hunlink
  split at hunlink
  · rename_i a b hendA hendB
    rcases Option.map_eq_some_iff.mp hunlink with ⟨i, hfound, rfl⟩
    exact ⟨a, b, i, hendA, hendB, hfound, (findLink_eq_some hfound).1, rfl⟩
  · cases hunlink

theorem Ok.unlink {s s' : Simulator A} (h : s.Ok) {endpointA endpointB : Text}
    (hok : s.StepOk (.unlink endpointA endpointB))
    (hunlink : simulatorUnlink s endpointA endpointB = some s') : s'.Ok := by
  rcases simulatorUnlink_eq_some hunlink with ⟨a, b, i, hendA, hendB, hfound, hi, rfl⟩
  -- Only the entry found is removed, so the condition makes it the last.
  have hlast : i + 1 = s.linkCount := by
    by_contra hne
    rcases hok i (i + 1) (Nat.le_succ i) (by omega) ⟨a, b, hendA, hendB, hfound⟩ with
      ⟨a', b', hendA', hendB', hfound'⟩
    rw [hendA] at hendA'
    rw [hendB] at hendB'
    cases hendA'
    cases hendB'
    rw [hfound] at hfound'
    have heq := Option.some.inj hfound'
    omega
  exact ⟨h.coherent.remove hi, h.designated.remove hlast⟩

/-- The state with a new node at an address. -/
def created (s : Simulator A) (type : SimulatorNodeType) (name : Text) (requestedPorts : Int)
    (address : Nat) : Simulator A :=
  { s with
    nodes := s.nodes ++
      [{ name := strncpyTerminated name maxName, type := type, node := address }]
    heap := Function.update s.heap address
      { name := strncpyTerminated name maxName
        numInterfaces := requestedPortCount requestedPorts
        numInterfaces_le := requestedPortCount_le requestedPorts
        link := fun _ => none
        device := deviceInit type }
    interfaces := registerInterfaces s.interfaces address (requestedPortCount requestedPorts) }

theorem calloc_eq_some {s : Simulator A} {address : Option Nat} {a : Nat}
    (h : s.calloc address = some a) : ¬ s.InUse a := by
  have hfilter := (Option.filter_eq_some_iff.mp h).2
  simpa using hfilter

/-- What `simulator_create_node` has checked when it creates a node. -/
theorem simulatorCreateNode_eq_some {s s' : Simulator A} {type name : Text} {requestedPorts : Int}
    {address : Option Nat}
    (hcreate : simulatorCreateNode s type name requestedPorts address = some s') :
    ∃ nodeType a, parseNodeType type = some nodeType ∧ address = some a ∧
      simulatorFindNode s name = none ∧ s.nodes.length < simulatorMaxNodes ∧
      s' = s.created nodeType name requestedPorts a := by
  unfold simulatorCreateNode at hcreate
  split at hcreate
  · cases hcreate
  · rename_i hnew
    split at hcreate
    · cases hcreate
    · rename_i hroom
      split at hcreate
      · rename_i nodeType a hnodeType
        have hnone : simulatorFindNode s name = none := by
          cases hfind : simulatorFindNode s name with
          | none => rfl
          | some index => exact absurd (by rw [hfind]; rfl) hnew
        exact ⟨nodeType, a, hnodeType, rfl, hnone, not_le.mp hroom, (Option.some.inj hcreate).symm⟩
      · cases hcreate

/-- When `simulator_create_node` creates a node. -/
theorem simulatorCreateNode_created {s : Simulator A} {type name : Text} {nodeType : SimulatorNodeType}
    (htype : parseNodeType type = some nodeType) (hnew : simulatorFindNode s name = none)
    (hroom : s.nodes.length < simulatorMaxNodes) (requestedPorts : Int) (a : Nat) :
    simulatorCreateNode s type name requestedPorts (some a) =
      some (s.created nodeType name requestedPorts a) := by
  unfold simulatorCreateNode
  simp only [hnew, htype, Option.isSome_none, Bool.false_eq_true, if_false,
    if_neg (Nat.not_le.mpr hroom)]
  rfl

theorem created_heap_of_ne (s : Simulator A) (type : SimulatorNodeType) (name : Text)
    (requestedPorts : Int) {address other : Nat} (h : other ≠ address) :
    (s.created type name requestedPorts address).heap other = s.heap other :=
  Function.update_of_ne h _ _

/-- Interfaces of nodes that were there are as before. -/
theorem created_live {s : Simulator A} {address : Nat} (hfresh : ¬ s.InUse address)
    (type : SimulatorNodeType) (name : Text) (requestedPorts : Int) {x : Interface}
    (h : s.Live x) :
    (s.created type name requestedPorts address).Live x ∧
      (s.created type name requestedPorts address).linkOf x = s.linkOf x := by
  have hother : x.node ≠ address := fun heq => hfresh (heq ▸ h.1)
  have hheap := created_heap_of_ne s type name requestedPorts hother
  rcases h with ⟨⟨entry, hentry, hnode⟩, hport⟩
  refine ⟨⟨⟨entry, List.mem_append_left _ hentry, hnode⟩, ?_⟩, ?_⟩
  · rw [hheap]
    exact hport
  · rw [linkOf, hheap, linkOf]

theorem Coherent.live {s : Simulator A} (h : s.Coherent) {i : Nat} {x : Interface}
    (hi : i < s.linkCount) (hx : linkTouches (s.links i) x = true) : s.Live x := by
  rcases h.ends i hi with ⟨a, b, ha, hb, -, hliveA, hliveB⟩
  rcases linkTouches_iff.mp hx with heq | heq
  · rwa [← Option.some.inj (ha.symm.trans heq)]
  · rwa [← Option.some.inj (hb.symm.trans heq)]

/-- A node in fresh memory has no links, and the others keep theirs. -/
theorem Coherent.created {s : Simulator A} (h : s.Coherent) {address : Nat}
    (hfresh : ¬ s.InUse address) (type : SimulatorNodeType) (name : Text) (requestedPorts : Int) :
    (s.created type name requestedPorts address).Coherent := by
  refine ⟨fun i hi => ?_, h.disjoint, fun i x hi hx => ?_⟩
  · rcases h.ends i hi with ⟨a, b, ha, hb, hne, hliveA, hliveB⟩
    exact ⟨a, b, ha, hb, hne, (created_live hfresh type name requestedPorts hliveA).1,
      (created_live hfresh type name requestedPorts hliveB).1⟩
  · rw [(created_live hfresh type name requestedPorts (h.live hi hx)).2]
    exact h.linked i x hi hx

theorem Ok.createNode {s s' : Simulator A} (h : s.Ok) {type name : Text} {requestedPorts : Int}
    {address : Option Nat}
    (hcreate : simulatorCreateNode s type name requestedPorts (s.calloc address) = some s') :
    s'.Ok := by
  rcases simulatorCreateNode_eq_some hcreate with ⟨nodeType, a, -, hcalloc, -, -, rfl⟩
  have hfresh := calloc_eq_some hcalloc
  refine ⟨h.coherent.created hfresh nodeType name requestedPorts, fun i x hi hx => ?_⟩
  rw [(created_live hfresh nodeType name requestedPorts (h.coherent.live hi hx)).2]
  exact h.designated i x hi hx

/-! ## A step that fails the condition -/

/-- A link that has moved while its interfaces point to its old slot does not work. -/
theorem Designated.not_linksWork {s s' : Simulator A} (h : s.Designated) {j j' : Nat}
    (hj : j < s.linkCount) (hj' : j' < s'.linkCount) (hne : j' ≠ j)
    (hlink : s'.links j' = s.links j)
    (hpointers : ∀ x, linkTouches (s.links j) x = true → s'.linkOf x = s.linkOf x) :
    ¬ s'.LinksWork := by
  intro hwork
  rcases hwork j' hj' with ⟨a, b, ha, -, hlinkA, -⟩
  have htouches : linkTouches (s.links j) a = true := by
    rw [← hlink]
    exact linkTouches_iff.mpr (Or.inl ha)
  have hsame : some j' = some j := by
    calc
      some j' = s'.linkOf a := hlinkA.symm
      _ = s.linkOf a := hpointers a htouches
      _ = some j := h j a hj htouches
  exact hne (Option.some.inj hsame)

theorem Ok.unlink_not_linksWork {s s' : Simulator A} (h : s.Ok) {endpointA endpointB : Text}
    {i j : Nat} (hij : i ≤ j) (hj : j < s.linkCount)
    (hi : s.Removes i (.unlink endpointA endpointB))
    (hnot : ¬ s.Removes j (.unlink endpointA endpointB))
    (hunlink : simulatorUnlink s endpointA endpointB = some s') : ¬ s'.LinksWork := by
  have hlt : i < j := Nat.lt_of_le_of_ne hij fun heq => hnot (heq ▸ hi)
  rcases hi with ⟨a, b, hendA, hendB, hfound⟩
  rw [simulatorUnlink, hendA, hendB] at hunlink
  simp only [hfound, Option.map_some, Option.some.injEq] at hunlink
  rw [← hunlink]
  have hiCount : i < s.linkCount := hlt.trans hj
  rcases removeLink_spec s hiCount with ⟨-, hcount, hlinks, hlinkOf⟩
  have hplace : placeBefore i i = i + 1 := if_neg (Nat.lt_irrefl i)
  refine @Designated.not_linksWork _ _ _ h.designated (i + 1) i (by omega) (by omega) (by omega) ?_ ?_
  · rw [hlinks i (by omega), hplace]
  · intro x hx
    have hother : ¬ linkTouches (s.links i) x = true := by
      intro hremoved
      have hsame := h.coherent.disjoint (i + 1) i x (by omega) hiCount hx hremoved
      omega
    rw [hlinkOf, if_neg hother]

theorem Ok.removeNode_not_linksWork {s s' : Simulator A} (h : s.Ok) {name : Text}
    {i j : Nat} (hij : i ≤ j) (hj : j < s.linkCount) (hi : s.Removes i (.removeNode name))
    (hnot : ¬ s.Removes j (.removeNode name))
    (hremove : simulatorRemoveNode s name = some s') : ¬ s'.LinksWork := by
  have hlt : i < j := Nat.lt_of_le_of_ne hij fun heq => hnot (heq ▸ hi)
  rcases simulatorRemoveNode_eq_some hremove with
    ⟨index, entry, hindex, hentry, -, hheap, hlinks, hcount⟩
  rcases hi with ⟨index', entry', hindex', hentry', port, hport⟩
  cases hindex.symm.trans hindex'
  cases hentry.symm.trans hentry'
  have hother : ∀ port, linkTouches (s.links j) { node := entry.node, port := port } = false := by
    intro port
    exact Bool.not_eq_true _ ▸ fun hx => hnot ⟨index, entry, hindex, hentry, port, hx⟩
  have hdone := h.coherent.removing entry.node (s.heap entry.node).numInterfaces
  have hmoved := h.coherent.moved hlt hj hport hother (s.heap entry.node).numInterfaces
  generalize s.unlinkPorts entry.node (s.heap entry.node).numInterfaces = unlinked
    at hheap hlinks hcount hdone hmoved
  rcases hmoved.place with ⟨j', hj', hlink, hplace⟩
  have hne : j' ≠ j := by
    rcases hplace with hdown | ⟨rfl, i', port', hi', hx⟩
    · omega
    · rw [hdone.noneLeft (hi'.trans hj')] at hx
      cases hx
  refine h.designated.not_linksWork hj (hcount ▸ hj') hne (by rw [hlinks, hlink]) fun x hx => ?_
  rw [linkOf, hheap]
  exact hmoved.pointers x hx

/-! ## Runs -/

/-- A call that fails leaves the state alone. -/
theorem getD_holds {P : Simulator A → Prop} {s : Simulator A} (h : P s) {result : Option (Simulator A)}
    (hresult : ∀ s', result = some s' → P s') : P (result.getD s) := by
  cases result with
  | none => exact h
  | some s' => exact hresult s' rfl

theorem Ok.step {s : Simulator A} (h : s.Ok) {action : SimulatorAction A} (hok : s.StepOk action) :
    (s.step action).Ok := by
  cases action with
  | createNode type name requestedPorts address => exact getD_holds h fun _ => h.createNode
  | link endpointA endpointB delay => exact getD_holds h fun _ => h.link
  | unlink endpointA endpointB => exact getD_holds h fun _ => h.unlink hok
  | removeNode name => exact getD_holds h fun _ => h.removeNode hok

/-- The condition is the weakest one: a step that fails it leaves a link that does not work. -/
theorem Ok.step_not_linksWork {s : Simulator A} (h : s.Ok) {action : SimulatorAction A}
    (hbad : ¬ s.StepOk action) : ¬ (s.step action).LinksWork := by
  rw [StepOk] at hbad
  push Not at hbad
  rcases hbad with ⟨i, j, hij, hj, hi, hnot⟩
  cases action with
  | createNode type name requestedPorts address => exact hi.elim
  | link endpointA endpointB delay => exact hi.elim
  | unlink endpointA endpointB =>
      rcases hi with ⟨a, b, hendA, hendB, hfound⟩
      have hunlink : simulatorUnlink s endpointA endpointB = some (removeLink s i) := by
        rw [simulatorUnlink, hendA, hendB]
        simp only [hfound, Option.map_some]
      rw [Simulator.step, hunlink, Option.getD_some]
      exact h.unlink_not_linksWork hij hj ⟨a, b, hendA, hendB, hfound⟩ hnot hunlink
  | removeNode name =>
      rcases hi with ⟨index, entry, hindex, hentry, hport⟩
      have hsome : (simulatorRemoveNode s name).isSome = true := by
        rw [simulatorRemoveNode, hindex]
        simp only [hentry, Option.isSome_some]
      rcases Option.isSome_iff_exists.mp hsome with ⟨s', hs'⟩
      rw [Simulator.step, hs', Option.getD_some]
      exact h.removeNode_not_linksWork hij hj ⟨index, entry, hindex, hentry, hport⟩ hnot hs'

theorem ok_init (heap : Nat → Node) (links : Nat → Link A) : (simulatorInit heap links).Ok := by
  refine ⟨⟨fun i hi => ?_, fun i j x hi => ?_, fun i x hi => ?_⟩, fun i x hi => ?_⟩
  all_goals exact absurd hi (Nat.not_lt_zero i)

theorem Ok.run_iff {s : Simulator A} (h : s.Ok) (actions : List (SimulatorAction A)) :
    (∀ earlier, earlier <+: actions → (s.run earlier).LinksWork) ↔ s.RunOk actions := by
  induction actions generalizing s with
  | nil =>
      refine ⟨fun _ => trivial, fun _ earlier hearlier => ?_⟩
      rw [List.prefix_nil.mp hearlier]
      exact h.coherent.linksWork h.designated
  | cons action rest ih =>
      constructor
      · intro hwork
        have hok : s.StepOk action := by
          by_contra hbad
          exact h.step_not_linksWork hbad (hwork [action] ⟨rest, rfl⟩)
        refine ⟨hok, (ih (h.step hok)).mp fun earlier hearlier => ?_⟩
        exact hwork (action :: earlier) (List.cons_prefix_cons.mpr ⟨rfl, hearlier⟩)
      · intro hok earlier hearlier
        cases earlier with
        | nil => exact h.coherent.linksWork h.designated
        | cons first earlier =>
            rcases List.cons_prefix_cons.mp hearlier with ⟨rfl, hrest⟩
            exact (ih (h.step hok.1)).mpr hok.2 earlier hrest

end Simulator

/-- The links of the table work in every state of a run exactly when each step of it removes links from
the end of the table only. -/
theorem simulator_links_work_iff (heap : Nat → Node) (links : Nat → Link A)
    (actions : List (SimulatorAction A)) :
    (∀ earlier, earlier <+: actions → ((simulatorInit heap links).run earlier).LinksWork) ↔
      (simulatorInit heap links).RunOk actions :=
  (Simulator.ok_init heap links).run_iff actions

/-- Two switches, three cables between them, and the first cable taken away again. -/
def unlinkFirst : List (SimulatorAction exactFloat) :=
  [.createNode (text "switch") (text "A") 3 (some 0),
    .createNode (text "switch") (text "B") 3 (some 1),
    .link (text "A:1") (text "B:1") (0 : ℚ),
    .link (text "A:2") (text "B:2") (0 : ℚ),
    .link (text "A:3") (text "B:3") (0 : ℚ),
    .unlink (text "A:1") (text "B:1")]

/-- Memory and a link table before the first use. -/
def blankSimulator : Simulator exactFloat :=
  simulatorInit
    (fun _ =>
      { name := []
        numInterfaces := 0
        numInterfaces_le := Nat.zero_le _
        link := fun _ => none
        device := deviceInit .host })
    (fun _ => { interface1 := none, interface2 := none, delay := (0 : ℚ) })

/-- The second cable moves to slot `0` while its interfaces point to slot `1`, where the third one used
to be: a frame sent on it gets nowhere. -/
theorem simulator_links_work_iff_unlinkFirst :
    ((blankSimulator.run unlinkFirst).links 0).interface1 = some { node := 0, port := 1 } ∧
      (blankSimulator.run unlinkFirst).linkCount = 2 ∧
      interfaceSend (blankSimulator.run unlinkFirst) { node := 0, port := 1 } = none ∧
      ¬ (blankSimulator.run unlinkFirst).LinksWork := by
  have hfirst : ((blankSimulator.run unlinkFirst).links 0).interface1 =
      some { node := 0, port := 1 } := by decide +kernel
  have hsend : interfaceSend (blankSimulator.run unlinkFirst) { node := 0, port := 1 } = none := by
    decide +kernel
  refine ⟨hfirst, by decide +kernel, hsend, fun hwork => ?_⟩
  rcases hwork 0 (by decide +kernel) with ⟨a, b, ha, -, -, -, hab, -⟩
  rw [← Option.some.inj (hfirst.symm.trans ha), hsend] at hab
  cases hab

end MagiStack
