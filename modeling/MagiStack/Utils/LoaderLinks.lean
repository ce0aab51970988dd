import MagiStack.Utils.LoaderNodes

/-!
# LoaderLinks — the links of a saved topology come back

An endpoint of a file names a node and a port, and in the loaded simulator it stands for the interface of the new
node with that name and that port.  The links are added in the order of the file, each in the slot it had.
-/

namespace MagiStack

variable {A : CFloat}

/-! ## Endpoints -/

theorem parseEndpoint_text {name : Text} (hname : name.length < maxName) (hcolon : 58 ∉ name) {n : Nat}
    (hn : n < 2 ^ 31) : parseEndpoint (name ++ 58 :: printNat n) = (name, (n : Int)) := by
  have hbefore : ∀ c ∈ name, decide (c ≠ 58) = true := by
    intro c hc
    exact decide_eq_true fun heq => hcolon (heq ▸ hc)
  have hdrop : (name ++ 58 :: printNat n).dropWhile (fun c => decide (c ≠ 58)) =
      58 :: printNat n := by
    rw [List.dropWhile_append_of_pos hbefore]
    rfl
  have htake : (name ++ 58 :: printNat n).takeWhile (fun c => decide (c ≠ 58)) = name := by
    rw [List.takeWhile_append_of_pos hbefore]
    exact List.append_nil name
  have hstored : strncpyTerminated name maxName = name :=
    List.take_of_length_le (Nat.le_pred_of_lt hname)
  rw [parseEndpoint, hdrop]
  simp only
  rw [htake, hstored, atoi_printNat hn]

/-- The endpoint of an interface is not cut off. -/
theorem endpointText_eq {s : Simulator A} (hok : TopologyOk s) {x : Interface} (hx : s.Live x) :
    endpointText s x = (s.heap x.node).name ++ 58 :: printNat (x.port + 1) ∧
      (s.heap x.node).name.length < maxName ∧ x.port + 1 ≤ maxPort := by
  rcases hx with ⟨⟨entry, hentry, hnode⟩, hport⟩
  have hentryOk := hok.entries entry hentry
  rw [hnode] at hentryOk
  have hlength : (s.heap x.node).name.length < maxName := hentryOk.name ▸ hentryOk.name_lt
  have hle : x.port + 1 ≤ maxPort := Nat.le_trans hport (s.heap x.node).numInterfaces_le
  have hmaxPort : maxPort = 32 := rfl
  have hdigits : (printNat (x.port + 1)).length ≤ 3 := printNat_length (by decide) (by omega)
  refine ⟨List.take_of_length_le ?_, hlength, hle⟩
  have hmaxName : maxName = 32 := rfl
  change ((s.heap x.node).name ++ 58 :: printNat (x.port + 1)).length ≤ 127
  rw [List.length_append, List.length_cons]
  omega

/-- What an endpoint stands for. -/
theorem endpointToInterface_text {s : Simulator A} (hnames : (s.nodes.map SimulatorNodeEntry.name).Nodup)
    {entry : SimulatorNodeEntry} (hentry : entry ∈ s.nodes) (hname : entry.name.length < maxName)
    (hcolon : 58 ∉ entry.name) {port : Nat} (hport : port < (s.heap entry.node).numInterfaces) :
    endpointToInterface s (entry.name ++ 58 :: printNat (port + 1)) =
      some { node := entry.node, port := port } := by
  have hmax : maxPort = 32 := rfl
  have hle := (s.heap entry.node).numInterfaces_le
  have hfound := Simulator.findEntry_of_mem hnames hentry
  have hinterface : nodeGetInterface (s.heap entry.node) ((port + 1 : Nat) : Int) = some port := by
    rw [nodeGetInterface, if_pos (by omega)]
    congr 1
    omega
  rw [endpointToInterface, parseEndpoint_text hname hcolon (by omega)]
  simp only
  rw [← Simulator.findEntry, hfound]
  simp only [hinterface, Option.map_some]

/-! ## The interfaces of a loaded simulator -/

/-- The interface of `s` comes back as the one of `s'`. -/
structure Twin (s s' : Simulator A) (x x' : Interface) : Prop where
  live : s.Live x
  live' : s'.Live x'
  same : s'.endView x' = s.endView x

/-- Where names identify nodes, an interface is known by its node's name and its port. -/
theorem endView_injective {s : Simulator A} (hok : TopologyOk s)
    (hnames : (s.nodes.map SimulatorNodeEntry.name).Nodup) {x y : Interface} (hx : s.Live x)
    (hy : s.Live y) (h : s.endView x = s.endView y) : x = y := by
  -- Each interface lives on a node of the table, and its name is that of its entry.
  rcases hx with ⟨⟨entry, hentry, hnode⟩, -⟩
  rcases hy with ⟨⟨other, hother, hnode'⟩, -⟩
  rcases x with ⟨node, port⟩
  rcases y with ⟨node', port'⟩
  simp only at hnode hnode'
  subst hnode
  subst hnode'
  simp only [Simulator.endView, Prod.mk.injEq, (hok.entries entry hentry).name,
    (hok.entries other hother).name] at h
  have hsame := List.inj_on_of_nodup_map hnames hentry hother h.1
  rw [hsame, Nat.succ.inj h.2]

theorem Twin.unique {s s' : Simulator A} (hok : TopologyOk s)
    (hnames : (s.nodes.map SimulatorNodeEntry.name).Nodup) {x y x' : Interface}
    (hx : Twin s s' x x') (hy : Twin s s' y x') : x = y :=
  endView_injective hok hnames hx.live hy.live (hx.same.symm.trans hy.same)

section Loaded

variable {alloc : Nat → Option Nat} {s s' : Simulator A}

theorem Built.names_nodup (h : Built alloc (s.fileEntries.map s.viewInFile) s')
    (hnames : (s.nodes.map SimulatorNodeEntry.name).Nodup) :
    (s'.nodes.map SimulatorNodeEntry.name).Nodup := by
  have hsame : s'.nodes.map SimulatorNodeEntry.name =
      s.fileEntries.map SimulatorNodeEntry.name := by
    calc
      s'.nodes.map SimulatorNodeEntry.name = s'.nodeViews.map NodeView.name := by
        rw [Simulator.nodeViews, List.map_map]
        rfl
      _ = (s.fileEntries.map s.viewInFile).map NodeView.name := by rw [h.nodeViews]
      _ = s.fileEntries.map SimulatorNodeEntry.name := by
        rw [List.map_map]
        exact List.map_congr_left fun entry _ => (viewInFile_name s entry).1
  rw [hsame]
  exact ((fileEntries_perm s).map _).nodup_iff.mpr hnames

/-- Each interface that has its port in the file comes back, and its endpoint stands for it. -/
theorem Built.exists_twin (h : Built alloc (s.fileEntries.map s.viewInFile) s') (hok : TopologyOk s)
    (hnames : (s.nodes.map SimulatorNodeEntry.name).Nodup)
    (hports : ∀ entry ∈ s.nodes,
      (s.viewInFile entry).numInterfaces = (s.heap entry.node).numInterfaces)
    {x : Interface} (hx : s.Live x) (hcolon : 58 ∉ (s.heap x.node).name) :
    ∃ x', Twin s s' x x' ∧ endpointToInterface s' (endpointText s x) = some x' := by
  rcases endpointText_eq hok hx with ⟨htext, hlength, -⟩
  have hlive := hx
  rcases hx with ⟨⟨entry, hentry, hnode⟩, hport⟩
  have hname : (s.heap x.node).name = entry.name := by
    rw [← hnode]
    exact (hok.entries entry hentry).name
  rw [hname] at htext hlength hcolon
  have hview : s.viewInFile entry ∈ s'.nodeViews := by
    rw [h.nodeViews]
    exact List.mem_map_of_mem ((fileEntries_perm s).mem_iff.mpr hentry)
  rcases List.mem_map.mp hview with ⟨loaded, hloaded, hsame⟩
  have hloadedName : loaded.name = entry.name :=
    (congrArg NodeView.name hsame).trans (viewInFile_name s entry).1
  have hloadedPorts : (s'.heap loaded.node).numInterfaces = (s.heap entry.node).numInterfaces :=
    (congrArg NodeView.numInterfaces hsame).trans (hports entry hentry)
  have hloadedPort : x.port < (s'.heap loaded.node).numInterfaces := by
    rw [hloadedPorts, hnode]
    exact hport
  -- The twin is the same port of the node that was loaded under the name.
  refine ⟨{ node := loaded.node, port := x.port },
    ⟨hlive, ⟨⟨loaded, hloaded, rfl⟩, hloadedPort⟩, ?_⟩, ?_⟩
  · simp only [Simulator.endView, h.names loaded hloaded, hloadedName, hname]
  · rw [htext, ← hloadedName]
    exact endpointToInterface_text (h.names_nodup hnames) hloaded (hloadedName ▸ hlength)
      (hloadedName ▸ hcolon) hloadedPort

end Loaded

/-! ## Adding the links -/

/-- `simulator_link` between two interfaces without a link. -/
theorem simulatorLink_added {s : Simulator A} {endpointA endpointB : Text} {a b : Interface}
    (hendA : endpointToInterface s endpointA = some a)
    (hendB : endpointToInterface s endpointB = some b) (hroom : s.linkCount < simulatorMaxLinks)
    (hne : a ≠ b) (ha : s.linkOf a = none) (hb : s.linkOf b = none)
    (hnew : ∀ i, i < s.linkCount → linkTouches (s.links i) a = false) (delay : A.Single) :
    ∃ s', simulatorLink s endpointA endpointB delay = some s' ∧
      Simulator.AddedLink s s' a b (clampDelay A delay) := by
  have hfind : (findLink s fun link => linkJoins link a b) = none := by
    cases hfound : findLink s fun link => linkJoins link a b with
    | none => rfl
    | some i =>
        rcases Simulator.findLink_eq_some hfound with ⟨hi, hjoins⟩
        have htouches := Simulator.linkJoins_touches hjoins
        rw [hnew i hi] at htouches
        cases htouches
  refine ⟨_, ?_, Simulator.linkInit_spec (clampDelay A delay) ha hb⟩
  simp only [simulatorLink, if_neg (Nat.not_le.mpr hroom), hendA, hendB, if_neg hne, ha, hb,
    Option.isSome_none, Bool.or_self, Bool.false_eq_true, if_false, hfind]
  rfl

theorem endpointToInterface_congr {s s' : Simulator A} (h : Simulator.SameNodes s s')
    (endpoint : Text) : endpointToInterface s' endpoint = endpointToInterface s endpoint := by
  have hinterface : ∀ address port, nodeGetInterface (s'.heap address) port =
      nodeGetInterface (s.heap address) port := by
    intro address port
    rw [nodeGetInterface, nodeGetInterface, h.numInterfaces]
  simp only [endpointToInterface, simulatorFindNode, h.nodes, hinterface]

/-- The first `k` links of `s` have come back in `s'`, with the delays that are read, and the others have not. -/
structure LinksLoaded (s loaded : Simulator A) (delays : Nat → A.Single) (k : Nat) (s' : Simulator A) :
    Prop where
  sameNodes : Simulator.SameNodes loaded s'
  linkCount : s'.linkCount = k
  ends : ∀ i, i < k → ∃ a b a' b', (s.links i).interface1 = some a ∧
    (s.links i).interface2 = some b ∧ Twin s loaded a a' ∧ Twin s loaded b b' ∧
    s'.links i = { interface1 := some a', interface2 := some b', delay := clampDelay A (delays i) }
  free : ∀ x', loaded.Live x' → s'.linkOf x' ≠ none →
    ∃ i, i < k ∧ linkTouches (s'.links i) x' = true

/-- An entry of the loaded table touches the twins of the interfaces it touched. -/
theorem LinksLoaded.touches {s loaded s' : Simulator A} {delays : Nat → A.Single} {k : Nat}
    (h : LinksLoaded s loaded delays k s') (hok : TopologyOk s)
    (hnames : (s.nodes.map SimulatorNodeEntry.name).Nodup) {i : Nat} (hi : i < k) {x x' : Interface}
    (hx : Twin s loaded x x') (htouches : linkTouches (s'.links i) x' = true) :
    linkTouches (s.links i) x = true := by
  rcases h.ends i hi with ⟨a, b, a', b', ha, hb, htwinA, htwinB, hlink⟩
  rw [hlink, Simulator.linkTouches_iff] at htouches
  rcases htouches with heq | heq
  · cases heq
    rw [hx.unique hok hnames htwinA]
    exact Simulator.linkTouches_iff.mpr (Or.inl ha)
  · cases heq
    rw [hx.unique hok hnames htwinB]
    exact Simulator.linkTouches_iff.mpr (Or.inr hb)

/-- The next link of the file is added. -/
theorem LinksLoaded.next {s loaded s' : Simulator A} {delays : Nat → A.Single} {k : Nat}
    (h : LinksLoaded s loaded delays k s') (hok : TopologyOk s)
    (hnames : (s.nodes.map SimulatorNodeEntry.name).Nodup) (hk : k < s.linkCount)
    {a b a' b' : Interface} (ha : (s.links k).interface1 = some a)
    (hb : (s.links k).interface2 = some b) (htwinA : Twin s loaded a a') (htwinB : Twin s loaded b b')
    (hendA : endpointToInterface loaded (endpointText s a) = some a')
    (hendB : endpointToInterface loaded (endpointText s b) = some b') :
    ∃ s'', simulatorLink s' (endpointText s a) (endpointText s b) (delays k) = some s'' ∧
      LinksLoaded s loaded delays (k + 1) s'' := by
  have htouchA : linkTouches (s.links k) a = true := Simulator.linkTouches_iff.mpr (Or.inl ha)
  have htouchB : linkTouches (s.links k) b = true := Simulator.linkTouches_iff.mpr (Or.inr hb)
  -- No link before this one is at one of its ends.
  have hnew : ∀ x x', Twin s loaded x x' → linkTouches (s.links k) x = true →
      ∀ i, i < k → linkTouches (s'.links i) x' = false := by
    intro x x' htwin hx i hi
    by_contra htouches
    have hsame := hok.coherent.disjoint i k x (by omega) hk
      (h.touches hok hnames hi htwin (Bool.not_eq_false _ ▸ htouches)) hx
    omega
  -- An interface that has a link in the loaded simulator got it from one of the links before.
  have hfree : ∀ x x', Twin s loaded x x' → linkTouches (s.links k) x = true →
      s'.linkOf x' = none := by
    intro x x' htwin hx
    by_contra hlinked
    rcases h.free x' htwin.live' hlinked with ⟨i, hi, htouches⟩
    rw [hnew x x' htwin hx i hi] at htouches
    cases htouches
  have hne : a' ≠ b' := by
    rintro rfl
    -- The two ends of a link differ, and twins tell them apart.
    rcases hok.coherent.ends k hk with ⟨c, d, hc, hd, hcd, -, -⟩
    have hca := Option.some.inj (ha.symm.trans hc)
    have hdb := Option.some.inj (hb.symm.trans hd)
    exact hcd (hca ▸ hdb ▸ htwinA.unique hok hnames htwinB)
  have hroom : s'.linkCount < simulatorMaxLinks := by
    rw [h.linkCount]
    exact hk.trans_le hok.linkCount_le
  rw [← endpointToInterface_congr h.sameNodes] at hendA hendB
  rcases simulatorLink_added hendA hendB hroom hne (hfree a a' htwinA htouchA)
    (hfree b b' htwinB htouchB) (by rw [h.linkCount]; exact hnew a a' htwinA htouchA) (delays k) with
    ⟨s'', hlink, hadd⟩
  have hkept : ∀ i, i < k → s''.links i = s'.links i := fun i hi =>
    hadd.kept i (h.linkCount.symm ▸ hi)
  have hlast := hadd.last
  rw [h.linkCount] at hlast
  refine ⟨s'', hlink, h.sameNodes.trans hadd.sameNodes, by rw [hadd.linkCount, h.linkCount], ?_, ?_⟩
  · intro i hi
    rcases Nat.lt_succ_iff_lt_or_eq.mp hi with hlt | rfl
    · rw [hkept i hlt]
      exact h.ends i hlt
    · exact ⟨a, b, a', b', ha, hb, htwinA, htwinB, hlast⟩
  · intro x' hlive hlinked
    rw [hadd.linkOf] at hlinked
    -- The interfaces with a link are the two ends of the new one, and those that had one before.
    split_ifs at hlinked with hend
    · refine ⟨k, Nat.lt_succ_self k, ?_⟩
      rw [hlast, Simulator.linkTouches_iff]
      rcases hend with rfl | rfl
      · exact Or.inl rfl
      · exact Or.inr rfl
    · rcases h.free x' hlive hlinked with ⟨i, hi, htouches⟩
      exact ⟨i, Nat.lt_succ_of_lt hi, by rwa [hkept i hi]⟩

/-! ## The links of a file -/

/-- What a file has of a link, with a number for its delay. -/
def linkInFile (s : Simulator A) (delays : Nat → A.Double) (i : Nat) : JsonValue A.Double :=
  match (s.links i).interface1, (s.links i).interface2 with
  | some a, some b => saveLink A (endpointText s a) (endpointText s b) (delays i)
  | _, _ => .null

theorem savedLinks_eq {s : Simulator A} (hok : TopologyOk s) :
    savedLinks s =
      (List.range s.linkCount).map (linkInFile s fun i => A.toDouble (s.links i).delay) := by
  rw [savedLinks, ← List.filterMap_eq_map]
  refine List.filterMap_congr fun i hi => ?_
  rcases hok.coherent.ends i (List.mem_range.mp hi) with ⟨a, b, ha, hb, -⟩
  simp only [Function.comp, linkInFile, ha, hb]

theorem endpointText_length (s : Simulator A) (x : Interface) :
    (endpointText s x).length < jsonMaxString := by
  have hle := List.length_take_le 127
    ((s.heap x.node).name ++ 58 :: printInt ((x.port : Int) + 1))
  exact Nat.lt_of_le_of_lt hle (by decide)

/-- `simulator_load` of a link as it was saved. -/
theorem loadLink_saved {endpoint1 endpoint2 : Text} (h1 : endpoint1.length < jsonMaxString)
    (h2 : endpoint2.length < jsonMaxString) (delay : A.Double) (s : Simulator A) :
    loadLink s (saveLink A endpoint1 endpoint2 delay) =
      (simulatorLink s endpoint1 endpoint2 (A.toSingle delay)).getD s := by
  have hkeyEndpoints : (text "endpoints").length < jsonMaxString := by decide
  have hkeyDelay : (text "delay").length < jsonMaxString := by decide
  have hkeys : ∀ member ∈ ([(text "endpoints",
      jsonArrayOf [jsonCreateString endpoint1, jsonCreateString endpoint2]),
      (text "delay", .number delay)] : List (Text × JsonValue A.Double)),
      member.1.length < jsonMaxString := by
    simp only [List.forall_mem_cons]
    exact ⟨hkeyEndpoints, hkeyDelay, fun _ h => (nomatch h)⟩
  have hendpoints : jsonItems (saveLink A endpoint1 endpoint2 delay) (text "endpoints") =
      [.string endpoint1, .string endpoint2] := by
    rw [← jsonCreateString_eq h1, ← jsonCreateString_eq h2]
    have htwo : 2 ≤ jsonMaxArray := by decide
    exact jsonItems_objectOf hkeys htwo rfl
  have hdelay : jsonObjectGet (saveLink A endpoint1 endpoint2 delay) (text "delay") =
      some (.number delay) := jsonObjectGet_objectOf hkeys _
  rw [loadLink, hendpoints, hdelay]

/-- All links of a file are added, each in the slot it had. -/
theorem linksLoaded {alloc : Nat → Option Nat} {s loaded : Simulator A} (hok : TopologyOk s)
    (hnames : (s.nodes.map SimulatorNodeEntry.name).Nodup)
    (hports : ∀ entry ∈ s.nodes,
      (s.viewInFile entry).numInterfaces = (s.heap entry.node).numInterfaces)
    (h : Built alloc (s.fileEntries.map s.viewInFile) loaded) (delays : Nat → A.Double) (k : Nat)
    (hk : k ≤ s.linkCount) :
    LinksLoaded s loaded (fun i => A.toSingle (delays i)) k
      (((List.range k).map (linkInFile s delays)).foldl loadLink loaded) := by
  induction k with
  | zero =>
      refine ⟨Simulator.SameNodes.refl loaded, h.linkCount, fun i hi => absurd hi (Nat.not_lt_zero i),
        fun x' hlive hlinked => absurd ?_ hlinked⟩
      rcases hlive with ⟨⟨entry, hentry, hnode⟩, -⟩
      change (loaded.heap x'.node).link x'.port = none
      rw [← hnode]
      exact h.unlinked entry hentry x'.port
  | succ k ih =>
      have hbefore := ih (Nat.le_of_succ_le hk)
      rcases hok.coherent.ends k hk with ⟨a, b, ha, hb, -, hliveA, hliveB⟩
      have hnameA := hok.endNames k a hk (Simulator.linkTouches_iff.mpr (Or.inl ha))
      have hnameB := hok.endNames k b hk (Simulator.linkTouches_iff.mpr (Or.inr hb))
      -- Both ends have twins among the loaded nodes, which no link uses yet.
      rcases h.exists_twin hok hnames hports hliveA hnameA with ⟨a', htwinA, hendA⟩
      rcases h.exists_twin hok hnames hports hliveB hnameB with ⟨b', htwinB, hendB⟩
      rcases hbefore.next hok hnames hk ha hb htwinA htwinB hendA hendB with ⟨s'', hlink, hnext⟩
      have hitem : linkInFile s delays k =
          saveLink A (endpointText s a) (endpointText s b) (delays k) := by
        simp only [linkInFile, ha, hb]
      rw [List.range_succ, List.map_append, List.map_singleton, List.foldl_append, List.foldl_cons,
        List.foldl_nil, hitem, loadLink_saved (endpointText_length s a)
          (endpointText_length s b), hlink]
      exact hnext

/-- The links have come back when their delays have. -/
theorem LinksLoaded.linkViews_iff {s loaded s' : Simulator A} {delays : Nat → A.Single}
    (h : LinksLoaded s loaded delays s.linkCount s') :
    s.linkViews = s'.linkViews ↔
      ∀ i, i < s.linkCount → clampDelay A (delays i) = (s.links i).delay := by
  have hview : ∀ i, i < s.linkCount → s'.linkView (s'.links i) =
      { s.linkView (s.links i) with delay := clampDelay A (delays i) } := by
    intro i hi
    rcases h.ends i hi with ⟨a, b, a', b', ha, hb, htwinA, htwinB, hlink⟩
    have hend : ∀ x, s'.endView x = loaded.endView x := by
      intro x
      rw [Simulator.endView, Simulator.endView, h.sameNodes.name]
    simp only [Simulator.linkView, hlink, ha, hb, Option.map_some, hend, htwinA.same, htwinB.same]
  rw [Simulator.linkViews, Simulator.linkViews, h.linkCount]
  constructor
  · intro hsame i hi
    have hat := List.map_inj_left.mp hsame i (List.mem_range.mpr hi)
    rw [hview i hi] at hat
    exact (congrArg LinkView.delay hat).symm
  · intro hdelays
    refine List.map_congr_left fun i hi => ?_
    rw [hview i (List.mem_range.mp hi), hdelays i (List.mem_range.mp hi)]
    rfl

end MagiStack
