import MagiStack.Utils.LoaderFailure
import MagiStack.Utils.LoaderLinks

/-!
# LoaderRoundTrip — which topologies come back from a file

A topology comes back exactly when its file keeps all of it.  When a delay is printed with an exponent the
file is not even parsed, and when two nodes have one name it is not loaded.
-/

namespace MagiStack

variable {A : CFloat}

/-- The saved topology is loaded again, in place of any other. -/
def RoundTrips (s : Simulator A) : Prop :=
  ∀ alloc before, EnoughMemory alloc →
    ∃ s', simulatorLoad alloc before (simulatorSave s) = .ok s' ∧ s.SameTopology s'

/-! ## The items of a file -/

section File

variable {s : Simulator A}

theorem savedHosts_readsBack (hok : TopologyOk s) : ∀ item ∈ savedHosts s, ReadsBack A 2 item item := by
  intro item hitem
  rcases List.mem_filterMap.mp hitem with ⟨entry, hentry, hsaved⟩
  have hentryOk := hok.entries entry hentry
  cases hdevice : (s.heap entry.node).device with
  | host host =>
      rw [(hentryOk.type_of_host hdevice).1, hdevice] at hsaved
      cases hsaved
      exact readsBack_host hentryOk.name_lt hentryOk.clean host (by decide)
  | switch portConfigs =>
      rw [(hentryOk.type_of_switch hdevice).1] at hsaved
      cases hsaved
  | router router =>
      rw [(hentryOk.type_of_router hdevice).1] at hsaved
      cases hsaved

theorem savedSwitches_readsBack (hok : TopologyOk s) :
    ∀ item ∈ savedSwitches s, ReadsBack A 2 item item := by
  intro item hitem
  rcases List.mem_filterMap.mp hitem with ⟨entry, hentry, hsaved⟩
  have hentryOk := hok.entries entry hentry
  cases hdevice : (s.heap entry.node).device with
  | host host =>
      rw [(hentryOk.type_of_host hdevice).1] at hsaved
      cases hsaved
  | switch portConfigs =>
      rcases hentryOk.type_of_switch hdevice with ⟨htype, hports⟩
      rw [htype, hdevice] at hsaved
      cases hsaved
      exact readsBack_switch hentryOk.name_lt hentryOk.clean (s.heap entry.node).numInterfaces_le hports
        (by decide)
  | router router =>
      rw [(hentryOk.type_of_router hdevice).1] at hsaved
      cases hsaved

theorem savedRouters_readsBack (hok : TopologyOk s) :
    ∀ item ∈ savedRouters s, ReadsBack A 2 item item := by
  intro item hitem
  rcases List.mem_filterMap.mp hitem with ⟨entry, hentry, hsaved⟩
  have hentryOk := hok.entries entry hentry
  cases hdevice : (s.heap entry.node).device with
  | host host =>
      rw [(hentryOk.type_of_host hdevice).1] at hsaved
      cases hsaved
  | switch portConfigs =>
      rw [(hentryOk.type_of_switch hdevice).1] at hsaved
      cases hsaved
  | router router =>
      rcases hentryOk.type_of_router hdevice with ⟨htype, hrouter⟩
      rw [htype, hdevice] at hsaved
      cases hsaved
      exact readsBack_router hentryOk.name_lt hentryOk.clean (s.heap entry.node).numInterfaces_le
        hrouter (by decide)

/-- The text of an endpoint has no zero byte. -/
theorem endpointText_clean (hok : TopologyOk s) {x : Interface} (hx : s.Live x) :
    0 ∉ endpointText s x := by
  rcases endpointText_eq hok hx with ⟨htext, -, -⟩
  rcases hx with ⟨⟨entry, hentry, hnode⟩, -⟩
  have hentryOk := hok.entries entry hentry
  rw [hnode] at hentryOk
  rw [htext, hentryOk.name]
  intro hmem
  rcases List.mem_append.mp hmem with hname | hport
  · exact hentryOk.clean hname
  · rcases List.mem_cons.mp hport with hcolon | hdigit
    · exact absurd hcolon (by decide)
    · exact absurd (printNat_isDigit _ 0 hdigit) (by decide)

/-- A link is read back when its delay is. -/
theorem linkInFile_readsBack (hok : TopologyOk s) {i : Nat} (hi : i < s.linkCount)
    {delays numbers : Nat → A.Double}
    (hread : jsonParseNumber A (jsonWriteNumber A (delays i)) = some (numbers i, [])) :
    ReadsBack A 2 (linkInFile s delays i) (linkInFile s numbers i) := by
  rcases hok.coherent.ends i hi with ⟨a, b, ha, hb, -, hliveA, hliveB⟩
  simp only [linkInFile, ha, hb]
  exact readsBack_link (endpointText_length s a) (endpointText_clean hok hliveA)
    (endpointText_length s b) (endpointText_clean hok hliveB) hread (by decide)

/-- A link whose delay is not read stops the parser. -/
theorem linkInFile_unreadable (hok : TopologyOk s) {i : Nat} (hi : i < s.linkCount)
    {delays : Nat → A.Double} (hdelay : Unreadable A 3 (.number (delays i))) :
    Unreadable A 2 (linkInFile s delays i) := by
  -- The endpoints come first and are read back; the delay is the last member.
  rcases hok.coherent.ends i hi with ⟨a, b, ha, hb, -, hliveA, hliveB⟩
  simp only [linkInFile, ha, hb]
  have hendpoints : MemberReadsBack A 3
      (text "endpoints", jsonArrayOf [jsonCreateString (endpointText s a),
        jsonCreateString (endpointText s b)])
      (text "endpoints", jsonArrayOf [jsonCreateString (endpointText s a),
        jsonCreateString (endpointText s b)]) :=
    memberReadsBack (by decide) (by decide) (readsBack_arrayOf (by decide)
      (show 2 ≤ jsonMaxArray by decide)
      (.cons (readsBack_createString (endpointText_length s a) (endpointText_clean hok hliveA))
        (.cons (readsBack_createString (endpointText_length s b)
          (endpointText_clean hok hliveB)) .nil)))
  have hkey : (text "delay").length < jsonMaxString ∧ 0 ∉ text "delay" := by decide
  have hbad : MemberUnreadable A 3 (text "delay", .number (delays i)) := ⟨hkey.1, hkey.2, hdelay⟩
  rw [saveLink, jsonObjectOf_eq (by
    simp only [List.forall_mem_cons]
    exact ⟨hendpoints.length_lt, hbad.length_lt, fun _ h => by cases h⟩)]
  refine unreadable_object ?_ ⟨_, List.mem_cons_of_mem _ List.mem_cons_self, hbad⟩
  simp only [List.forall_mem_cons]
  exact ⟨Or.inl ⟨_, hendpoints⟩, Or.inr hbad, fun _ h => by cases h⟩

/-! ## Parsing a file -/

/-- The delay that is written for a link. -/
def linkDelay (s : Simulator A) (i : Nat) : A.Double :=
  A.toDouble (s.links i).delay

theorem linksInFile_length (hok : TopologyOk s) (delays : Nat → A.Double) :
    ((List.range s.linkCount).map (linkInFile s delays)).length ≤ jsonMaxArray := by
  rw [List.length_map, List.length_range]
  exact hok.linkCount_le.trans (by decide)

theorem saveRoot_eq {hosts switches routers links : List (JsonValue A.Double)} :
    saveRoot A hosts switches routers links =
      .object [(text "hosts", jsonArrayOf hosts), (text "switches", jsonArrayOf switches),
        (text "routers", jsonArrayOf routers), (text "links", jsonArrayOf links)] := by
  have hhosts : (text "hosts").length < jsonMaxString := by decide
  have hswitches : (text "switches").length < jsonMaxString := by decide
  have hrouters : (text "routers").length < jsonMaxString := by decide
  have hlinks : (text "links").length < jsonMaxString := by decide
  refine jsonObjectOf_eq ?_
  simp only [List.forall_mem_cons]
  exact ⟨hhosts, hswitches, hrouters, hlinks, fun _ h => (nomatch h)⟩

/-- The object of a file, with numbers for the delays. -/
def savedRoot (s : Simulator A) (delays : Nat → A.Double) : JsonValue A.Double :=
  saveRoot A (savedHosts s) (savedSwitches s) (savedRouters s)
    ((List.range s.linkCount).map (linkInFile s delays))

theorem simulatorSave_eq (hok : TopologyOk s) :
    simulatorSave s = jsonWrite A (savedRoot s (linkDelay s)) 0 ++ [10] := by
  rw [simulatorSave, savedLinks_eq hok]
  rfl

/-- All of the file is one C string. -/
theorem simulatorSave_takeWhile (hok : TopologyOk s)
    (hclean : 0 ∉ jsonWrite A (savedRoot s (linkDelay s)) 0) :
    (simulatorSave s).takeWhile (· ≠ 0) = jsonWrite A (savedRoot s (linkDelay s)) 0 ++ [10] := by
  rw [simulatorSave_eq hok]
  refine List.takeWhile_eq_self_iff.mpr fun c hc => decide_eq_true ?_
  rintro rfl
  rcases List.mem_append.mp hc with hc | hc
  · exact hclean hc
  · exact absurd (List.mem_singleton.mp hc) (by decide)

/-- A file whose delays are all read is parsed to what was written, with the delays that are read. -/
theorem simulatorLoad_read (hok : TopologyOk s) {numbers : Nat → A.Double}
    (hread : ∀ i, i < s.linkCount →
      jsonParseNumber A (jsonWriteNumber A (linkDelay s i)) = some (numbers i, []))
    (alloc : Nat → Option Nat) (before : Simulator A) :
    simulatorLoad alloc before (simulatorSave s) = loadRoot alloc before (savedRoot s numbers) := by
  have hlinks : List.Forall₂ (ReadsBack A 2) ((List.range s.linkCount).map (linkInFile s (linkDelay s)))
      ((List.range s.linkCount).map (linkInFile s numbers)) := by
    rw [List.forall₂_map_left_iff, List.forall₂_map_right_iff, List.forall₂_same]
    intro i hi
    exact linkInFile_readsBack hok (List.mem_range.mp hi) (hread i (List.mem_range.mp hi))
  rcases savedNodes_length hok with ⟨hhosts, hswitches, hrouters⟩
  have hroot : ReadsBack A 0 (savedRoot s (linkDelay s)) (savedRoot s numbers) :=
    readsBack_root hhosts hswitches hrouters (linksInFile_length hok _) (savedHosts_readsBack hok)
      (savedSwitches_readsBack hok) (savedRouters_readsBack hok) hlinks
  have hspace : ∀ c ∈ ([10] : Text), isSpace c = true :=
    List.forall_mem_singleton.mpr (by decide)
  rw [simulatorLoad, simulatorSave_takeWhile hok (hroot.clean 0), jsonParse_write hroot 0 hspace,
    savedRoot, saveRoot_eq]

/-- A file with a delay that is not read is not loaded. -/
theorem simulatorLoad_unreadable (hok : TopologyOk s) (hformat : FormatsNumbers A) {i : Nat}
    (hi : i < s.linkCount)
    (hread : ∀ n, jsonParseNumber A (jsonWriteNumber A (linkDelay s i)) ≠ some (n, []))
    (alloc : Nat → Option Nat) (before : Simulator A) :
    simulatorLoad alloc before (simulatorSave s) = .error before := by
  -- Every link is read back or stops the parser, and this one stops it.
  have hlink : ∀ item ∈ (List.range s.linkCount).map (linkInFile s (linkDelay s)),
      (∃ w, ReadsBack A 2 item w) ∨ Unreadable A 2 item := by
    intro item hitem
    rcases List.mem_map.mp hitem with ⟨j, hj, rfl⟩
    have hj := List.mem_range.mp hj
    rcases readsBack_or_unreadable_number hformat (linkDelay s j) with ⟨n, hn⟩ | hn
    · have hback := @linkInFile_readsBack A s hok j hj (linkDelay s) (fun _ => n) hn
      exact Or.inl ⟨_, hback⟩
    · exact Or.inr (linkInFile_unreadable hok hj hn)
  have hbad : ∃ item ∈ (List.range s.linkCount).map (linkInFile s (linkDelay s)),
      Unreadable A 2 item :=
    ⟨_, List.mem_map_of_mem (List.mem_range.mpr hi),
      linkInFile_unreadable hok hi (unreadable_number hformat hread)⟩
  rcases savedNodes_length hok with ⟨hhosts, hswitches, hrouters⟩
  have hlength := linksInFile_length hok (linkDelay s)
  have hkey : (text "links").length < jsonMaxString ∧ 0 ∉ text "links" := by decide
  have hlinks : MemberUnreadable A 1 (text "links",
      jsonArrayOf ((List.range s.linkCount).map (linkInFile s (linkDelay s)))) := by
    rw [jsonArrayOf_eq hlength]
    exact ⟨hkey.1, hkey.2, unreadable_array hlength hlink hbad⟩
  have hroot : Unreadable A 0 (savedRoot s (linkDelay s)) := by
    rw [savedRoot, saveRoot_eq]
    refine unreadable_object ?_ ⟨_, by simp, hlinks⟩
    simp only [List.forall_mem_cons]
    refine ⟨Or.inl ⟨_, memberReadsBack (by decide) (by decide) (readsBack_arrayOf_same (by decide)
      hhosts (savedHosts_readsBack hok))⟩, Or.inl ⟨_, memberReadsBack (by decide) (by decide)
        (readsBack_arrayOf_same (by decide) hswitches (savedSwitches_readsBack hok))⟩,
      Or.inl ⟨_, memberReadsBack (by decide) (by decide) (readsBack_arrayOf_same (by decide)
        hrouters (savedRouters_readsBack hok))⟩, Or.inr hlinks, fun _ h => (nomatch h)⟩
  rw [simulatorLoad, simulatorSave_takeWhile hok (hroot.clean 0),
    jsonParse_unreadable hroot 0 ⟨[], Or.inl rfl⟩]

/-! ## The nodes that come back -/

/-- A router comes back as it was exactly when the file keeps all of it. -/
theorem inFile_view_iff {n : Nat} {router : Router} :
    (Device.router (router.inFile n)).view n = (Device.router router).view n ↔ router.Saveable n := by
  have hinterface : ∀ port : Fin maxPort, port.val < n →
      ((((router.inFile n).interfaceIps port).address, (router.inFile n).interfaceVlans port) =
          ((router.interfaceIps port).address, router.interfaceVlans port) ↔
        (router.interfaceVlans port = 0 ∨
          0 < router.interfaceVlans port ∧ (router.interfaceIps port).hasIp = true)) := by
    intro port hport
    -- The address is always kept; the VLAN is kept where there is an address.
    have haddress : ((router.inFile n).interfaceIps port).address =
        (router.interfaceIps port).address := by
      cases hhas : (router.interfaceIps port).hasIp with
      | false => simp [Router.inFile, RouterInterfaceAddress.address, hhas]
      | true => simp [Router.inFile, RouterInterfaceAddress.address, hhas, hport]
    rw [haddress, Prod.mk.injEq, eq_self_iff_true, true_and]
    simp only [Router.inFile, hport, true_and]
    split_ifs with hkept
    · exact ⟨fun _ => Or.inr ⟨hkept.2, hkept.1⟩, fun _ => rfl⟩
    · refine ⟨fun h => Or.inl h.symm, fun h => ?_⟩
      rcases h with h | h
      · exact h.symm
      · exact absurd ⟨h.2, h.1⟩ hkept
  have hroutes : (router.inFile n).routingTable = router.routingTable ↔
      ∀ entry ∈ router.routingTable, entry.nextHop.prefixLen = 0 := by
    calc
      (router.inFile n).routingTable = router.routingTable ↔
          router.routingTable.map RoutingTableEntry.inFile = router.routingTable.map id := by
        rw [List.map_id]
        rfl
      _ ↔ ∀ entry ∈ router.routingTable, entry.inFile = entry := List.map_inj_left
      _ ↔ _ := by simp only [RoutingTableEntry.inFile_eq_self_iff]
  simp only [Device.view, DeviceView.router.injEq, List.map_inj_left, mem_nodePorts]
  rw [hroutes]
  constructor
  · exact fun h => ⟨fun port hport => (hinterface port hport).mp (h.1 port hport), h.2⟩
  · exact fun h => ⟨fun port hport => (hinterface port hport).mpr (h.vlans port hport), h.nextHops⟩

/-- A node comes back as it was exactly when the file keeps all of it. -/
theorem viewInFile_eq_iff {entry : SimulatorNodeEntry} (hok : EntryOk entry (s.heap entry.node)) :
    s.viewInFile entry = s.nodeView entry ↔
      (entry.type = .host → (s.heap entry.node).numInterfaces = 1) ∧
        (entry.type = .router → (s.heap entry.node).numInterfaces = 8) ∧
        ∀ router, (s.heap entry.node).device = .router router →
          router.Saveable (s.heap entry.node).numInterfaces := by
  cases hdevice : (s.heap entry.node).device with
  | host host =>
      have htype := (hok.type_of_host hdevice).1
      have hview : s.viewInFile entry = { s.nodeView entry with numInterfaces := 1 } := by
        rw [Simulator.viewInFile, hdevice]
      rw [hview, htype]
      constructor
      · intro h
        refine ⟨fun _ => (congrArg NodeView.numInterfaces h).symm, fun h => (by cases h),
          fun _ h => by cases h⟩
      · intro h
        rw [← h.1 rfl]
        rfl
  | switch portConfigs =>
      have htype := (hok.type_of_switch hdevice).1
      simp [Simulator.viewInFile, hdevice, htype]
  | router router =>
      rcases hok.type_of_router hdevice with ⟨htype, hrouter⟩
      have hle := (s.heap entry.node).numInterfaces_le
      simp only [Simulator.viewInFile, Simulator.nodeView, hdevice, htype, NodeView.mk.injEq, true_and]
      generalize (s.heap entry.node).numInterfaces = n at hrouter hle ⊢
      constructor
      -- The loaded router has eight ports, so only a router with eight is compared with it.
      · rintro ⟨rfl, hview⟩
        rw [routerFromJson_saved hle entry.name hrouter, inFile_view_iff] at hview
        refine ⟨fun h => (by cases h), fun _ => rfl, ?_⟩
        rintro router' hsame
        cases hsame
        exact hview
      · rintro ⟨-, height, hkept⟩
        have hn := height trivial
        subst hn
        rw [routerFromJson_saved hle entry.name hrouter, inFile_view_iff]
        exact ⟨rfl, hkept router rfl⟩

/-- The nodes come back when each of them does. -/
theorem nodeViews_perm_iff (hnames : (s.nodes.map SimulatorNodeEntry.name).Nodup) :
    s.nodeViews.Perm (s.fileEntries.map s.viewInFile) ↔
      ∀ entry ∈ s.nodes, s.viewInFile entry = s.nodeView entry := by
  constructor
  · intro hperm entry hentry
    have hmem : s.nodeView entry ∈ s.fileEntries.map s.viewInFile :=
      hperm.mem_iff.mp (List.mem_map_of_mem hentry)
    rcases List.mem_map.mp hmem with ⟨other, hother, hsame⟩
    have hother := (fileEntries_perm s).mem_iff.mp hother
    -- The names say which node it is.
    have hname : other.name = entry.name := by
      calc
        other.name = (s.viewInFile other).name := (viewInFile_name s other).1.symm
        _ = entry.name := congrArg NodeView.name hsame
    rwa [List.inj_on_of_nodup_map hnames hother hentry hname] at hsame
  · intro hviews
    have hmap : s.nodeViews = s.nodes.map s.viewInFile :=
      List.map_congr_left fun entry hentry => (hviews entry hentry).symm
    rw [hmap]
    exact ((fileEntries_perm s).map s.viewInFile).symm

/-! ## The names in a file -/

/-- Nodes that can be created under names that are not cut off have different names. -/
theorem NodesFit.nodup {alloc : Nat → Option Nat} {done names : List Text}
    (h : NodesFit alloc done names) (hdone : ∀ name ∈ done, name.length < maxName)
    (hnames : ∀ name ∈ names, name.length < maxName) : names.Nodup ∧ ∀ name ∈ names, name ∉ done := by
  induction names generalizing done with
  | nil => exact ⟨List.nodup_nil, fun name hname => absurd hname List.not_mem_nil⟩
  | cons name names ih =>
      rcases h with ⟨⟨-, hnew, -⟩, hrest⟩
      have hname := hnames name List.mem_cons_self
      -- The duplicate check compares with the stored name, which is all of this one.
      have hfresh : name ∉ done := by
        intro hmem
        have hstored : strncpyTerminated name maxName = name :=
          List.take_of_length_le (Nat.le_pred_of_lt hname)
        exact hnew name hmem hstored
      have hmore : ∀ other ∈ done ++ [name], other.length < maxName := by
        intro other hother
        rcases List.mem_append.mp hother with hold | hlast
        · exact hdone other hold
        · rwa [List.mem_singleton.mp hlast]
      rcases ih hrest hmore fun other hother => hnames other (List.mem_cons_of_mem name hother) with
        ⟨hnodup, hothers⟩
      refine ⟨List.nodup_cons.mpr ⟨fun hmem => ?_, hnodup⟩, fun other hother hmem => ?_⟩
      · exact hothers name hmem (List.mem_append_right done (List.mem_singleton.mpr rfl))
      · rcases List.mem_cons.mp hother with rfl | hother
        · exact hfresh hmem
        · exact hothers other hother (List.mem_append_left _ hmem)

/-- The names of the nodes of one type, as they stand in a file. -/
theorem savedNames_eq {type : SimulatorNodeType} {save : SimulatorNodeEntry → Option (JsonValue A.Double)}
    (hsave : ∀ entry ∈ s.nodes, (save entry).bind jsonNodeName =
      if entry.type = type then some entry.name else none) :
    (s.nodes.filterMap save).filterMap jsonNodeName =
      (s.ofType type).map SimulatorNodeEntry.name := by
  rw [List.filterMap_filterMap, List.filterMap_congr hsave, Simulator.ofType]
  induction s.nodes with
  | nil => rfl
  | cons entry entries ih =>
      by_cases htype : entry.type = type
      · simp [htype, ih]
      · simp [htype, ih]

/-- The nodes of a file have the names of the nodes that were saved. -/
theorem fileNodeNames_savedRoot (hok : TopologyOk s) (delays : Nat → A.Double) :
    fileNodeNames (savedRoot s delays) = s.fileEntries.map SimulatorNodeEntry.name := by
  -- A node is saved in the array of its type, and its device is of that type.
  have hhosts : (savedHosts s).filterMap jsonNodeName =
      (s.ofType .host).map SimulatorNodeEntry.name := by
    refine savedNames_eq fun entry hentry => ?_
    have hentryOk := hok.entries entry hentry
    cases hdevice : (s.heap entry.node).device with
    | host host =>
        have hname := @saveHost_name A _ hentryOk.name_lt host
        simp [(hentryOk.type_of_host hdevice).1, jsonNodeName, hname]
    | switch portConfigs => simp [(hentryOk.type_of_switch hdevice).1]
    | router router => simp [(hentryOk.type_of_router hdevice).1]
  have hswitches : (savedSwitches s).filterMap jsonNodeName =
      (s.ofType .switch).map SimulatorNodeEntry.name := by
    refine savedNames_eq fun entry hentry => ?_
    have hentryOk := hok.entries entry hentry
    cases hdevice : (s.heap entry.node).device with
    | host host => simp [(hentryOk.type_of_host hdevice).1]
    | switch portConfigs =>
        have hname := @saveSwitch_name A _ hentryOk.name_lt (s.heap entry.node).numInterfaces
          portConfigs
        simp [(hentryOk.type_of_switch hdevice).1, jsonNodeName, hname]
    | router router => simp [(hentryOk.type_of_router hdevice).1]
  have hrouters : (savedRouters s).filterMap jsonNodeName =
      (s.ofType .router).map SimulatorNodeEntry.name := by
    refine savedNames_eq fun entry hentry => ?_
    have hentryOk := hok.entries entry hentry
    cases hdevice : (s.heap entry.node).device with
    | host host => simp [(hentryOk.type_of_host hdevice).1]
    | switch portConfigs => simp [(hentryOk.type_of_switch hdevice).1]
    | router router =>
        have hname := @saveRouter_name A _ hentryOk.name_lt (s.heap entry.node).numInterfaces router
        simp [(hentryOk.type_of_router hdevice).1, jsonNodeName, hname]
  rcases savedNodes_length hok with ⟨hhostsLe, hswitchesLe, hroutersLe⟩
  rcases jsonItems_saveRoot hhostsLe hswitchesLe hroutersLe (linksInFile_length hok delays) with
    ⟨hhostItems, hswitchItems, hrouterItems, -⟩
  rw [fileNodeNames, savedRoot, hhostItems, hswitchItems, hrouterItems, hhosts, hswitches, hrouters,
    Simulator.fileEntries, List.map_append, List.map_append, List.append_assoc]

theorem names_nodup_of_loaded (hok : TopologyOk s) {alloc : Nat → Option Nat}
    {before s' : Simulator A} {numbers : Nat → A.Double}
    (hload : loadRoot alloc before (savedRoot s numbers) = .ok s') :
    (s.nodes.map SimulatorNodeEntry.name).Nodup := by
  rcases loadRoot_spec alloc before (savedRoot s numbers) with ⟨hfit, -⟩ | ⟨-, s'', hfailed, -⟩
  · rw [fileNodeNames_savedRoot hok] at hfit
    have hlength : ∀ name ∈ s.fileEntries.map SimulatorNodeEntry.name, name.length < maxName := by
      intro name hname
      rcases List.mem_map.mp hname with ⟨entry, hentry, rfl⟩
      exact (hok.entries entry ((fileEntries_perm s).mem_iff.mp hentry)).name_lt
    have hnodup := (hfit.nodup (fun name hname => absurd hname List.not_mem_nil) hlength).1
    exact ((fileEntries_perm s).map SimulatorNodeEntry.name).nodup_iff.mp hnodup
  · rw [hload] at hfailed
    cases hfailed

/-! ## What is loaded -/

theorem loadLink_sameNodes (s : Simulator A) (l : JsonValue A.Double) :
    Simulator.SameNodes s (loadLink s l) := by
  rcases loadLink_cases s l with heq | ⟨endpoint1, endpoint2, delay, hlink⟩
  · rw [heq]
    exact Simulator.SameNodes.refl s
  · rcases Simulator.simulatorLink_eq_some hlink with ⟨a, b, -, -, -, -, -, -, hadd⟩
    exact hadd.sameNodes

theorem loadLinks_sameNodes (s : Simulator A) (links : List (JsonValue A.Double)) :
    Simulator.SameNodes s (links.foldl loadLink s) :=
  List.foldlRecOn links loadLink (motive := Simulator.SameNodes s) (Simulator.SameNodes.refl s)
    fun s' hs' item _ => hs'.trans (loadLink_sameNodes s' item)

theorem Simulator.SameNodes.nodeViews {s' : Simulator A} (h : Simulator.SameNodes s s') :
    s'.nodeViews = s.nodeViews := by
  rw [Simulator.nodeViews, Simulator.nodeViews, h.nodes]
  refine List.map_congr_left fun entry _ => ?_
  rw [Simulator.nodeView, Simulator.nodeView, h.numInterfaces, h.device]

/-- The loaded topology is the one that was saved when each node comes back, and each delay. -/
theorem sameTopology_iff (hok : TopologyOk s) (hnames : (s.nodes.map SimulatorNodeEntry.name).Nodup)
    {alloc : Nat → Option Nat} {loaded : Simulator A}
    (hbuilt : Built alloc (s.fileEntries.map s.viewInFile) loaded) (numbers : Nat → A.Double) :
    s.SameTopology (((List.range s.linkCount).map (linkInFile s numbers)).foldl loadLink loaded) ↔
      (∀ entry ∈ s.nodes, s.viewInFile entry = s.nodeView entry) ∧
        ∀ i, i < s.linkCount → clampDelay A (A.toSingle (numbers i)) = (s.links i).delay := by
  have hviews := (loadLinks_sameNodes loaded
    ((List.range s.linkCount).map (linkInFile s numbers))).nodeViews
  rw [hbuilt.nodeViews] at hviews
  rw [Simulator.SameTopology, hviews, nodeViews_perm_iff hnames]
  refine and_congr_right fun hkept => ?_
  -- The nodes have their ports back, so that the links find them.
  have hports : ∀ entry ∈ s.nodes,
      (s.viewInFile entry).numInterfaces = (s.heap entry.node).numInterfaces :=
    fun entry hentry => congrArg NodeView.numInterfaces (hkept entry hentry)
  exact (linksLoaded hok hnames hports hbuilt numbers s.linkCount (Nat.le_refl _)).linkViews_iff

theorem enoughMemory_some : EnoughMemory some :=
  fun i _ => ⟨i, rfl, fun _ hj h => Nat.ne_of_lt hj (Option.some.inj h)⟩

/-- A topology comes back exactly when the file keeps all of it. -/
theorem roundTrips_iff (hok : TopologyOk s) (hformat : FormatsNumbers A) :
    RoundTrips s ↔ Saveable s := by
  constructor
  · intro h
    rcases h some s enoughMemory_some with ⟨s', hload, hsame⟩
    have hread : ∀ i, ∃ n, i < s.linkCount →
        jsonParseNumber A (jsonWriteNumber A (linkDelay s i)) = some (n, []) := by
      intro i
      -- A delay that is not read leaves a file that is not loaded, against the round trip.
      by_cases hi : i < s.linkCount
      · by_contra hnone
        have hnot : ∀ n, jsonParseNumber A (jsonWriteNumber A (linkDelay s i)) ≠ some (n, []) :=
          fun n hn => hnone ⟨n, fun _ => hn⟩
        rw [simulatorLoad_unreadable hok hformat hi hnot] at hload
        cases hload
      · exact ⟨A.ofInt 0, fun h => absurd h hi⟩
    choose numbers hnumbers using hread
    rw [simulatorLoad_read hok hnumbers] at hload
    -- The file was loaded, so its nodes could be created one after the other.
    have hnames := names_nodup_of_loaded hok hload
    rcases loadRoot_saved enoughMemory_some hok hnames s (linksInFile_length hok numbers) with
      ⟨loaded, hbuilt, hroot⟩
    rw [savedRoot, hroot] at hload
    cases hload
    rcases (sameTopology_iff hok hnames hbuilt numbers).mp hsame with ⟨hviews, hdelays⟩
    have hkept := fun entry hentry =>
      (viewInFile_eq_iff (hok.entries entry hentry)).mp (hviews entry hentry)
    exact ⟨hnames, fun entry hentry => (hkept entry hentry).1,
      fun entry hentry => (hkept entry hentry).2.1, fun entry hentry => (hkept entry hentry).2.2,
      fun i hi => ⟨numbers i, hnumbers i hi, hdelays i hi⟩⟩
  · intro h alloc before hmemory
    have hread : ∀ i, ∃ n, i < s.linkCount →
        jsonParseNumber A (jsonWriteNumber A (linkDelay s i)) = some (n, []) ∧
          clampDelay A (A.toSingle n) = (s.links i).delay := by
      intro i
      by_cases hi : i < s.linkCount
      · rcases h.delays i hi with ⟨n, hn⟩
        exact ⟨n, fun _ => hn⟩
      · exact ⟨A.ofInt 0, fun h => absurd h hi⟩
    choose numbers hnumbers using hread
    rcases loadRoot_saved hmemory hok h.names before (linksInFile_length hok numbers) with
      ⟨loaded, hbuilt, hroot⟩
    refine ⟨_, (simulatorLoad_read hok (fun i hi => (hnumbers i hi).1) alloc before).trans hroot, ?_⟩
    refine (sameTopology_iff hok h.names hbuilt numbers).mpr ⟨fun entry hentry => ?_, fun i hi =>
      (hnumbers i hi).2⟩
    exact (viewInFile_eq_iff (hok.entries entry hentry)).mpr
      ⟨h.hosts entry hentry, h.routers entry hentry, h.configured entry hentry⟩

end File

/-! ## Every reachable topology -/

/-- A topology comes back from its file exactly when all its names differ, its hosts have one port and its
routers eight, VLANs stand at interfaces with an address, next hops have no network bits, and delays are read
as they were. -/
theorem topology_roundTrips_iff (hformat : FormatsNumbers A) (heap : Nat → Node) (links : Nat → Link A)
    (actions : List (TopologyAction A)) :
    RoundTrips ((simulatorInit heap links).topologyRun actions) ↔
      Saveable ((simulatorInit heap links).topologyRun actions) :=
  roundTrips_iff (topologyOk_run heap links actions) hformat

/-- A host at a trunk of a switch, with a cable of two and a half milliseconds. -/
def trunkedHost : List (TopologyAction exactFloat) :=
  [.createNode (text "host") ⟨text "A", by decide⟩ 1 (some 0),
    .createNode (text "switch") ⟨text "S", by decide⟩ 2 (some 1),
    .setTrunkPort (text "S") 2,
    .link (text "A") (text "S:2") (5 / 2 : ℚ)]

theorem clampDelay_exactFloat (delay : ℚ) (h : 0 ≤ delay) : clampDelay exactFloat delay = delay :=
  if_neg (by simpa [exactFloat] using h)

theorem delayKept_trunkedHost : DelayKept exactFloat (5 / 2 : ℚ) := by
  have hwritten : jsonWriteNumber exactFloat (5 / 2 : ℚ) = text "2.5" := by decide +kernel
  -- The two digits are added up as the parser does it.
  have hread : jsonParseNumber exactFloat (text "2.5") =
      some (((0 : Int) * (10 : Int) + (2 : Int) : ℚ) +
        ((0 : Int) * (10 : Int) + (5 : Int) : ℚ) / ((1 : Int) * (10 : Int) : ℚ), []) := rfl
  have hsum : ((0 : Int) * (10 : Int) + (2 : Int) : ℚ) +
      ((0 : Int) * (10 : Int) + (5 : Int) : ℚ) / ((1 : Int) * (10 : Int) : ℚ) = 5 / 2 := by norm_num
  rw [hsum] at hread
  exact ⟨(5 / 2 : ℚ), (congrArg _ hwritten).trans hread,
    clampDelay_exactFloat (5 / 2) (by norm_num)⟩

theorem topology_roundTrips_iff_trunkedHost : RoundTrips (blankSimulator.topologyRun trunkedHost) := by
  have hok : TopologyOk (blankSimulator.topologyRun trunkedHost) := topologyOk_run _ _ trunkedHost
  have hnames : ((blankSimulator.topologyRun trunkedHost).nodes.map SimulatorNodeEntry.name).Nodup := by
    decide +kernel
  have hhosts : ∀ entry ∈ (blankSimulator.topologyRun trunkedHost).nodes, entry.type = .host →
      ((blankSimulator.topologyRun trunkedHost).heap entry.node).numInterfaces = 1 := by
    decide +kernel
  have htypes : ∀ entry ∈ (blankSimulator.topologyRun trunkedHost).nodes, entry.type ≠ .router := by
    decide +kernel
  have hcount : (blankSimulator.topologyRun trunkedHost).linkCount = 1 := by decide +kernel
  have hdelay : ((blankSimulator.topologyRun trunkedHost).links 0).delay = (5 / 2 : ℚ) :=
    clampDelay_exactFloat (5 / 2) (by norm_num)
  refine (topology_roundTrips_iff formatsNumbers_exactFloat _ _ trunkedHost).mpr
    ⟨hnames, hhosts, fun entry hentry htype => absurd htype (htypes entry hentry),
      fun entry hentry router hdevice => ?_, fun i hi => ?_⟩
  · exact absurd ((hok.entries entry hentry).type_of_router hdevice).1 (htypes entry hentry)
  · have hfirst : i = 0 := by
      have hlt : i < (blankSimulator.topologyRun trunkedHost).linkCount := hi
      omega
    rw [hfirst]
    exact hdelay ▸ delayKept_trunkedHost

/-- A router with one port. -/
def onePortRouter : List (TopologyAction exactFloat) :=
  [.createNode (text "router") ⟨text "R", by decide⟩ 1 (some 0)]

/-- The router comes back with eight ports. -/
theorem topology_roundTrips_iff_onePortRouter :
    ¬ RoundTrips (blankSimulator.topologyRun onePortRouter) := by
  have hrouter : ({ name := text "R", type := .router, node := 0 } : SimulatorNodeEntry) ∈
      (blankSimulator.topologyRun onePortRouter).nodes := by decide +kernel
  intro h
  have hkept := (roundTrips_iff (topologyOk_run _ _ onePortRouter) formatsNumbers_exactFloat).mp h
  have hports := hkept.routers _ hrouter rfl
  exact absurd hports (by decide +kernel)

end MagiStack
