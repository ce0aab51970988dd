import MagiStack.Utils.Loader

/-!
# LoaderState — the topologies that creating, linking and loading can reach

Runs of `simulator_create_node`, the switch port configuration, `simulator_link`, `simulator_unlink` and
`simulator_load` of any file, and what holds in every state of them.
-/

namespace MagiStack

variable {A : CFloat}

/-! ## Runs -/

/-- What changes a topology. -/
inductive TopologyAction (A : CFloat)
  | createNode (type : Text) (name : CString) (requestedPorts : Int) (address : Option Nat)
  | setAccessPort (name : Text) (portNumber vlanId : Int32)
  | setTrunkPort (name : Text) (portNumber : Int32)
  | link (endpointA endpointB : Text) (delay : A.Single)
  | unlink (endpointA endpointB : Text)
  | load (alloc : Nat → Option Nat) (content : Text)

namespace Simulator

/-- A port of the switch with a name is configured. -/
def configureSwitch (s : Simulator A) (name : Text) (f : Switch → Option Switch) : Simulator A :=
  match s.findEntry name with
  | none => s
  | some entry =>
      match (s.heap entry.node).device with
      | .switch portConfigs =>
          match f ((s.heap entry.node).toSwitch portConfigs) with
          | none => s
          | some sw => s.setDevice entry.node (.switch sw.portConfigs)
      | _ => s

def topologyStep (s : Simulator A) : TopologyAction A → Simulator A
  | .createNode type name requestedPorts address =>
      (simulatorCreateNode s type name requestedPorts (s.calloc address)).getD s
  | .setAccessPort name portNumber vlanId =>
      s.configureSwitch name (switchSetAccessPort · portNumber.toInt vlanId.toInt)
  | .setTrunkPort name portNumber => s.configureSwitch name (switchSetTrunkPort · portNumber.toInt)
  | .link endpointA endpointB delay => (simulatorLink s endpointA endpointB delay).getD s
  | .unlink endpointA endpointB => (simulatorUnlink s endpointA endpointB).getD s
  | .load alloc content =>
      match simulatorLoad alloc s content with
      | .ok s => s
      | .error s => s

def topologyRun (s : Simulator A) (actions : List (TopologyAction A)) : Simulator A :=
  actions.foldl topologyStep s

end Simulator

/-! ## What holds of a node -/

/-- The values of an `int`. -/
def IsInt (n : Int) : Prop :=
  -2 ^ 31 ≤ n ∧ n < 2 ^ 31

/-- A trunk has VLAN 0, an access port a positive one. -/
def SwitchPortConfig.Ok (config : SwitchPortConfig) : Prop :=
  IsInt config.vlanId ∧
    match config.mode with
    | .access => 1 ≤ config.vlanId
    | .trunk => config.vlanId = 0

/-- The routes that `router_add_direct_routes` gives a router without routes. -/
def directRoutes (numInterfaces : Nat) (router : Router) : List RoutingTableEntry :=
  (routerAddDirectRoutes numInterfaces { router with routingTable := [] }).routingTable

/-- What holds of an entry of a routing table. -/
structure RoutingTableEntry.Ok (numInterfaces : Nat) (entry : RoutingTableEntry) : Prop where
  network : ipNetworkAddress entry.destination = entry.destination
  prefixLen : entry.destination.prefixLen.toNat ≤ 32
  outInterface_pos : 1 ≤ entry.outInterface
  outInterface_le : entry.outInterface ≤ numInterfaces

/-- The table has its entries from `router_add_route`. -/
structure Router.TableOk (numInterfaces : Nat) (router : Router) : Prop where
  addresses : ∀ port, (router.interfaceIps port).ipAddress.prefixLen.toNat ≤ 32
  vlans : ∀ port, IsInt (router.interfaceVlans port)
  routes : ∀ entry ∈ router.routingTable, entry.Ok numInterfaces
  distinct : router.routingTable.Pairwise fun entry other =>
    routesEqual entry other.destination other.nextHop other.outInterface = false
  length_le : router.routingTable.length ≤ routerMaxRoutes

/-- The router's own networks come first in its table. -/
structure Router.Ok (numInterfaces : Nat) (router : Router) : Prop
    extends router.TableOk numInterfaces where
  direct : directRoutes numInterfaces router <+: router.routingTable

/-- The network bits of the addresses of a host. -/
def Host.Ok (host : Host) : Prop :=
  host.ipAddress.prefixLen.toNat ≤ 32 ∧ host.defaultGateway.prefixLen.toNat ≤ 32

/-- The device is of its entry's type. -/
def DeviceOk (numInterfaces : Nat) : SimulatorNodeType → Device → Prop
  | .host, .host host => host.Ok
  | .switch, .switch portConfigs => ∀ port, (portConfigs port).Ok
  | .router, .router router => router.Ok numInterfaces
  | _, _ => False

/-- What holds of an entry and the node it names. -/
structure EntryOk (entry : SimulatorNodeEntry) (node : Node) : Prop where
  name : node.name = entry.name
  name_lt : entry.name.length < maxName
  clean : 0 ∉ entry.name
  numInterfaces_pos : 0 < node.numInterfaces
  device : DeviceOk node.numInterfaces entry.type node.device

/-! ## Routers -/

/-- Routes were added to `router`. -/
structure Router.MoreRoutes (numInterfaces : Nat) (router router' : Router) : Prop where
  tableOk : router'.TableOk numInterfaces
  interfaceIps : router'.interfaceIps = router.interfaceIps
  interfaceVlans : router'.interfaceVlans = router.interfaceVlans
  routes : router.routingTable <+: router'.routingTable

theorem Router.TableOk.moreRoutes {n : Nat} {router : Router} (h : router.TableOk n) :
    router.MoreRoutes n router :=
  ⟨h, rfl, rfl, List.prefix_refl _⟩

theorem Router.MoreRoutes.addRoute {n : Nat} {router router' : Router}
    (h : router.MoreRoutes n router') (destination nextHop : IpAddress) (outInterface : Int) :
    router.MoreRoutes n
      ((routerAddRoute n router' destination nextHop outInterface).getD router') := by
  cases hadd : routerAddRoute n router' destination nextHop outInterface with
  | none => exact h
  | some added =>
      rcases routerAddRoute_eq_some hadd with rfl | ⟨hpos, hle, hprefix, hroom, hnew, rfl⟩
      · exact h
      · rcases h with ⟨hok, hips, hvlans, hroutes⟩
        refine ⟨⟨hok.addresses, hok.vlans, fun entry hentry => ?_, ?_, ?_⟩, hips, hvlans,
          hroutes.trans (List.prefix_append _ _)⟩
        · rcases List.mem_append.mp hentry with hold | hlast
          · exact hok.routes entry hold
          · rw [List.mem_singleton.mp hlast]
            exact ⟨ipNetworkAddress_idem destination, hprefix, hpos, hle⟩
        · refine List.pairwise_append.mpr ⟨hok.distinct, List.pairwise_singleton _ _,
            fun entry hentry other hother => ?_⟩
          rw [List.mem_singleton.mp hother]
          exact hnew entry hentry
        · simp only [Option.getD_some, List.length_append, List.length_singleton]
          omega

theorem Router.TableOk.addDirectRoutes {n : Nat} {router : Router} (h : router.TableOk n) :
    router.MoreRoutes n (routerAddDirectRoutes n router) := by
  rw [routerAddDirectRoutes]
  refine List.foldlRecOn _ _ (motive := fun router' => router.MoreRoutes n router')
    h.moreRoutes ?_
  intro router' hmore port _
  split
  · exact hmore.addRoute _ _ _
  · exact hmore

theorem castInt_isInt (n : A.Double) : IsInt (castInt A n) := by
  have hlow := @Int.le_bmod (A.toInt n) (2 ^ 32) (by decide)
  have hhigh := @Int.bmod_lt (A.toInt n) (2 ^ 32) (by decide)
  rw [IsInt, castInt]
  omega

/-- An interface is loaded into a router that has no routes yet. -/
theorem interfaceFromJson_ok {n : Nat} {router : Router}
    (h : router.TableOk n ∧ router.routingTable = []) (inf : JsonValue A.Double) :
    (interfaceFromJson n router inf).TableOk n ∧
      (interfaceFromJson n router inf).routingTable = [] := by
  rcases h with ⟨hok, htable⟩
  -- Only the addresses and the VLANs matter, since there are no routes.
  have hconfigured : ∀ router' : Router, router'.routingTable = [] →
      (∀ port, (router'.interfaceIps port).ipAddress.prefixLen.toNat ≤ 32) →
      (∀ port, IsInt (router'.interfaceVlans port)) →
      router'.TableOk n ∧ router'.routingTable = [] := by
    intro router' hempty haddresses hvlans
    refine ⟨⟨haddresses, hvlans, ?_, ?_, ?_⟩, hempty⟩
    all_goals rw [hempty]
    · exact fun entry hentry => (nomatch hentry)
    · exact List.Pairwise.nil
    · exact Nat.zero_le _
  rw [interfaceFromJson]
  split
  · rename_i number str _ _
    cases routerPort n (castInt A number) with
    | none => exact ⟨hok, htable⟩
    | some port =>
        have haddresses : ∀ other, (Function.update router.interfaceIps port
            { hasIp := (ipParse str (router.interfaceIps port).ipAddress).1 ||
                (router.interfaceIps port).hasIp,
              ipAddress := (ipParse str (router.interfaceIps port).ipAddress).2 }
            other).ipAddress.prefixLen.toNat ≤ 32 := by
          intro other
          by_cases hother : other = port
          · rw [hother, Function.update_self]
            exact ipParse_prefixLen str (hok.addresses port)
          · rw [Function.update_of_ne hother]
            exact hok.addresses other
        simp only
        split
        · rename_i vlan _
          refine hconfigured _ htable haddresses fun other => ?_
          by_cases hother : other = port
          · simp only [hother, Function.update_self]
            exact castInt_isInt vlan
          · simp only [Function.update_of_ne hother]
            exact hok.vlans other
        · exact hconfigured _ htable haddresses hok.vlans
  · exact ⟨hok, htable⟩

theorem routeFromJson_ok {n : Nat} {router router' : Router} (h : router.MoreRoutes n router')
    (route : JsonValue A.Double) : router.MoreRoutes n (routeFromJson n router' route) := by
  rw [routeFromJson]
  split
  · split
    · exact h
    · exact h.addRoute _ _ _
  · exact h

theorem routerInit_tableOk (n : Nat) : routerInit.TableOk n :=
  ⟨fun _ => Nat.zero_le _, fun _ => (show IsInt 0 from ⟨by decide, by decide⟩), fun _ h => (nomatch h),
    List.Pairwise.nil, Nat.zero_le _⟩

/-- A router that is loaded into a new one. -/
theorem routerFromJson_ok (r : JsonValue A.Double) (n : Nat) :
    (routerFromJson r n routerInit).Ok n := by
  have hinterfaces := List.foldlRecOn (jsonItems r (text "interfaces")) (interfaceFromJson n)
    (motive := fun router => router.TableOk n ∧ router.routingTable = [])
    ⟨routerInit_tableOk n, rfl⟩ fun router h inf _ => interfaceFromJson_ok h inf
  rw [routerFromJson]
  generalize (jsonItems r (text "interfaces")).foldl (interfaceFromJson n) routerInit = router
    at hinterfaces ⊢
  rcases hinterfaces with ⟨hok, htable⟩
  have hdirect := hok.addDirectRoutes
  have hroutes := List.foldlRecOn (jsonItems r (text "routing_table")) (routeFromJson n)
    (motive := fun router' => (routerAddDirectRoutes n router).MoreRoutes n router')
    hdirect.tableOk.moreRoutes fun router' h route _ => routeFromJson_ok h route
  refine ⟨hroutes.tableOk, ?_⟩
  have hsame : directRoutes n ((jsonItems r (text "routing_table")).foldl (routeFromJson n)
      (routerAddDirectRoutes n router)) = (routerAddDirectRoutes n router).routingTable := by
    rw [directRoutes, hroutes.interfaceIps, hroutes.interfaceVlans, hdirect.interfaceIps,
      hdirect.interfaceVlans, ← htable]
  rw [hsame]
  exact hroutes.routes

/-! ## Devices -/

theorem ipZero_prefixLen : ipZero.prefixLen.toNat ≤ 32 := Nat.zero_le _

theorem hostAddressFromJson_ok (h : JsonValue A.Double) {host : Host} (hok : host.Ok) :
    (hostAddressFromJson h host).Ok := by
  rw [hostAddressFromJson]
  split
  · exact ⟨ipParse_prefixLen _ hok.1, hok.2⟩
  · exact hok

theorem hostGatewayFromJson_ok (h : JsonValue A.Double) {host : Host} (hok : host.Ok) :
    (hostGatewayFromJson h host).Ok := by
  rw [hostGatewayFromJson]
  split
  · split
    · exact ⟨hok.1, ipParse_prefixLen _ hok.2⟩
    · exact hok
  · exact hok

theorem SwitchPortConfig.Ok.update {portConfigs : Fin maxPort → SwitchPortConfig}
    (h : ∀ port, (portConfigs port).Ok) (port : Fin maxPort) {config : SwitchPortConfig}
    (hconfig : config.Ok) : ∀ other, (Function.update portConfigs port config other).Ok := by
  intro other
  by_cases hother : other = port
  · rw [hother, Function.update_self]
    exact hconfig
  · rw [Function.update_of_ne hother]
    exact h other

theorem switchSetAccessPort_ok {sw sw' : Switch} (h : ∀ port, (sw.portConfigs port).Ok)
    {portNumber vlanId : Int} (hvlan : IsInt vlanId)
    (hset : switchSetAccessPort sw portNumber vlanId = some sw') :
    ∀ port, (sw'.portConfigs port).Ok := by
  rw [switchSetAccessPort] at hset
  split at hset
  · cases hset
  · rename_i hpositive
    rcases Option.map_eq_some_iff.mp hset with ⟨port, -, rfl⟩
    exact SwitchPortConfig.Ok.update h port ⟨hvlan, not_lt.mp hpositive⟩

theorem switchSetTrunkPort_ok {sw sw' : Switch} (h : ∀ port, (sw.portConfigs port).Ok)
    {portNumber : Int} (hset : switchSetTrunkPort sw portNumber = some sw') :
    ∀ port, (sw'.portConfigs port).Ok := by
  rw [switchSetTrunkPort] at hset
  rcases Option.map_eq_some_iff.mp hset with ⟨port, -, rfl⟩
  exact SwitchPortConfig.Ok.update h port ⟨⟨by decide, by decide⟩, rfl⟩

theorem switchFromJson_ok {sw : Switch} (h : ∀ port, (sw.portConfigs port).Ok)
    (v : JsonValue A.Double) : ∀ port, ((switchFromJson sw v).portConfigs port).Ok := by
  rw [switchFromJson]
  split
  · rename_i port mode _ _
    split_ifs with haccess htrunk
    · simp only
      split
      · rename_i number _
        cases hset : switchSetAccessPort sw (castInt A port) (castInt A number) with
        | none => exact h
        | some sw' => exact switchSetAccessPort_ok h (castInt_isInt number) hset
      · cases hset : switchSetAccessPort sw (castInt A port) switchDefaultVlanId with
        | none => exact h
        | some sw' => exact switchSetAccessPort_ok h ⟨by decide, by decide⟩ hset
    · cases hset : switchSetTrunkPort sw (castInt A port) with
      | none => exact h
      | some sw' => exact switchSetTrunkPort_ok h hset
    · exact h
  · exact h

/-- Without addresses there are no direct routes. -/
theorem routerAddDirectRoutes_of_noIps (n : Nat) {router : Router}
    (h : ∀ port, (router.interfaceIps port).hasIp = false) :
    routerAddDirectRoutes n router = router := by
  rw [routerAddDirectRoutes]
  refine List.foldlRecOn _ _ (motive := fun router' => router' = router) rfl ?_
  rintro router' rfl port -
  rw [h, if_neg Bool.false_ne_true]

/-- A new node is in order. -/
theorem deviceInit_ok (numInterfaces : Nat) (type : SimulatorNodeType) :
    DeviceOk numInterfaces type (deviceInit type) := by
  cases type with
  | host => exact ⟨ipZero_prefixLen, ipZero_prefixLen⟩
  | switch =>
      have hdefault : SwitchPortConfig.Ok { mode := .access, vlanId := switchDefaultVlanId } :=
        ⟨⟨by decide, by decide⟩, by decide⟩
      exact fun _ => hdefault
  | router =>
      refine ⟨routerInit_tableOk numInterfaces, ?_⟩
      have hempty : directRoutes numInterfaces routerInit = [] :=
        congrArg Router.routingTable
          (@routerAddDirectRoutes_of_noIps numInterfaces routerInit fun _ => rfl)
      change directRoutes numInterfaces routerInit <+: []
      rw [hempty]

/-! ## What holds in every state -/

/-- The nodes are in order, the links join their interfaces, and their names can stand in an endpoint. -/
structure TopologyOk (s : Simulator A) : Prop where
  coherent : s.Coherent
  linkCount_le : s.linkCount ≤ simulatorMaxLinks
  nodes_le : s.nodes.length ≤ simulatorMaxNodes
  addresses : (s.nodes.map SimulatorNodeEntry.node).Nodup
  entries : ∀ entry ∈ s.nodes, EntryOk entry (s.heap entry.node)
  endNames : ∀ i x, i < s.linkCount → linkTouches (s.links i) x = true →
    58 ∉ (s.heap x.node).name
  delays : ∀ i, i < s.linkCount → A.isNegative (s.links i).delay = true →
    (s.links i).delay = A.zero

/-- What a load leaves is in order, whether it succeeds or not. -/
def LoadOk : Except (Simulator A) (Simulator A) → Prop
  | .ok s => TopologyOk s
  | .error s => TopologyOk s

namespace TopologyOk

variable {s : Simulator A}

/-- Entries at the same address are the same. -/
theorem entry_eq (h : TopologyOk s) {entry other : SimulatorNodeEntry} (hentry : entry ∈ s.nodes)
    (hother : other ∈ s.nodes) (hnode : entry.node = other.node) : entry = other :=
  List.inj_on_of_nodup_map h.addresses hentry hother hnode

/-- A node gets another device of its type. -/
theorem setDevice (h : TopologyOk s) {entry : SimulatorNodeEntry} (hentry : entry ∈ s.nodes)
    {device : Device}
    (hdevice : DeviceOk (s.heap entry.node).numInterfaces entry.type device) :
    TopologyOk (s.setDevice entry.node device) := by
  have hheap : ∀ address, (s.setDevice entry.node device).heap address =
      if address = entry.node then { s.heap entry.node with device := device }
      else s.heap address := by
    intro address
    rw [Simulator.setDevice]
    by_cases haddress : address = entry.node
    · rw [if_pos haddress, haddress]
      exact Function.update_self _ _ _
    · rw [if_neg haddress]
      exact Function.update_of_ne haddress _ _
  have hname : ∀ address, ((s.setDevice entry.node device).heap address).name =
      (s.heap address).name := by
    intro address
    rw [hheap]
    split_ifs with haddress
    · rw [haddress]
    · rfl
  have hlinkOf : ∀ x, (s.setDevice entry.node device).linkOf x = s.linkOf x := by
    intro x
    rw [Simulator.linkOf, Simulator.linkOf, hheap]
    split_ifs with haddress
    · rw [haddress]
    · rfl
  have hlive : ∀ x, (s.setDevice entry.node device).Live x ↔ s.Live x := by
    intro x
    have hnum : ((s.setDevice entry.node device).heap x.node).numInterfaces =
        (s.heap x.node).numInterfaces := by
      rw [hheap]
      split_ifs with haddress
      · rw [haddress]
      · rfl
    rw [Simulator.Live, Simulator.Live, hnum]
    rfl
  have hcoherent : (s.setDevice entry.node device).Coherent := by
    refine ⟨fun i hi => ?_, h.coherent.disjoint, fun i x hi hx => ?_⟩
    · rcases h.coherent.ends i hi with ⟨a, b, ha, hb, hne, hliveA, hliveB⟩
      exact ⟨a, b, ha, hb, hne, (hlive a).mpr hliveA, (hlive b).mpr hliveB⟩
    · rw [hlinkOf]
      exact h.coherent.linked i x hi hx
  refine ⟨hcoherent, h.linkCount_le, h.nodes_le, h.addresses, fun other hother => ?_,
    fun i x hi hx => ?_, h.delays⟩
  · rw [hheap]
    split_ifs with haddress
    -- No other entry is at the address that is changed.
    · have hsame := h.entry_eq hother hentry haddress
      rcases h.entries entry hentry with ⟨hnameEq, hlt, hclean, hpos, -⟩
      rw [hsame]
      exact ⟨hnameEq, hlt, hclean, hpos, hdevice⟩
    · exact h.entries other hother
  · rw [hname]
    exact h.endNames i x hi hx

theorem requestedPortCount_pos (requestedPorts : Int) : 0 < requestedPortCount requestedPorts := by
  rw [requestedPortCount]
  split_ifs
  all_goals
    have hmax : 0 < maxPort := by decide
    omega

/-- A node is created. -/
theorem created (h : TopologyOk s) {address : Nat} (hfresh : ¬ s.InUse address)
    (hroom : s.nodes.length < simulatorMaxNodes) (type : SimulatorNodeType) {name : Text}
    (hname : 0 ∉ name) (requestedPorts : Int) :
    TopologyOk (s.created type name requestedPorts address) := by
  have hother : ∀ entry ∈ s.nodes, entry.node ≠ address := fun entry hentry heq =>
    hfresh ⟨entry, hentry, heq⟩
  refine ⟨h.coherent.created hfresh type name requestedPorts, h.linkCount_le, ?_, ?_,
    fun entry hentry => ?_, fun i x hi hx => ?_, h.delays⟩
  · simp only [Simulator.created, List.length_append, List.length_singleton]
    omega
  · simp only [Simulator.created, List.map_append, List.map_cons, List.map_nil]
    rw [← List.concat_eq_append]
    refine h.addresses.concat fun hmem => ?_
    rcases List.mem_map.mp hmem with ⟨entry, hentry, heq⟩
    exact hother entry hentry heq
  · rcases List.mem_append.mp hentry with hold | hnew
    · rw [Simulator.created_heap_of_ne s type name requestedPorts (hother entry hold)]
      exact h.entries entry hold
    · rw [List.mem_singleton.mp hnew]
      simp only [Simulator.created, Function.update_self]
      refine ⟨rfl, ?_, fun hmem => hname (List.mem_of_mem_take hmem),
        requestedPortCount_pos requestedPorts, deviceInit_ok _ type⟩
      exact Nat.lt_of_le_of_lt (List.length_take_le _ _) (by decide)
  · have hlive : s.Live x := h.coherent.live hi hx
    have hne : x.node ≠ address := fun heq => hfresh (heq ▸ hlive.1)
    rw [Simulator.created_heap_of_ne s type name requestedPorts hne]
    exact h.endNames i x hi hx

/-- A name that is new is found at the new node, if it was stored unchanged. -/
theorem created_findEntry {address : Nat} {type : SimulatorNodeType} {name : Text}
    {requestedPorts : Int} (hnew : simulatorFindNode s name = none) :
    (s.created type name requestedPorts address).findEntry name =
      if strncpyTerminated name maxName = name then
        some { name := name, type := type, node := address }
      else
        none := by
  have hnone : s.nodes.find? (fun entry => entry.name == name) = none := by
    rw [List.find?_eq_bind_findIdx?_getElem?]
    exact congrArg (Option.bind · _) hnew
  rw [Simulator.findEntry, simulatorFindNode, ← List.find?_eq_bind_findIdx?_getElem?,
    Simulator.created, List.find?_append, hnone, Option.none_or, List.find?_singleton]
  by_cases hstored : strncpyTerminated name maxName = name
  · simp [hstored]
  · simp [hstored]

/-- `simulator_load` of a node whose new device stays in order. -/
theorem loadNode (h : TopologyOk s) (alloc : Nat → Option Nat) {type name : Text}
    (hname : 0 ∉ name) (requestedPorts : Int) {configure : Node → Device}
    (hconfigure : ∀ nodeType node, parseNodeType type = some nodeType →
      node.device = deviceInit nodeType → DeviceOk node.numInterfaces nodeType (configure node)) :
    LoadOk (MagiStack.loadNode alloc s type name requestedPorts configure) := by
  rw [MagiStack.loadNode]
  cases hcreate : simulatorCreateNode s type name requestedPorts (s.calloc (alloc s.nodes.length)) with
  | none => exact h
  | some s₁ =>
      rcases Simulator.simulatorCreateNode_eq_some hcreate with
        ⟨nodeType, a, htype, hcalloc, hnew, hroom, rfl⟩
      have hcreated := h.created (Simulator.calloc_eq_some hcalloc) hroom nodeType hname
        requestedPorts
      simp only [created_findEntry hnew]
      by_cases hstored : strncpyTerminated name maxName = name
      · have hentry : (⟨name, nodeType, a⟩ : SimulatorNodeEntry) ∈
            (s.created nodeType name requestedPorts a).nodes := by
          simp [Simulator.created, hstored]
        have hdevice : ((s.created nodeType name requestedPorts a).heap a).device =
            deviceInit nodeType := by
          simp [Simulator.created]
        simp only [if_pos hstored]
        exact hcreated.setDevice hentry (hconfigure nodeType _ htype hdevice)
      · simp only [if_neg hstored]
        exact hcreated

end TopologyOk

/-! ## Loading a file -/

theorem LoadOk.bind {r : Except (Simulator A) (Simulator A)} (h : LoadOk r)
    {f : Simulator A → Except (Simulator A) (Simulator A)}
    (hf : ∀ s, TopologyOk s → LoadOk (f s)) : LoadOk (r >>= f) := by
  cases r with
  | error s => exact h
  | ok s => exact hf s h

theorem LoadOk.foldlM {f : Simulator A → JsonValue A.Double → Except (Simulator A) (Simulator A)}
    {items : List (JsonValue A.Double)}
    (hf : ∀ s item, item ∈ items → TopologyOk s → LoadOk (f s item)) {s : Simulator A}
    (h : TopologyOk s) : LoadOk (items.foldlM f s) := by
  induction items generalizing s with
  | nil => exact h
  | cons item items ih =>
      rw [List.foldlM_cons]
      refine (hf s item List.mem_cons_self h).bind fun s' hs' => ?_
      exact ih (fun s'' other hother => hf s'' other (List.mem_cons_of_mem item hother)) hs'

/-- A string found in a value without zero bytes has none. -/
theorem JsonValue.NulFree.get {v w : JsonValue A.Double} (h : v.NulFree) {key : Text}
    (hget : jsonObjectGet v key = some w) : w.NulFree := by
  cases h with
  | object hmembers =>
      rcases Option.map_eq_some_iff.mp hget with ⟨member, hmember, rfl⟩
      exact hmembers member (List.mem_of_find?_eq_some hmember)
  | array _ => cases hget
  | string _ => cases hget
  | number _ => cases hget
  | bool _ => cases hget
  | null => cases hget

theorem JsonValue.NulFree.items {v : JsonValue A.Double} (h : v.NulFree) (key : Text) :
    ∀ item ∈ jsonItems v key, item.NulFree := by
  intro item hitem
  rw [jsonItems] at hitem
  split at hitem
  · rename_i items hget
    cases h.get hget with
    | array hitems => exact hitems item hitem
  · exact absurd hitem List.not_mem_nil

theorem JsonValue.NulFree.name {v : JsonValue A.Double} (h : v.NulFree) {key name : Text}
    (hget : jsonObjectGet v key = some (.string name)) : 0 ∉ name := by
  cases h.get hget with
  | string hname => exact hname

theorem loadHost_ok (alloc : Nat → Option Nat) {s : Simulator A} {h : JsonValue A.Double}
    (hfree : h.NulFree) (hok : TopologyOk s) : LoadOk (loadHost alloc s h) := by
  rw [loadHost]
  split
  · rename_i name hget
    refine hok.loadNode alloc (hfree.name hget) 1 fun nodeType node htype hdevice => ?_
    have hhost : nodeType = .host := by
      have hparse : parseNodeType (text "host") = some .host := by decide
      exact (Option.some.inj (hparse.symm.trans htype)).symm
    subst hhost
    rw [hdevice]
    exact hostGatewayFromJson_ok h (hostAddressFromJson_ok h ⟨ipZero_prefixLen, ipZero_prefixLen⟩)
  · exact hok

theorem loadSwitch_ok (alloc : Nat → Option Nat) {s : Simulator A} {v : JsonValue A.Double}
    (hfree : v.NulFree) (hok : TopologyOk s) : LoadOk (loadSwitch alloc s v) := by
  rw [loadSwitch]
  split
  · rename_i name hget
    refine hok.loadNode alloc (hfree.name hget) _ fun nodeType node htype hdevice => ?_
    have hswitch : nodeType = .switch := by
      have hparse : parseNodeType (text "switch") = some .switch := by decide
      exact (Option.some.inj (hparse.symm.trans htype)).symm
    subst hswitch
    have hinit := deviceInit_ok node.numInterfaces .switch
    rw [hdevice]
    exact List.foldlRecOn _ _ (motive := fun sw : Switch => ∀ port, (sw.portConfigs port).Ok)
      hinit fun sw hsw item _ => switchFromJson_ok hsw item
  · exact hok

theorem loadRouter_ok (alloc : Nat → Option Nat) {s : Simulator A} {r : JsonValue A.Double}
    (hfree : r.NulFree) (hok : TopologyOk s) : LoadOk (loadRouter alloc s r) := by
  rw [loadRouter]
  split
  · rename_i name hget
    refine hok.loadNode alloc (hfree.name hget) 8 fun nodeType node htype hdevice => ?_
    have hrouter : nodeType = .router := by
      have hparse : parseNodeType (text "router") = some .router := by decide
      exact (Option.some.inj (hparse.symm.trans htype)).symm
    subst hrouter
    rw [hdevice]
    exact routerFromJson_ok r node.numInterfaces
  · exact hok

/-! ## Links -/

theorem parseEndpoint_name (endpoint : Text) : 58 ∉ (parseEndpoint endpoint).1 := by
  rw [parseEndpoint]
  split
  · rename_i hnone
    intro hmem
    have hall := List.dropWhile_eq_nil_iff.mp hnone 58 (List.mem_of_mem_take hmem)
    simp at hall
  · intro hmem
    have hbefore := List.mem_takeWhile_imp (List.mem_of_mem_take hmem)
    simp at hbefore

/-- An endpoint names its node without a colon. -/
theorem endpointToInterface_name {s : Simulator A} (h : TopologyOk s) {endpoint : Text}
    {x : Interface} (hx : endpointToInterface s endpoint = some x) :
    58 ∉ (s.heap x.node).name := by
  rw [endpointToInterface] at hx
  simp only at hx
  split at hx
  · cases hx
  · rename_i entry hentry
    rcases Option.map_eq_some_iff.mp hx with ⟨port, -, rfl⟩
    have hfind : s.nodes.find? (fun entry => entry.name == (parseEndpoint endpoint).1) =
        some entry := by
      rw [List.find?_eq_bind_findIdx?_getElem?]
      exact hentry
    have hname : entry.name = (parseEndpoint endpoint).1 :=
      beq_iff_eq.mp (List.find?_some
        (p := fun entry : SimulatorNodeEntry => entry.name == (parseEndpoint endpoint).1) hfind)
    rw [(h.entries entry (List.mem_of_find?_eq_some hfind)).name, hname]
    exact parseEndpoint_name endpoint

/-- The links may change under the same nodes. -/
theorem TopologyOk.relinked {s s' : Simulator A} (h : TopologyOk s)
    (hnodes : Simulator.SameNodes s s') (hcoherent : s'.Coherent)
    (hcount : s'.linkCount ≤ simulatorMaxLinks)
    (hnames : ∀ i x, i < s'.linkCount → linkTouches (s'.links i) x = true →
      58 ∉ (s.heap x.node).name)
    (hdelays : ∀ i, i < s'.linkCount → A.isNegative (s'.links i).delay = true →
      (s'.links i).delay = A.zero) : TopologyOk s' where
  coherent := hcoherent
  linkCount_le := hcount
  nodes_le := by
    rw [hnodes.nodes]
    exact h.nodes_le
  addresses := by
    rw [hnodes.nodes]
    exact h.addresses
  entries := by
    intro entry hentry
    rw [hnodes.nodes] at hentry
    rcases h.entries entry hentry with ⟨hname, hlt, hclean, hpos, hdevice⟩
    refine ⟨(hnodes.name _).trans hname, hlt, hclean, ?_, ?_⟩
    · rw [hnodes.numInterfaces]
      exact hpos
    · rw [hnodes.numInterfaces, hnodes.device]
      exact hdevice
  endNames := by
    intro i x hi hx
    rw [hnodes.name]
    exact hnames i x hi hx
  delays := hdelays

theorem TopologyOk.link {s s' : Simulator A} (h : TopologyOk s) {endpointA endpointB : Text}
    {delay : A.Single} (hlink : simulatorLink s endpointA endpointB delay = some s') :
    TopologyOk s' := by
  rcases Simulator.simulatorLink_eq_some hlink with
    ⟨a, b, hendA, hendB, hroom, hne, ha, hb, hadd⟩
  have hcoherent := h.coherent.addLink hne ha hb (Simulator.endpointToInterface_live hendA)
    (Simulator.endpointToInterface_live hendB) hadd
  refine h.relinked hadd.sameNodes hcoherent (hadd.linkCount ▸ hroom) (fun i x hi hx => ?_)
    fun i hi hneg => ?_
  · rcases Nat.lt_succ_iff_lt_or_eq.mp (hadd.linkCount ▸ hi) with hlt | rfl
    · rw [hadd.kept i hlt] at hx
      exact h.endNames i x hlt hx
    · rcases (hadd.touches_last x).mp hx with rfl | rfl
      · exact endpointToInterface_name h hendA
      · exact endpointToInterface_name h hendB
  · rcases Nat.lt_succ_iff_lt_or_eq.mp (hadd.linkCount ▸ hi) with hlt | rfl
    · rw [hadd.kept i hlt] at hneg ⊢
      exact h.delays i hlt hneg
    · rw [hadd.last] at hneg ⊢
      simp only at hneg ⊢
      split_ifs at hneg ⊢ with hdelay
      · rfl
      · exact absurd hneg hdelay

theorem TopologyOk.removeLink {s : Simulator A} (h : TopologyOk s) {i : Nat}
    (hi : i < s.linkCount) : TopologyOk (removeLink s i) := by
  rcases Simulator.removeLink_spec s hi with ⟨hnodes, hcount, hlinks, -⟩
  have hle : (MagiStack.removeLink s i).linkCount ≤ simulatorMaxLinks := by
    have hle := h.linkCount_le
    omega
  refine h.relinked hnodes (h.coherent.remove hi) hle (fun j x hj hx => ?_) fun j hj hneg => ?_
  -- The link at each place was at one of the places before.
  · rw [hlinks j hj] at hx
    exact h.endNames _ x (Simulator.placeBefore_lt hi hj) hx
  · rw [hlinks j hj] at hneg ⊢
    exact h.delays _ (Simulator.placeBefore_lt hi hj) hneg

/-- Loading a link is one call of `simulator_link`, or nothing. -/
theorem loadLink_cases (s : Simulator A) (l : JsonValue A.Double) :
    loadLink s l = s ∨ ∃ endpoint1 endpoint2 delay,
      simulatorLink s endpoint1 endpoint2 delay = some (loadLink s l) := by
  have hcall : ∀ endpoint1 endpoint2 delay,
      (simulatorLink s endpoint1 endpoint2 delay).getD s = s ∨ ∃ endpoint1' endpoint2' delay',
        simulatorLink s endpoint1' endpoint2' delay' =
          some ((simulatorLink s endpoint1 endpoint2 delay).getD s) := by
    intro endpoint1 endpoint2 delay
    cases hlink : simulatorLink s endpoint1 endpoint2 delay with
    | none => exact Or.inl rfl
    | some s' => exact Or.inr ⟨endpoint1, endpoint2, delay, hlink⟩
  rw [loadLink]
  split
  · exact hcall _ _ _
  · exact Or.inl rfl

theorem loadLink_ok {s : Simulator A} (h : TopologyOk s) (l : JsonValue A.Double) :
    TopologyOk (loadLink s l) := by
  rcases loadLink_cases s l with heq | ⟨endpoint1, endpoint2, delay, hlink⟩
  · rwa [heq]
  · exact h.link hlink

/-- A simulator without nodes and links. -/
theorem topologyOk_empty {s : Simulator A} (hnodes : s.nodes = []) (hcount : s.linkCount = 0) :
    TopologyOk s := by
  refine ⟨⟨?_, ?_, ?_⟩, ?_, ?_, ?_, ?_, ?_, ?_⟩
  all_goals simp [hnodes, hcount]

/-! ## Every reachable state -/

theorem loadRoot_ok (alloc : Nat → Option Nat) (s : Simulator A) {root : JsonValue A.Double}
    (hfree : root.NulFree) : LoadOk (loadRoot alloc s root) := by
  have hclear : TopologyOk (simulatorClear s) := topologyOk_empty rfl rfl
  rw [loadRoot]
  refine (LoadOk.foldlM (fun s' item hitem => loadHost_ok alloc (hfree.items _ item hitem))
    hclear).bind fun s₁ h₁ => ?_
  refine (LoadOk.foldlM (fun s' item hitem => loadSwitch_ok alloc (hfree.items _ item hitem))
    h₁).bind fun s₂ h₂ => ?_
  refine (LoadOk.foldlM (fun s' item hitem => loadRouter_ok alloc (hfree.items _ item hitem))
    h₂).bind fun s₃ h₃ => ?_
  exact List.foldlRecOn _ _ (motive := TopologyOk) h₃ fun s' hs' item _ => loadLink_ok hs' item

theorem simulatorLoad_ok (alloc : Nat → Option Nat) {s : Simulator A} (h : TopologyOk s)
    (content : Text) : LoadOk (simulatorLoad alloc s content) := by
  rw [simulatorLoad]
  split
  · rename_i members hparse
    refine loadRoot_ok alloc s (jsonParse_nulFree hparse fun hmem => ?_)
    have hbefore := List.mem_takeWhile_imp hmem
    simp at hbefore
  · exact h

/-- A switch port is configured. -/
theorem TopologyOk.configureSwitch {s : Simulator A} (h : TopologyOk s) (name : Text)
    {f : Switch → Option Switch}
    (hf : ∀ sw sw', (∀ port, (sw.portConfigs port).Ok) → f sw = some sw' →
      ∀ port, (sw'.portConfigs port).Ok) : TopologyOk (s.configureSwitch name f) := by
  rw [Simulator.configureSwitch]
  split
  · exact h
  · rename_i entry hfind
    rcases Option.bind_eq_some_iff.mp hfind with ⟨index, -, hindex⟩
    have hentry := List.mem_of_getElem? hindex
    have hdevice := (h.entries entry hentry).device
    split
    · rename_i portConfigs hswitch
      split
      · exact h
      · rename_i sw hset
        refine h.setDevice hentry ?_
        rw [hswitch] at hdevice
        cases htype : entry.type with
        | host =>
            rw [htype] at hdevice
            exact hdevice.elim
        | router =>
            rw [htype] at hdevice
            exact hdevice.elim
        | switch =>
            rw [htype] at hdevice
            exact hf ((s.heap entry.node).toSwitch portConfigs) sw hdevice hset
    · exact h

theorem TopologyOk.step {s : Simulator A} (h : TopologyOk s) (action : TopologyAction A) :
    TopologyOk (s.topologyStep action) := by
  cases action with
  | createNode type name requestedPorts address =>
      refine Simulator.getD_holds h fun s' hcreate => ?_
      rcases Simulator.simulatorCreateNode_eq_some hcreate with ⟨nodeType, a, -, hcalloc, -, hroom, rfl⟩
      exact h.created (Simulator.calloc_eq_some hcalloc) hroom nodeType name.property requestedPorts
  | setAccessPort name portNumber vlanId =>
      have hvlan : IsInt vlanId.toInt := ⟨vlanId.le_toInt, vlanId.toInt_lt⟩
      exact h.configureSwitch name fun sw sw' hsw hset => switchSetAccessPort_ok hsw hvlan hset
  | setTrunkPort name portNumber =>
      exact h.configureSwitch name fun sw sw' hsw hset => switchSetTrunkPort_ok hsw hset
  | link endpointA endpointB delay => exact Simulator.getD_holds h fun _ => h.link
  | unlink endpointA endpointB =>
      refine Simulator.getD_holds h fun s' hunlink => ?_
      rcases Simulator.simulatorUnlink_eq_some hunlink with ⟨-, -, i, -, -, -, hi, rfl⟩
      exact h.removeLink hi
  | load alloc content =>
      have hload := simulatorLoad_ok alloc h content
      rw [Simulator.topologyStep]
      cases hresult : simulatorLoad alloc s content with
      | ok s' =>
          rw [hresult] at hload
          exact hload
      | error s' =>
          rw [hresult] at hload
          exact hload

theorem topologyOk_run (heap : Nat → Node) (links : Nat → Link A)
    (actions : List (TopologyAction A)) :
    TopologyOk ((simulatorInit heap links).topologyRun actions) :=
  List.foldlRecOn _ _ (motive := TopologyOk) (topologyOk_empty rfl rfl)
    fun _ h action _ => h.step action

end MagiStack
