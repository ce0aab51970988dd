import MagiStack.Topology.NodeNames
import MagiStack.Utils.LoaderSaved

/-!
# LoaderNodes — the nodes of a saved topology come back

Each saved node is created under its name and configured from what was written of it.  The hosts come first, then
the switches and then the routers.
-/

namespace MagiStack

variable {A : CFloat}

/-! ## Values -/

theorem castInt_ofInt {n : Int} (h : IsInt n) : castInt A (A.ofInt n) = n := by
  rw [castInt, A.toInt_ofInt h.1 h.2]
  have hlow := h.1
  have hhigh := h.2
  exact Int.bmod_eq_of_le (by omega) (by omega)

theorem jsonAddress_eq (ip : IpAddress) :
    jsonAddress A ip = .string (ipToString ip (0 < ip.prefixLen)) :=
  jsonCreateString_eq (Nat.lt_of_le_of_lt (ipToString_length ip _) (by decide))

/-- An address is saved with its network bits, when it has any. -/
theorem ipParse_saved {ip : IpAddress} (h : ip.prefixLen.toNat ≤ 32) (outIp : IpAddress) :
    ipParse (ipToString ip (0 < ip.prefixLen)) outIp = (true, ip) := by
  rw [ipParse_ipToString ip outIp _ h]
  by_cases hbits : 0 < ip.prefixLen
  · simp only [hbits, decide_true, if_true]
  · have hzero : ip.prefixLen = 0 := by
      rw [UInt8.lt_iff_toNat_lt] at hbits
      exact UInt8.toNat.inj (Nat.le_zero.mp (not_lt.mp hbits))
    simp only [hbits, decide_false, Bool.false_eq_true, if_false]
    rw [← hzero]

theorem jsonObjectGet_objectOf {members : List (Text × JsonValue A.Double)}
    (hkeys : ∀ member ∈ members, member.1.length < jsonMaxString) (key : Text) :
    jsonObjectGet (jsonObjectOf members) key =
      (members.find? fun member => member.1 == key).map Prod.snd := by
  rw [jsonObjectOf_eq hkeys]
  rfl

/-! ## Hosts -/

theorem jsonObjectGet_saveHost (name : Text) (host : Host) (key : Text) :
    jsonObjectGet (saveHost A name host) key =
      (((text "name", jsonCreateString name) ::
        if host.hasIp then
          [(text "ip_address", jsonAddress A host.ipAddress),
            (text "default_gateway", jsonAddress A host.defaultGateway)]
        else
          []).find? fun member => member.1 == key).map Prod.snd := by
  refine jsonObjectGet_objectOf ?_ key
  have hname : (text "name").length < jsonMaxString := by decide
  have haddress : (text "ip_address").length < jsonMaxString := by decide
  have hgateway : (text "default_gateway").length < jsonMaxString := by decide
  cases host.hasIp with
  | false => exact List.forall_mem_cons.mpr ⟨hname, fun _ h => (nomatch h)⟩
  | true =>
      simp only [if_true, List.forall_mem_cons]
      exact ⟨hname, haddress, hgateway, fun _ h => (nomatch h)⟩

theorem saveHost_name {name : Text} (hname : name.length < maxName) (host : Host) :
    jsonObjectGet (saveHost A name host) (text "name") = some (.string name) := by
  rw [jsonObjectGet_saveHost, ← jsonCreateString_eq (Nat.lt_trans hname (by decide))]
  rfl

/-- A new host gets the addresses that were saved. -/
theorem hostFromJson_saved (name : Text) {host : Host} (hok : host.Ok) (init : Host) :
    hostGatewayFromJson (saveHost A name host) (hostAddressFromJson (saveHost A name host) init) =
      if host.hasIp then host else init := by
  have haddress : jsonObjectGet (saveHost A name host) (text "ip_address") =
      if host.hasIp then some (jsonAddress A host.ipAddress) else none := by
    rw [jsonObjectGet_saveHost]
    cases host.hasIp with
    | false => rfl
    | true => rfl
  have hgateway : jsonObjectGet (saveHost A name host) (text "default_gateway") =
      if host.hasIp then some (jsonAddress A host.defaultGateway) else none := by
    rw [jsonObjectGet_saveHost]
    cases host.hasIp with
    | false => rfl
    | true => rfl
  rcases host with ⟨hasIp, ipAddress, defaultGateway⟩
  cases hasIp with
  | false =>
      simp only [hostGatewayFromJson, hostAddressFromJson, haddress, hgateway, Bool.false_eq_true,
        if_false]
  | true =>
      simp only [hostGatewayFromJson, hostAddressFromJson, haddress, hgateway, if_true,
        jsonAddress_eq, ipParse_saved hok.1, ipParse_saved hok.2, Bool.true_or]

/-! ## Switches -/

/-- A port with a number in the file. -/
theorem jsonObjectGet_saveVlan (port : Fin maxPort) (config : SwitchPortConfig) (key : Text) :
    jsonObjectGet (saveVlan A port config) key =
      (((text "port", jsonInt A (interfacePortNumber port)) ::
        match config.mode with
        | .access =>
            [(text "mode", jsonCreateString (text "access")), (text "vlan_id", jsonInt A config.vlanId)]
        | .trunk => [(text "mode", jsonCreateString (text "trunk"))]).find?
          fun member => member.1 == key).map Prod.snd := by
  refine jsonObjectGet_objectOf ?_ key
  have hport : (text "port").length < jsonMaxString := by decide
  have hmode : (text "mode").length < jsonMaxString := by decide
  have hvlan : (text "vlan_id").length < jsonMaxString := by decide
  cases config.mode with
  | access =>
      simp only [List.forall_mem_cons]
      exact ⟨hport, hmode, hvlan, fun _ h => (nomatch h)⟩
  | trunk =>
      simp only [List.forall_mem_cons]
      exact ⟨hport, hmode, fun _ h => (nomatch h)⟩

theorem saveSwitch_keys (name : Text) (n : Nat) (portConfigs : Fin maxPort → SwitchPortConfig) :
    ∀ member ∈ ([(text "name", jsonCreateString name), (text "num_ports", jsonInt A n),
      (text "vlans", jsonArrayOf
        (((nodePorts n).filter fun port => !(portConfigs port).isDefault).map
          fun port => saveVlan A port (portConfigs port)))] :
        List (Text × JsonValue A.Double)), member.1.length < jsonMaxString := by
  have hname : (text "name").length < jsonMaxString := by decide
  have hports : (text "num_ports").length < jsonMaxString := by decide
  have hvlans : (text "vlans").length < jsonMaxString := by decide
  simp only [List.forall_mem_cons]
  exact ⟨hname, hports, hvlans, fun _ h => (nomatch h)⟩

theorem saveSwitch_name {name : Text} (hname : name.length < maxName) (n : Nat)
    (portConfigs : Fin maxPort → SwitchPortConfig) :
    jsonObjectGet (saveSwitch A name n portConfigs) (text "name") = some (.string name) := by
  rw [← jsonCreateString_eq (Nat.lt_trans hname (by decide))]
  exact jsonObjectGet_objectOf (saveSwitch_keys name n portConfigs) _

/-- A saved port gets its configuration back. -/
theorem switchFromJson_saved {sw : Switch} {port : Fin maxPort} (hport : port.val < sw.numInterfaces)
    {config : SwitchPortConfig} (hok : config.Ok) :
    switchFromJson sw (saveVlan A port config) =
      { sw with portConfigs := Function.update sw.portConfigs port config } := by
  have hnumber : jsonObjectGet (saveVlan A port config) (text "port") =
      some (jsonInt A (interfacePortNumber port)) := by
    rw [jsonObjectGet_saveVlan]
    rfl
  have hcast : castInt A (A.ofInt (interfacePortNumber port)) = interfacePortNumber port :=
    castInt_ofInt (isInt_port port)
  have hfound : sw.interface (interfacePortNumber port) = some port :=
    Switch.interface_eq_some.mpr ⟨rfl, hport⟩
  rcases config with ⟨mode, vlanId⟩
  cases mode with
  | access =>
      have hmode : jsonObjectGet (saveVlan A port { mode := .access, vlanId := vlanId })
          (text "mode") = some (.string (text "access")) := by
        rw [jsonObjectGet_saveVlan, ← jsonCreateString_eq (by decide)]
        rfl
      have hvlan : jsonObjectGet (saveVlan A port { mode := .access, vlanId := vlanId })
          (text "vlan_id") = some (jsonInt A vlanId) := by
        rw [jsonObjectGet_saveVlan]
        rfl
      have hcastVlan : castInt A (A.ofInt vlanId) = vlanId := castInt_ofInt hok.1
      have hpositive : ¬ vlanId < 1 := not_lt.mpr hok.2
      rw [switchFromJson, hnumber, hmode, hvlan]
      simp only [jsonInt, if_true, hcast, hcastVlan, switchSetAccessPort, if_neg hpositive, hfound,
        Option.map_some, Option.getD_some]
  | trunk =>
      have hmode : jsonObjectGet (saveVlan A port { mode := .trunk, vlanId := vlanId })
          (text "mode") = some (.string (text "trunk")) := by
        rw [jsonObjectGet_saveVlan, ← jsonCreateString_eq (by decide)]
        rfl
      -- A trunk has no number of its own, and none is read.
      have hzero : vlanId = 0 := hok.2
      have hother : text "trunk" ≠ text "access" := by decide
      rw [switchFromJson, hnumber, hmode]
      simp only [jsonInt, if_neg hother, if_true, hcast, switchSetTrunkPort, hfound, Option.map_some,
        Option.getD_some, hzero]

/-- All ports of a list are loaded, one after the other. -/
theorem switchFromJson_foldl {configs : Fin maxPort → SwitchPortConfig} (hok : ∀ port, (configs port).Ok)
    (ports : List (Fin maxPort)) {sw : Switch} (hports : ∀ port ∈ ports, port.val < sw.numInterfaces) :
    ((ports.map fun port => saveVlan A port (configs port)).foldl switchFromJson sw).portConfigs =
      fun port => if port ∈ ports then configs port else sw.portConfigs port := by
  induction ports generalizing sw with
  | nil => simp
  | cons first ports ih =>
      have hfirst := hports first List.mem_cons_self
      rw [List.map_cons, List.foldl_cons, switchFromJson_saved hfirst (hok first)]
      refine (ih ?_).trans (funext fun port => ?_)
      · exact fun port hport => hports port (List.mem_cons_of_mem first hport)
      · by_cases hsame : port = first
        · simp [hsame]
        · simp [hsame]

theorem SwitchPortConfig.eq_of_isDefault {config : SwitchPortConfig} (h : config.isDefault = true) :
    config = { mode := .access, vlanId := switchDefaultVlanId } := by
  rcases config with ⟨mode, vlanId⟩
  rw [SwitchPortConfig.isDefault, Bool.and_eq_true, decide_eq_true_eq, decide_eq_true_eq] at h
  rw [← h.1, ← h.2]

theorem mem_nodePorts {numInterfaces : Nat} {port : Fin maxPort} :
    port ∈ nodePorts numInterfaces ↔ port.val < numInterfaces := by
  simp [nodePorts]

/-! ## Routers -/

theorem jsonObjectGet_saveInterface (router : Router) (port : Fin maxPort) (key : Text) :
    jsonObjectGet (saveInterface A router port) key =
      (((text "port", jsonInt A (interfacePortNumber port)) ::
        (text "ip_address", jsonAddress A (router.interfaceIps port).ipAddress) ::
        if 0 < router.interfaceVlans port then
          [(text "vlan_id", jsonInt A (router.interfaceVlans port))]
        else
          []).find? fun member => member.1 == key).map Prod.snd := by
  refine jsonObjectGet_objectOf ?_ key
  have hport : (text "port").length < jsonMaxString := by decide
  have haddress : (text "ip_address").length < jsonMaxString := by decide
  have hvlan : (text "vlan_id").length < jsonMaxString := by decide
  split_ifs
  · simp only [List.forall_mem_cons]
    exact ⟨hport, haddress, hvlan, fun _ h => (nomatch h)⟩
  · simp only [List.forall_mem_cons]
    exact ⟨hport, haddress, fun _ h => (nomatch h)⟩

/-- The router with the saved address and VLAN of a port. -/
def Router.withInterface (router saved : Router) (port : Fin maxPort) : Router :=
  { router with
    interfaceIps := Function.update router.interfaceIps port
      { hasIp := true, ipAddress := (saved.interfaceIps port).ipAddress }
    interfaceVlans :=
      if 0 < saved.interfaceVlans port then
        Function.update router.interfaceVlans port (saved.interfaceVlans port)
      else
        router.interfaceVlans }

theorem interfaceFromJson_saved {n : Nat} {saved : Router} (hok : saved.TableOk n) (router : Router)
    {port : Fin maxPort} (hport : port.val < n) :
    interfaceFromJson n router (saveInterface A saved port) = router.withInterface saved port := by
  -- What the three members of the saved interface are.
  have hnumber : jsonObjectGet (saveInterface A saved port) (text "port") =
      some (jsonInt A (interfacePortNumber port)) := by
    rw [jsonObjectGet_saveInterface]
    rfl
  have haddress : jsonObjectGet (saveInterface A saved port) (text "ip_address") =
      some (.string (ipToString (saved.interfaceIps port).ipAddress
        (0 < (saved.interfaceIps port).ipAddress.prefixLen))) := by
    rw [jsonObjectGet_saveInterface, ← jsonAddress_eq]
    rfl
  have hvlan : jsonObjectGet (saveInterface A saved port) (text "vlan_id") =
      if 0 < saved.interfaceVlans port then some (jsonInt A (saved.interfaceVlans port))
      else none := by
    rw [jsonObjectGet_saveInterface]
    split_ifs
    · rfl
    · rfl
  have hcast : castInt A (A.ofInt (interfacePortNumber port)) = interfacePortNumber port :=
    castInt_ofInt (isInt_port port)
  have hcastVlan : castInt A (A.ofInt (saved.interfaceVlans port)) = saved.interfaceVlans port :=
    castInt_ofInt (hok.vlans port)
  -- The number leads back to the port it is of.
  have hfound : routerPort n (interfacePortNumber port) = some port := by
    have hmem : port ∈ nodePorts n := mem_nodePorts.mpr hport
    cases hfind : routerPort n (interfacePortNumber port) with
    | none =>
        have hnot := List.find?_eq_none.mp hfind port hmem
        simp at hnot
    | some other =>
        have hsame := List.find?_some hfind
        rw [decide_eq_true_eq] at hsame
        rw [interfacePortNumber_injective hsame]
  rw [interfaceFromJson, hnumber, haddress, hvlan]
  simp only [jsonInt, hcast, hfound, ipParse_saved (hok.addresses port), Bool.true_or]
  rw [Router.withInterface]
  by_cases hpositive : 0 < saved.interfaceVlans port
  · simp only [if_pos hpositive, hcastVlan]
  · simp only [if_neg hpositive]

/-- All interfaces of a list are loaded, one after the other. -/
theorem interfaceFromJson_foldl {n : Nat} {saved : Router} (hok : saved.TableOk n)
    (ports : List (Fin maxPort)) (hports : ∀ port ∈ ports, port.val < n) (router : Router) :
    (ports.map (saveInterface A saved)).foldl (interfaceFromJson n) router =
      { routingTable := router.routingTable
        interfaceIps := fun port =>
          if port ∈ ports then { hasIp := true, ipAddress := (saved.interfaceIps port).ipAddress }
          else router.interfaceIps port
        interfaceVlans := fun port =>
          if port ∈ ports ∧ 0 < saved.interfaceVlans port then saved.interfaceVlans port
          else router.interfaceVlans port } := by
  induction ports generalizing router with
  | nil => simp
  | cons first ports ih =>
      have hfirst := hports first List.mem_cons_self
      rw [List.map_cons, List.foldl_cons, interfaceFromJson_saved hok router hfirst,
        ih fun port hport => hports port (List.mem_cons_of_mem first hport)]
      rw [Router.withInterface, Router.mk.injEq]
      refine ⟨funext fun port => ?_, funext fun port => ?_, rfl⟩
      · by_cases hsame : port = first
        · simp [hsame]
        · simp [hsame]
      · by_cases hsame : port = first
        · by_cases hpositive : 0 < saved.interfaceVlans first
          · simp [hsame, hpositive]
          · simp [hsame, hpositive]
        · by_cases hpositive : 0 < saved.interfaceVlans first
          · simp [hsame, hpositive]
          · simp [hsame, hpositive]

/-- The routes that are loaded for the interfaces of a router depend on their addresses only. -/
theorem routerAddDirectRoutes_congr {n : Nat} {router router' : Router}
    (htable : router.routingTable = router'.routingTable)
    (haddress : ∀ port, port.val < n →
      (router.interfaceIps port).address = (router'.interfaceIps port).address) :
    (routerAddDirectRoutes n router).routingTable =
      (routerAddDirectRoutes n router').routingTable := by
  have hroute : ∀ r r' : Router, r.routingTable = r'.routingTable → ∀ destination outInterface,
      ((routerAddRoute n r destination ipZero outInterface).getD r).routingTable =
          ((routerAddRoute n r' destination ipZero outInterface).getD r').routingTable ∧
        ((routerAddRoute n r destination ipZero outInterface).getD r).interfaceIps =
          r.interfaceIps := by
    intro r r' hsame destination outInterface
    simp only [routerAddRoute, hsame]
    split_ifs
    · exact ⟨hsame, rfl⟩
    · exact ⟨hsame, rfl⟩
    · exact ⟨hsame, rfl⟩
    · exact ⟨rfl, rfl⟩
  -- The loops keep the addresses the routers started with, and make the same table of them.
  suffices hrelated : (routerAddDirectRoutes n router).routingTable =
        (routerAddDirectRoutes n router').routingTable ∧
      (routerAddDirectRoutes n router).interfaceIps = router.interfaceIps ∧
        (routerAddDirectRoutes n router').interfaceIps = router'.interfaceIps from hrelated.1
  rw [routerAddDirectRoutes, routerAddDirectRoutes]
  refine List.foldl_rel (r := fun r r' : Router => r.routingTable = r'.routingTable ∧
      r.interfaceIps = router.interfaceIps ∧ r'.interfaceIps = router'.interfaceIps)
    ⟨htable, rfl, rfl⟩ ?_
  rintro port hport r r' ⟨hsame, hips, hips'⟩
  have hport := haddress port (mem_nodePorts.mp hport)
  rw [RouterInterfaceAddress.address, RouterInterfaceAddress.address] at hport
  rw [hips, hips']
  by_cases hhas : (router.interfaceIps port).hasIp = true
  · rw [if_pos hhas] at hport ⊢
    by_cases hhas' : (router'.interfaceIps port).hasIp = true
    · rw [if_pos hhas'] at hport ⊢
      rw [Option.some.inj hport]
      exact ⟨(hroute r r' hsame _ _).1, (hroute r r' hsame _ _).2.trans hips,
        (hroute r' r hsame.symm _ _).2.trans hips'⟩
    · rw [if_neg hhas'] at hport
      cases hport
  · rw [if_neg hhas] at hport ⊢
    by_cases hhas' : (router'.interfaceIps port).hasIp = true
    · rw [if_pos hhas'] at hport
      cases hport
    · rw [if_neg hhas'] at hport ⊢
      exact ⟨hsame, hips, hips'⟩

/-- A route without the network bits of its next hop, which a file does not have. -/
def RoutingTableEntry.inFile (entry : RoutingTableEntry) : RoutingTableEntry :=
  { entry with nextHop := { entry.nextHop with prefixLen := 0 } }

theorem RoutingTableEntry.inFile_eq_self_iff {entry : RoutingTableEntry} :
    entry.inFile = entry ↔ entry.nextHop.prefixLen = 0 := by
  rcases entry with ⟨destination, ⟨octet0, octet1, octet2, octet3, prefixLen⟩, outInterface⟩
  simp [RoutingTableEntry.inFile, eq_comm]

theorem jsonObjectGet_saveRoute (entry : RoutingTableEntry) (key : Text) :
    jsonObjectGet (saveRoute A entry) key =
      ([(text "destination", jsonCreateString (ipToString entry.destination true)),
        (text "next_hop", jsonCreateString (ipToString entry.nextHop false)),
        (text "interface", jsonInt A entry.outInterface)].find?
          fun member => member.1 == key).map Prod.snd := by
  refine jsonObjectGet_objectOf ?_ key
  have hdestination : (text "destination").length < jsonMaxString := by decide
  have hnextHop : (text "next_hop").length < jsonMaxString := by decide
  have hinterface : (text "interface").length < jsonMaxString := by decide
  simp only [List.forall_mem_cons]
  exact ⟨hdestination, hnextHop, hinterface, fun _ h => (nomatch h)⟩

/-- A saved route is added again. -/
theorem routeFromJson_saved {n : Nat} (hn : n ≤ maxPort) {entry : RoutingTableEntry}
    (hok : entry.Ok n) (router : Router) :
    routeFromJson n router (saveRoute A entry) =
      (routerAddRoute n router entry.destination entry.inFile.nextHop entry.outInterface).getD
        router := by
  have hstring : ∀ (ip : IpAddress) includePrefix,
      (jsonCreateString (ipToString ip includePrefix) : JsonValue A.Double) =
        .string (ipToString ip includePrefix) := fun ip includePrefix =>
    jsonCreateString_eq (Nat.lt_of_le_of_lt (ipToString_length ip includePrefix) (by decide))
  have hdestination : jsonObjectGet (saveRoute A entry) (text "destination") =
      some (.string (ipToString entry.destination true)) := by
    rw [jsonObjectGet_saveRoute, ← hstring]
    rfl
  have hnextHop : jsonObjectGet (saveRoute A entry) (text "next_hop") =
      some (.string (ipToString entry.nextHop false)) := by
    rw [jsonObjectGet_saveRoute, ← hstring]
    rfl
  have hinterface : jsonObjectGet (saveRoute A entry) (text "interface") =
      some (jsonInt A entry.outInterface) := by
    rw [jsonObjectGet_saveRoute]
    rfl
  have hint : IsInt entry.outInterface := by
    have hmax : maxPort = 32 := rfl
    have hpos := hok.outInterface_pos
    have hle := hok.outInterface_le
    rw [IsInt]
    omega
  have hparsed : ipParse (ipToString entry.nextHop false) ipZero = (true, entry.inFile.nextHop) :=
    ipParse_ipToString entry.inFile.nextHop ipZero false (Nat.zero_le _)
  rw [routeFromJson, hdestination, hinterface, hnextHop]
  simp only [jsonInt, castInt_ofInt hint, ipParse_ipToString _ _ true hok.prefixLen, if_true, hparsed]

/-- A route is as good as in the file when it is compared with others. -/
theorem routesEqual_inFile (entry other : RoutingTableEntry) (destination : IpAddress)
    (outInterface : Int) :
    routesEqual entry.inFile destination other.inFile.nextHop outInterface =
      routesEqual entry destination other.nextHop outInterface := rfl

/-- The routes of a table are loaded in their order, where the first `direct` of them are there already. -/
theorem routeFromJson_foldl {n : Nat} (hn : n ≤ maxPort) {routes : List RoutingTableEntry}
    (hok : ∀ entry ∈ routes, entry.Ok n)
    (hdistinct : routes.Pairwise fun entry other =>
      routesEqual entry other.destination other.nextHop other.outInterface = false)
    (hlength : routes.length ≤ routerMaxRoutes) (direct : Nat) (rest before : List RoutingTableEntry)
    (hsplit : before ++ rest = routes) (router : Router)
    (htable : router.routingTable =
      (routes.take (max direct before.length)).map RoutingTableEntry.inFile) :
    (rest.map (saveRoute A)).foldl (routeFromJson n) router =
      { router with routingTable := routes.map RoutingTableEntry.inFile } := by
  induction rest generalizing before router with
  | nil =>
      rw [List.append_nil] at hsplit
      rw [hsplit, List.take_of_length_le (Nat.le_max_right _ _)] at htable
      rw [List.map_nil, List.foldl_nil, ← htable]
  | cons entry rest ih =>
      have hmem : entry ∈ routes := hsplit ▸ List.mem_append_right _ List.mem_cons_self
      have hentry := hok entry hmem
      have hat : routes[before.length]? = some entry := by
        rw [← hsplit, List.getElem?_append_right (Nat.le_refl _), Nat.sub_self]
        rfl
      have hnext : (before ++ [entry]) ++ rest = routes := by
        rw [List.append_assoc]
        exact hsplit
      have hlt : before.length < routes.length := (List.getElem?_eq_some_iff.mp hat).1
      have haccepted : ¬ (entry.outInterface < 1 ∨ (n : Int) < entry.outInterface ∨
          32 < entry.destination.prefixLen) := by
        have hbits : ¬ 32 < entry.destination.prefixLen := by
          rw [UInt8.lt_iff_toNat_lt]
          exact not_lt.mpr hentry.prefixLen
        have hpos := hentry.outInterface_pos
        have hle := hentry.outInterface_le
        simp only [hbits, or_false]
        omega
      rw [List.map_cons, List.foldl_cons, routeFromJson_saved hn hentry, routerAddRoute,
        if_neg haccepted, hentry.network]
      simp only
      by_cases hdirect : before.length < direct
      · -- The route is one of those that are there already.
        have hthere : (router.routingTable.any fun other => routesEqual other entry.destination
            entry.inFile.nextHop entry.outInterface) = true := by
          rw [htable, Nat.max_eq_left hdirect.le]
          refine List.any_eq_true.mpr ⟨entry.inFile, List.mem_map.mpr ⟨entry, ?_, rfl⟩, ?_⟩
          · refine List.mem_iff_getElem?.mpr ⟨before.length, ?_⟩
            rw [List.getElem?_take_of_lt hdirect, hat]
          · exact (routesEqual_inFile entry entry _ _).trans (routesEqual_self entry)
        rw [if_pos hthere, Option.getD_some]
        refine ih (before ++ [entry]) hnext router ?_
        rw [htable, List.length_append, List.length_singleton, Nat.max_eq_left hdirect.le,
          Nat.max_eq_left hdirect]
      · -- The route is new, and there is room for it.
        rw [not_lt] at hdirect
        rw [Nat.max_eq_right hdirect] at htable
        have htake : routes.take before.length = before := by
          rw [← hsplit, List.take_left]
        have hnew : ¬ (router.routingTable.any fun other => routesEqual other entry.destination
            entry.inFile.nextHop entry.outInterface) = true := by
          intro hthere
          rcases List.any_eq_true.mp hthere with ⟨other, hother, hequal⟩
          rw [htable, htake] at hother
          rcases List.mem_map.mp hother with ⟨earlier, hearlier, rfl⟩
          rw [← hsplit] at hdistinct
          have hne := (List.pairwise_append.mp hdistinct).2.2 earlier hearlier entry
            List.mem_cons_self
          rw [routesEqual_inFile, hne] at hequal
          cases hequal
        have hroom : ¬ routerMaxRoutes ≤ router.routingTable.length := by
          rw [htable, htake, List.length_map]
          omega
        rw [if_neg hnew, if_neg hroom, Option.getD_some]
        refine (ih (before ++ [entry]) hnext _ ?_).trans rfl
        rw [List.length_append, List.length_singleton,
          Nat.max_eq_right (Nat.le_succ_of_le hdirect), htable, List.take_add_one, hat,
          Option.toList_some, List.map_append, List.map_singleton]
        rfl

/-- Direct routes have no next hop. -/
theorem directRoutes_nextHop (n : Nat) (router : Router) :
    ∀ entry ∈ directRoutes n router, entry.nextHop = ipZero := by
  rw [directRoutes, routerAddDirectRoutes]
  refine List.foldlRecOn _ _
    (motive := fun router' : Router => ∀ entry ∈ router'.routingTable, entry.nextHop = ipZero)
    (fun entry hentry => absurd hentry List.not_mem_nil) fun router' h port _ => ?_
  split_ifs
  · cases hadd : routerAddRoute n router' (router'.interfaceIps port).ipAddress ipZero
      (interfacePortNumber port) with
    | none => exact h
    | some added =>
        rcases routerAddRoute_eq_some hadd with rfl | ⟨-, -, -, -, -, rfl⟩
        · exact h
        · intro entry hentry
          rcases List.mem_append.mp hentry with hold | hlast
          · exact h entry hold
          · rw [List.mem_singleton.mp hlast]
  · exact h

/-- What comes back of a router with as many ports as it had. -/
def Router.inFile (n : Nat) (router : Router) : Router :=
  { interfaceIps := fun port =>
      if port.val < n ∧ (router.interfaceIps port).hasIp then
        { hasIp := true, ipAddress := (router.interfaceIps port).ipAddress }
      else
        { hasIp := false, ipAddress := ipZero }
    interfaceVlans := fun port =>
      if port.val < n ∧ (router.interfaceIps port).hasIp ∧ 0 < router.interfaceVlans port then
        router.interfaceVlans port
      else
        0
    routingTable := router.routingTable.map RoutingTableEntry.inFile }

theorem jsonItems_objectOf {members : List (Text × JsonValue A.Double)}
    (hkeys : ∀ member ∈ members, member.1.length < jsonMaxString) {key : Text}
    {items : List (JsonValue A.Double)} (hitems : items.length ≤ jsonMaxArray)
    (hfind : (members.find? fun member => member.1 == key).map Prod.snd = some (jsonArrayOf items)) :
    jsonItems (jsonObjectOf members) key = items := by
  rw [jsonItems, jsonObjectGet_objectOf hkeys, hfind, jsonArrayOf_eq hitems]

theorem saveRouter_keys (name : Text) (n : Nat) (router : Router) :
    ∀ member ∈ ([(text "name", jsonCreateString name),
      (text "interfaces", jsonArrayOf
        (((nodePorts n).filter fun port => (router.interfaceIps port).hasIp).map
          (saveInterface A router))),
      (text "routing_table", jsonArrayOf (router.routingTable.map (saveRoute A)))] :
        List (Text × JsonValue A.Double)), member.1.length < jsonMaxString := by
  have hname : (text "name").length < jsonMaxString := by decide
  have hinterfaces : (text "interfaces").length < jsonMaxString := by decide
  have htable : (text "routing_table").length < jsonMaxString := by decide
  simp only [List.forall_mem_cons]
  exact ⟨hname, hinterfaces, htable, fun _ h => (nomatch h)⟩

theorem saveRouter_name {name : Text} (hname : name.length < maxName) (n : Nat) (router : Router) :
    jsonObjectGet (saveRouter A name n router) (text "name") = some (.string name) := by
  rw [← jsonCreateString_eq (Nat.lt_trans hname (by decide))]
  exact jsonObjectGet_objectOf (saveRouter_keys name n router) _

/-- The arrays of a saved router. -/
theorem jsonItems_saveRouter (name : Text) (n : Nat) {router : Router}
    (hlength : router.routingTable.length ≤ routerMaxRoutes) :
    jsonItems (saveRouter A name n router) (text "interfaces") =
        ((nodePorts n).filter fun port => (router.interfaceIps port).hasIp).map
          (saveInterface A router) ∧
      jsonItems (saveRouter A name n router) (text "routing_table") =
        router.routingTable.map (saveRoute A) := by
  refine ⟨jsonItems_objectOf (saveRouter_keys name n router) ?_ rfl,
    jsonItems_objectOf (saveRouter_keys name n router) ?_ rfl⟩
  · rw [List.length_map]
    exact (List.length_filter_le _ _).trans ((nodePorts_length n).trans (by decide))
  · rw [List.length_map]
    exact hlength.trans (by decide)

/-- A saved router is loaded into a new one with as many ports. -/
theorem routerFromJson_saved {n : Nat} (hn : n ≤ maxPort) (name : Text) {router : Router}
    (hok : router.Ok n) :
    routerFromJson (saveRouter A name n router) n routerInit = router.inFile n := by
  rcases @jsonItems_saveRouter A name n router hok.length_le with ⟨hinterfaces, hroutes⟩
  have hmem : ∀ port, port ∈ (nodePorts n).filter (fun port => (router.interfaceIps port).hasIp) ↔
      port.val < n ∧ (router.interfaceIps port).hasIp = true := by
    intro port
    rw [List.mem_filter, mem_nodePorts]
  -- The router with its interfaces, before it has any route.
  have hloaded : (((nodePorts n).filter fun port => (router.interfaceIps port).hasIp).map
      (saveInterface A router)).foldl (interfaceFromJson n) routerInit =
        { router.inFile n with routingTable := [] } := by
    rw [interfaceFromJson_foldl hok.toTableOk _ fun port hport => ((hmem port).mp hport).1]
    simp only [hmem, Router.inFile, routerInit, and_assoc]
  rw [routerFromJson, hinterfaces, hroutes, hloaded]
  have hloadedOk : ({ router.inFile n with routingTable := [] } : Router).TableOk n := by
    refine ⟨fun port => ?_, fun port => ?_, fun entry hentry => absurd hentry List.not_mem_nil,
      List.Pairwise.nil, Nat.zero_le _⟩
    · simp only [Router.inFile]
      split_ifs
      · exact hok.addresses port
      · exact Nat.zero_le _
    · simp only [Router.inFile]
      split_ifs
      · exact hok.vlans port
      · exact ⟨by decide, by decide⟩
  have hmore := hloadedOk.addDirectRoutes
  generalize hdirect : routerAddDirectRoutes n { router.inFile n with routingTable := [] } = direct
    at hmore ⊢
  have htable : direct.routingTable = directRoutes n router := by
    rw [← hdirect]
    refine routerAddDirectRoutes_congr rfl fun port hport => ?_
    simp only [Router.inFile, RouterInterfaceAddress.address]
    by_cases hhas : (router.interfaceIps port).hasIp = true
    · simp [hport, hhas]
    · simp [hhas]
  have hstart : direct.routingTable =
      (router.routingTable.take (max (directRoutes n router).length ([] : List RoutingTableEntry).length)).map
        RoutingTableEntry.inFile := by
    rw [htable, List.length_nil, Nat.max_zero, ← List.prefix_iff_eq_take.mp hok.direct]
    refine ((List.map_congr_left fun entry hentry => ?_).trans (List.map_id _)).symm
    refine RoutingTableEntry.inFile_eq_self_iff.mpr ?_
    rw [directRoutes_nextHop n router entry hentry]
    rfl
  rw [routeFromJson_foldl hn hok.routes hok.distinct hok.length_le _ _ [] rfl direct hstart,
    hmore.interfaceIps, hmore.interfaceVlans]
  rfl

/-! ## Creating nodes -/

/-- `calloc` never fails for a node, and never gives the memory of another one. -/
def EnoughMemory (alloc : Nat → Option Nat) : Prop :=
  ∀ i, i < simulatorMaxNodes → ∃ address, alloc i = some address ∧
    ∀ j, j < i → alloc j ≠ some address

/-- The state in which nodes with these views have been created, and no links yet. -/
structure Built (alloc : Nat → Option Nat) (views : List NodeView) (s : Simulator A) : Prop where
  nodeViews : s.nodeViews = views
  addresses : s.nodes.map (some ∘ SimulatorNodeEntry.node) = (List.range views.length).map alloc
  linkCount : s.linkCount = 0
  names : ∀ entry ∈ s.nodes, (s.heap entry.node).name = entry.name
  unlinked : ∀ entry ∈ s.nodes, ∀ port, (s.heap entry.node).link port = none

namespace Built

variable {alloc : Nat → Option Nat} {views : List NodeView} {s : Simulator A}

theorem length (h : Built alloc views s) : s.nodes.length = views.length := by
  rw [← h.nodeViews, Simulator.nodeViews, List.length_map]

theorem not_found (h : Built alloc views s) {name : Text} (hnew : ∀ view ∈ views, view.name ≠ name) :
    simulatorFindNode s name = none := by
  rw [simulatorFindNode, List.findIdx?_eq_none_iff]
  intro entry hentry
  refine beq_eq_false_iff_ne.mpr (hnew (s.nodeView entry) ?_)
  rw [← h.nodeViews]
  exact List.mem_map_of_mem hentry

theorem fresh (h : Built alloc views s) {address : Nat}
    (hfresh : ∀ j, j < views.length → alloc j ≠ some address) : ¬ s.InUse address := by
  rintro ⟨entry, hentry, rfl⟩
  have hmem : some entry.node ∈ s.nodes.map (some ∘ SimulatorNodeEntry.node) :=
    List.mem_map.mpr ⟨entry, hentry, rfl⟩
  rw [h.addresses] at hmem
  rcases List.mem_map.mp hmem with ⟨j, hj, halloc⟩
  exact hfresh j (List.mem_range.mp hj) halloc

/-- A node with a new name is created and configured. -/
theorem loadNode (h : Built alloc views s) (hmemory : EnoughMemory alloc)
    (hroom : views.length < simulatorMaxNodes) {type : Text} {nodeType : SimulatorNodeType}
    (htype : parseNodeType type = some nodeType) {name : Text} (hname : name.length < maxName)
    (hnew : ∀ view ∈ views, view.name ≠ name) (requestedPorts : Int) {configure : Node → Device}
    {device : Device}
    (hconfigure : ∀ node : Node, node.numInterfaces = requestedPortCount requestedPorts →
      node.device = deviceInit nodeType → configure node = device) :
    ∃ s', MagiStack.loadNode alloc s type name requestedPorts configure = .ok s' ∧
      Built alloc (views ++ [{ name := name, type := nodeType
                               numInterfaces := requestedPortCount requestedPorts
                               device := device.view (requestedPortCount requestedPorts) }]) s' := by
  rcases hmemory views.length hroom with ⟨address, halloc, hdistinct⟩
  have hunused := h.fresh hdistinct
  have hcalloc : s.calloc (alloc s.nodes.length) = some address := by
    rw [h.length, halloc]
    exact Option.filter_eq_some_iff.mpr ⟨rfl, by simpa using hunused⟩
  have hfind := h.not_found hnew
  have hstored : strncpyTerminated name maxName = name :=
    List.take_of_length_le (Nat.le_pred_of_lt hname)
  have hcreate := Simulator.simulatorCreateNode_created htype hfind (h.length ▸ hroom) requestedPorts
    address
  have hentry := @TopologyOk.created_findEntry _ s address nodeType name requestedPorts hfind
  rw [if_pos hstored] at hentry
  generalize hs' : s.created nodeType name requestedPorts address = s' at hcreate hentry
  refine ⟨s'.setDevice address (configure (s'.heap address)), ?_, ?_⟩
  · rw [MagiStack.loadNode, hcalloc, hcreate]
    simp only [hentry]
  -- The new node as it was created, and the others as they were.
  have hnewNode : (s'.heap address).name = name ∧
      (s'.heap address).numInterfaces = requestedPortCount requestedPorts ∧
      (s'.heap address).link = (fun _ => none) ∧
      configure (s'.heap address) = device := by
    rw [← hs']
    have hheap : (s.created nodeType name requestedPorts address).heap address =
        { name := strncpyTerminated name maxName
          numInterfaces := requestedPortCount requestedPorts
          numInterfaces_le := Nat.min_le_right _ _
          link := fun _ => none
          device := deviceInit nodeType } := Function.update_self _ _ _
    rw [hheap]
    exact ⟨hstored, rfl, rfl, hconfigure _ rfl rfl⟩
  have hnodes : s'.nodes = s.nodes ++ [{ name := name, type := nodeType, node := address }] := by
    rw [← hs', Simulator.created, hstored]
  have hold : ∀ entry ∈ s.nodes, entry.node ≠ address ∧
      (s'.setDevice address (configure (s'.heap address))).heap entry.node = s.heap entry.node := by
    intro entry hentry
    have hne : entry.node ≠ address := fun heq => hunused ⟨entry, hentry, heq⟩
    refine ⟨hne, ?_⟩
    simp only [Simulator.setDevice, Function.update_of_ne hne]
    rw [← hs', Simulator.created_heap_of_ne s nodeType name requestedPorts hne]
  have hself : (s'.setDevice address (configure (s'.heap address))).heap address =
      { s'.heap address with device := configure (s'.heap address) } := Function.update_self _ _ _
  rcases hnewNode with ⟨hnodeName, hnum, hlink, hdevice⟩
  refine ⟨?_, ?_, ?_, fun entry hentry => ?_, fun entry hentry port => ?_⟩
  · have hviews : s.nodes.map (s'.setDevice address (configure (s'.heap address))).nodeView =
        views := by
      rw [← h.nodeViews]
      refine List.map_congr_left fun entry hentry => ?_
      rw [Simulator.nodeView, (hold entry hentry).2]
      rfl
    change s'.nodes.map _ = _
    rw [hnodes, List.map_append, hviews, List.map_singleton, Simulator.nodeView, hself]
    simp only [hnum, hdevice]
  · change s'.nodes.map _ = _
    rw [hnodes, List.map_append, h.addresses, List.length_append, List.length_singleton,
      List.range_succ, List.map_append, List.map_singleton, List.map_singleton, halloc]
    rfl
  · change s'.linkCount = 0
    rw [← hs']
    exact h.linkCount
  · change entry ∈ s'.nodes at hentry
    rw [hnodes] at hentry
    rcases List.mem_append.mp hentry with hmem | hlast
    · rw [(hold entry hmem).2]
      exact h.names entry hmem
    · rw [List.mem_singleton.mp hlast, hself]
      exact hnodeName
  · change entry ∈ s'.nodes at hentry
    rw [hnodes] at hentry
    rcases List.mem_append.mp hentry with hmem | hlast
    · rw [(hold entry hmem).2]
      exact h.unlinked entry hmem port
    · rw [List.mem_singleton.mp hlast, hself]
      simp only [hlink]

end Built

/-! ## The nodes of a file -/

/-- What comes back of a node: a host has one port and a router eight. -/
def Simulator.viewInFile (s : Simulator A) (entry : SimulatorNodeEntry) : NodeView :=
  match (s.heap entry.node).device with
  | .host _ => { s.nodeView entry with numInterfaces := 1 }
  | .switch _ => s.nodeView entry
  | .router router =>
      { s.nodeView entry with
        numInterfaces := 8
        device := (Device.router (routerFromJson (saveRouter A entry.name
          (s.heap entry.node).numInterfaces router) 8 routerInit)).view 8 }

theorem viewInFile_name (s : Simulator A) (entry : SimulatorNodeEntry) :
    (s.viewInFile entry).name = entry.name ∧ (s.viewInFile entry).type = entry.type := by
  rw [Simulator.viewInFile]
  split
  · exact ⟨rfl, rfl⟩
  · exact ⟨rfl, rfl⟩
  · exact ⟨rfl, rfl⟩

section Stages

variable {alloc : Nat → Option Nat} {views : List NodeView} {s s' : Simulator A}
  {entry : SimulatorNodeEntry}

/-- An item is loaded to the view of its node, when the name is new. -/
def LoadsTo (alloc : Nat → Option Nat) (entry : SimulatorNodeEntry) (view : NodeView)
    (result : Simulator A → Except (Simulator A) (Simulator A)) : Prop :=
  ∀ views s, Built alloc views s → views.length < simulatorMaxNodes →
    (∀ other ∈ views, other.name ≠ entry.name) →
    ∃ s', result s = .ok s' ∧ Built alloc (views ++ [view]) s'

theorem EntryOk.type_of_host {node : Node} (h : EntryOk entry node) {host : Host}
    (hdevice : node.device = .host host) : entry.type = .host ∧ host.Ok := by
  have hok := h.device
  rw [hdevice] at hok
  cases htype : entry.type with
  | host => exact ⟨rfl, by rwa [htype] at hok⟩
  | switch =>
      rw [htype] at hok
      exact hok.elim
  | router =>
      rw [htype] at hok
      exact hok.elim

theorem EntryOk.type_of_switch {node : Node} (h : EntryOk entry node)
    {portConfigs : Fin maxPort → SwitchPortConfig} (hdevice : node.device = .switch portConfigs) :
    entry.type = .switch ∧ ∀ port, (portConfigs port).Ok := by
  have hok := h.device
  rw [hdevice] at hok
  cases htype : entry.type with
  | switch => exact ⟨rfl, by rwa [htype] at hok⟩
  | host =>
      rw [htype] at hok
      exact hok.elim
  | router =>
      rw [htype] at hok
      exact hok.elim

theorem EntryOk.type_of_router {node : Node} (h : EntryOk entry node) {router : Router}
    (hdevice : node.device = .router router) :
    entry.type = .router ∧ router.Ok node.numInterfaces := by
  have hok := h.device
  rw [hdevice] at hok
  cases htype : entry.type with
  | router => exact ⟨rfl, by rwa [htype] at hok⟩
  | host =>
      rw [htype] at hok
      exact hok.elim
  | switch =>
      rw [htype] at hok
      exact hok.elim

theorem loadHost_saved (hmemory : EnoughMemory alloc) (hentry : EntryOk entry (s.heap entry.node))
    {host : Host} (hdevice : (s.heap entry.node).device = .host host) :
    LoadsTo alloc entry (s.viewInFile entry) fun s' : Simulator A =>
      loadHost alloc s' (saveHost A entry.name host) := by
  intro views s' hbuilt hroom hnew
  rcases hentry.type_of_host hdevice with ⟨htype, hok⟩
  have hname := @saveHost_name A _ hentry.name_lt host
  have hparse : parseNodeType (text "host") = some .host := by decide
  -- The new host, with the addresses of the old one when that has any.
  let loaded : Host :=
    if host.hasIp then host else { hasIp := false, ipAddress := ipZero, defaultGateway := ipZero }
  have hview : s.viewInFile entry =
      { name := entry.name, type := .host, numInterfaces := requestedPortCount 1
        device := Device.view (requestedPortCount 1) (.host loaded) } := by
    simp only [Simulator.viewInFile, hdevice, Simulator.nodeView, htype, Device.view, loaded]
    cases hhas : host.hasIp with
    | false => rfl
    | true =>
        simp only [if_true, hhas]
        rfl
  simp only [loadHost, hname, hview]
  refine hbuilt.loadNode hmemory hroom hparse hentry.name_lt hnew 1 fun node _ hnode => ?_
  rw [hnode, deviceInit]
  exact congrArg Device.host (hostFromJson_saved entry.name hok _)

theorem loadSwitch_saved (hmemory : EnoughMemory alloc) (hentry : EntryOk entry (s.heap entry.node))
    {portConfigs : Fin maxPort → SwitchPortConfig}
    (hdevice : (s.heap entry.node).device = .switch portConfigs) :
    LoadsTo alloc entry (s.viewInFile entry) fun s' : Simulator A =>
      loadSwitch alloc s'
        (saveSwitch A entry.name (s.heap entry.node).numInterfaces portConfigs) := by
  intro views s' hbuilt hroom hnew
  rcases hentry.type_of_switch hdevice with ⟨htype, hok⟩
  generalize hn : (s.heap entry.node).numInterfaces = n
  have hle : n ≤ maxPort := hn ▸ (s.heap entry.node).numInterfaces_le
  have hpos : 0 < n := hn ▸ hentry.numInterfaces_pos
  have hname := @saveSwitch_name A _ hentry.name_lt n portConfigs
  have hports : jsonObjectGet (saveSwitch A entry.name n portConfigs) (text "num_ports") =
      some (jsonInt A n) := jsonObjectGet_objectOf (saveSwitch_keys entry.name n portConfigs) _
  have hvlans : jsonItems (saveSwitch A entry.name n portConfigs) (text "vlans") =
      ((nodePorts n).filter fun port => !(portConfigs port).isDefault).map
        fun port => saveVlan A port (portConfigs port) := by
    refine jsonItems_objectOf (saveSwitch_keys entry.name n portConfigs) ?_ rfl
    rw [List.length_map]
    exact (List.length_filter_le _ _).trans ((nodePorts_length n).trans (by decide))
  have hcast : castInt A (A.ofInt n) = n := by
    have hmax : maxPort = 32 := rfl
    exact castInt_ofInt ⟨by omega, by omega⟩
  have hcount : requestedPortCount n = n := by
    rw [requestedPortCount, if_pos (by omega)]
    exact Nat.min_eq_left hle
  have hparse : parseNodeType (text "switch") = some .switch := by decide
  -- The ports that are not written have the configuration of a new switch.
  let loaded : Fin maxPort → SwitchPortConfig := fun port =>
    if port.val < n then portConfigs port else { mode := .access, vlanId := switchDefaultVlanId }
  have hview : s.viewInFile entry =
      { name := entry.name, type := .switch, numInterfaces := requestedPortCount n
        device := Device.view (requestedPortCount n) (.switch loaded) } := by
    simp only [Simulator.viewInFile, hdevice, Simulator.nodeView, htype, Device.view, hn, hcount,
      NodeView.mk.injEq, DeviceView.switch.injEq, true_and]
    refine List.map_congr_left fun port hport => ?_
    exact (if_pos (mem_nodePorts.mp hport)).symm
  simp only [loadSwitch, hname, hports, jsonInt, hcast, hvlans, hview]
  refine hbuilt.loadNode hmemory hroom hparse hentry.name_lt hnew n fun node hnum hnode => ?_
  rw [hnode, deviceInit]
  refine congrArg Device.switch ?_
  rw [switchFromJson_foldl hok]
  · funext port
    simp only [List.mem_filter, mem_nodePorts, loaded]
    by_cases hport : port.val < n
    · by_cases hdefault : (portConfigs port).isDefault = true
      · simp [hport, SwitchPortConfig.eq_of_isDefault hdefault, Node.toSwitch]
      · simp [hport, hdefault]
    · simp [hport, Node.toSwitch]
  · intro port hport
    change port.val < node.numInterfaces
    rw [hnum, hcount]
    exact mem_nodePorts.mp (List.mem_filter.mp hport).1

theorem loadRouter_saved (hmemory : EnoughMemory alloc) (hentry : EntryOk entry (s.heap entry.node))
    {router : Router} (hdevice : (s.heap entry.node).device = .router router) :
    LoadsTo alloc entry (s.viewInFile entry) fun s' : Simulator A =>
      loadRouter alloc s' (saveRouter A entry.name (s.heap entry.node).numInterfaces router) := by
  intro views s' hbuilt hroom hnew
  rcases hentry.type_of_router hdevice with ⟨htype, -⟩
  have hname := @saveRouter_name A _ hentry.name_lt (s.heap entry.node).numInterfaces router
  have hparse : parseNodeType (text "router") = some .router := by decide
  have hcount : requestedPortCount 8 = 8 := by decide
  have hview : s.viewInFile entry =
      { name := entry.name, type := .router, numInterfaces := requestedPortCount 8
        device := Device.view (requestedPortCount 8) (.router (routerFromJson
          (saveRouter A entry.name (s.heap entry.node).numInterfaces router) 8 routerInit)) } := by
    simp only [Simulator.viewInFile, hdevice, Simulator.nodeView, htype, hcount]
  simp only [loadRouter, hname, hview]
  refine hbuilt.loadNode hmemory hroom hparse hentry.name_lt hnew 8 fun node hnum hnode => ?_
  rw [hnode, deviceInit, hnum, hcount]

/-- The nodes of one type are loaded in their order. -/
theorem Built.stage (h : Built alloc views s') (type : SimulatorNodeType)
    {save : SimulatorNodeEntry → Option (JsonValue A.Double)}
    {load : Simulator A → JsonValue A.Double → Except (Simulator A) (Simulator A)}
    {entries : List SimulatorNodeEntry}
    (hother : ∀ entry ∈ entries, entry.type ≠ type → save entry = none)
    (hsave : ∀ entry ∈ entries, entry.type = type → ∃ item, save entry = some item ∧
      LoadsTo alloc entry (s.viewInFile entry) fun s' => load s' item)
    (hnew : ∀ entry ∈ entries, entry.type = type → ∀ view ∈ views, view.name ≠ entry.name)
    (hnames : (entries.map SimulatorNodeEntry.name).Nodup)
    (hroom : views.length + (entries.filter fun entry => entry.type = type).length ≤
      simulatorMaxNodes) :
    ∃ s'', (entries.filterMap save).foldlM load s' = .ok s'' ∧
      Built alloc (views ++ (entries.filter fun entry => entry.type = type).map s.viewInFile) s'' := by
  induction entries generalizing views s' with
  | nil => exact ⟨s', rfl, by simpa using h⟩
  | cons entry entries ih =>
      have hotherRest := fun other hmem => hother other (List.mem_cons_of_mem entry hmem)
      have hsaveRest := fun other hmem => hsave other (List.mem_cons_of_mem entry hmem)
      rw [List.map_cons, List.nodup_cons] at hnames
      by_cases htype : entry.type = type
      · rcases hsave entry List.mem_cons_self htype with ⟨item, hitem, hload⟩
        rw [List.filter_cons_of_pos (by simpa using htype), List.length_cons] at hroom
        rcases hload views s' h (by omega) (hnew entry List.mem_cons_self htype) with
          ⟨s₁, hstep, hbuilt⟩
        change load s' item = .ok s₁ at hstep
        -- The names that follow differ from this one too.
        have hnewRest : ∀ other ∈ entries, other.type = type →
            ∀ view ∈ views ++ [s.viewInFile entry], view.name ≠ other.name := by
          intro other hmem hsame view hview
          rcases List.mem_append.mp hview with hold | hlast
          · exact hnew other (List.mem_cons_of_mem entry hmem) hsame view hold
          · rw [List.mem_singleton.mp hlast, (viewInFile_name s entry).1]
            exact fun heq => hnames.1 (List.mem_map.mpr ⟨other, hmem, heq.symm⟩)
        rcases ih hbuilt hotherRest hsaveRest hnewRest hnames.2
          (by rw [List.length_append, List.length_singleton]; omega) with ⟨s₂, hrest, hdone⟩
        refine ⟨s₂, ?_, ?_⟩
        · rw [List.filterMap_cons_some hitem, List.foldlM_cons, hstep]
          exact hrest
        · rw [List.filter_cons_of_pos (by simpa using htype), List.map_cons]
          rwa [List.append_assoc] at hdone
      · rw [List.filter_cons_of_neg (by simpa using htype)] at hroom ⊢
        rw [List.filterMap_cons_none (hother entry List.mem_cons_self htype)]
        exact ih h hotherRest hsaveRest
          (fun other hmem => hnew other (List.mem_cons_of_mem entry hmem)) hnames.2 hroom

end Stages

/-- The entries of one type. -/
def Simulator.ofType (s : Simulator A) (type : SimulatorNodeType) : List SimulatorNodeEntry :=
  s.nodes.filter fun entry => entry.type = type

/-- The entries in the order of a file. -/
def Simulator.fileEntries (s : Simulator A) : List SimulatorNodeEntry :=
  s.ofType .host ++ s.ofType .switch ++ s.ofType .router

theorem fileEntries_perm (s : Simulator A) : s.fileEntries.Perm s.nodes := by
  have hhosts := List.filter_append_perm (fun entry => decide (entry.type = .host)) s.nodes
  have hothers := List.filter_append_perm (fun entry => decide (entry.type = .switch))
    (s.nodes.filter fun entry => !decide (entry.type = .host))
  have hswitch : (s.nodes.filter fun entry => !decide (entry.type = .host)).filter
      (fun entry => decide (entry.type = .switch)) = s.ofType .switch := by
    rw [Simulator.ofType, List.filter_filter]
    refine List.filter_congr fun entry _ => ?_
    cases entry.type with
    | host => rfl
    | switch => rfl
    | router => rfl
  have hrouter : (s.nodes.filter fun entry => !decide (entry.type = .host)).filter
      (fun entry => !decide (entry.type = .switch)) = s.ofType .router := by
    rw [Simulator.ofType, List.filter_filter]
    refine List.filter_congr fun entry _ => ?_
    cases entry.type with
    | host => rfl
    | switch => rfl
    | router => rfl
  rw [hswitch, hrouter] at hothers
  rw [Simulator.fileEntries, List.append_assoc]
  exact (hothers.append_left _).trans hhosts

/-- The four arrays of a file. -/
theorem jsonItems_saveRoot {hosts switches routers links : List (JsonValue A.Double)}
    (hhosts : hosts.length ≤ jsonMaxArray) (hswitches : switches.length ≤ jsonMaxArray)
    (hrouters : routers.length ≤ jsonMaxArray) (hlinks : links.length ≤ jsonMaxArray) :
    jsonItems (saveRoot A hosts switches routers links) (text "hosts") = hosts ∧
      jsonItems (saveRoot A hosts switches routers links) (text "switches") = switches ∧
      jsonItems (saveRoot A hosts switches routers links) (text "routers") = routers ∧
      jsonItems (saveRoot A hosts switches routers links) (text "links") = links := by
  have hkeys : ∀ member ∈ ([(text "hosts", jsonArrayOf hosts), (text "switches", jsonArrayOf switches),
      (text "routers", jsonArrayOf routers), (text "links", jsonArrayOf links)] :
        List (Text × JsonValue A.Double)), member.1.length < jsonMaxString := by
    have hkeyHosts : (text "hosts").length < jsonMaxString := by decide
    have hkeySwitches : (text "switches").length < jsonMaxString := by decide
    have hkeyRouters : (text "routers").length < jsonMaxString := by decide
    have hkeyLinks : (text "links").length < jsonMaxString := by decide
    simp only [List.forall_mem_cons]
    exact ⟨hkeyHosts, hkeySwitches, hkeyRouters, hkeyLinks, fun _ h => (nomatch h)⟩
  exact ⟨jsonItems_objectOf hkeys hhosts rfl, jsonItems_objectOf hkeys hswitches rfl,
    jsonItems_objectOf hkeys hrouters rfl, jsonItems_objectOf hkeys hlinks rfl⟩

/-- Items of nodes fit into an array of the file. -/
theorem filterMap_nodes_length {s : Simulator A} (h : TopologyOk s)
    (save : SimulatorNodeEntry → Option (JsonValue A.Double)) :
    (s.nodes.filterMap save).length ≤ jsonMaxArray :=
  (List.length_filterMap_le _ _).trans (h.nodes_le.trans (by decide))

theorem savedNodes_length {s : Simulator A} (h : TopologyOk s) :
    (savedHosts s).length ≤ jsonMaxArray ∧ (savedSwitches s).length ≤ jsonMaxArray ∧
      (savedRouters s).length ≤ jsonMaxArray :=
  ⟨filterMap_nodes_length h _, filterMap_nodes_length h _, filterMap_nodes_length h _⟩

section Saved

variable {alloc : Nat → Option Nat} {views : List NodeView} {s s' : Simulator A}

/-- There is room for the nodes of a type, and their names are new. -/
structure RoomFor (s : Simulator A) (type : SimulatorNodeType) (views : List NodeView) : Prop where
  names : (s.nodes.map SimulatorNodeEntry.name).Nodup
  new : ∀ entry ∈ s.nodes, entry.type = type → ∀ view ∈ views, view.name ≠ entry.name
  room : views.length + (s.ofType type).length ≤ simulatorMaxNodes

theorem savedHosts_loaded (hmemory : EnoughMemory alloc) (hok : TopologyOk s)
    (h : Built alloc views s') (hroom : RoomFor s .host views) :
    ∃ s'', (savedHosts s).foldlM (loadHost alloc) s' = .ok s'' ∧
      Built alloc (views ++ (s.ofType .host).map s.viewInFile) s'' := by
  refine h.stage .host (fun entry _ htype => ?_) (fun entry hentry htype => ?_) hroom.new hroom.names
    hroom.room
  · cases hsame : entry.type with
    | host => exact absurd hsame htype
    | switch => rfl
    | router => rfl
  · have hentryOk := hok.entries entry hentry
    cases hdevice : (s.heap entry.node).device with
    | host host => exact ⟨_, by rw [htype], loadHost_saved hmemory hentryOk hdevice⟩
    | switch portConfigs => cases htype.symm.trans (hentryOk.type_of_switch hdevice).1
    | router router => cases htype.symm.trans (hentryOk.type_of_router hdevice).1

theorem savedSwitches_loaded (hmemory : EnoughMemory alloc) (hok : TopologyOk s)
    (h : Built alloc views s') (hroom : RoomFor s .switch views) :
    ∃ s'', (savedSwitches s).foldlM (loadSwitch alloc) s' = .ok s'' ∧
      Built alloc (views ++ (s.ofType .switch).map s.viewInFile) s'' := by
  refine h.stage .switch (fun entry _ htype => ?_) (fun entry hentry htype => ?_) hroom.new
    hroom.names hroom.room
  · cases hsame : entry.type with
    | host => rfl
    | switch => exact absurd hsame htype
    | router => rfl
  · have hentryOk := hok.entries entry hentry
    cases hdevice : (s.heap entry.node).device with
    | host host => cases htype.symm.trans (hentryOk.type_of_host hdevice).1
    | switch portConfigs => exact ⟨_, by rw [htype], loadSwitch_saved hmemory hentryOk hdevice⟩
    | router router => cases htype.symm.trans (hentryOk.type_of_router hdevice).1

theorem savedRouters_loaded (hmemory : EnoughMemory alloc) (hok : TopologyOk s)
    (h : Built alloc views s') (hroom : RoomFor s .router views) :
    ∃ s'', (savedRouters s).foldlM (loadRouter alloc) s' = .ok s'' ∧
      Built alloc (views ++ (s.ofType .router).map s.viewInFile) s'' := by
  refine h.stage .router (fun entry _ htype => ?_) (fun entry hentry htype => ?_) hroom.new
    hroom.names hroom.room
  · cases hsame : entry.type with
    | host => rfl
    | switch => rfl
    | router => exact absurd hsame htype
  · have hentryOk := hok.entries entry hentry
    cases hdevice : (s.heap entry.node).device with
    | host host => cases htype.symm.trans (hentryOk.type_of_host hdevice).1
    | switch portConfigs => cases htype.symm.trans (hentryOk.type_of_switch hdevice).1
    | router router => exact ⟨_, by rw [htype], loadRouter_saved hmemory hentryOk hdevice⟩

/-- All nodes of a file are created, and then its links are added. -/
theorem loadRoot_saved (hmemory : EnoughMemory alloc) (hok : TopologyOk s)
    (hnames : (s.nodes.map SimulatorNodeEntry.name).Nodup) (before : Simulator A)
    {links : List (JsonValue A.Double)} (hlinks : links.length ≤ jsonMaxArray) :
    ∃ s', Built alloc (s.fileEntries.map s.viewInFile) s' ∧
      loadRoot alloc before (saveRoot A (savedHosts s) (savedSwitches s) (savedRouters s) links) =
        .ok (links.foldl loadLink s') := by
  have hempty : Built alloc [] (simulatorClear before) :=
    ⟨rfl, rfl, rfl, fun entry hentry => absurd hentry List.not_mem_nil,
      fun entry hentry => absurd hentry List.not_mem_nil⟩
  have hcount : (s.ofType .host).length + (s.ofType .switch).length + (s.ofType .router).length ≤
      simulatorMaxNodes := by
    have hlength := (fileEntries_perm s).length_eq
    rw [Simulator.fileEntries, List.length_append, List.length_append] at hlength
    exact hlength ▸ hok.nodes_le
  -- A node of one type has not the name of a node of another.
  have hdiffer : ∀ type other, other ≠ type → ∀ entry ∈ s.nodes, entry.type = type →
      ∀ view ∈ (s.ofType other).map s.viewInFile, view.name ≠ entry.name := by
    rintro type other hne entry hentry rfl view hview hname
    rcases List.mem_map.mp hview with ⟨entry', hentry', rfl⟩
    rcases List.mem_filter.mp hentry' with ⟨hmem, htype⟩
    rw [(viewInFile_name s entry').1] at hname
    rw [List.inj_on_of_nodup_map hnames hmem hentry hname, decide_eq_true_eq] at htype
    exact hne htype.symm
  rcases savedHosts_loaded hmemory hok hempty
    ⟨hnames, fun _ _ _ _ hview => absurd hview List.not_mem_nil, by simp; omega⟩ with
    ⟨s₁, hhosts, hbuilt₁⟩
  rw [List.nil_append] at hbuilt₁
  rcases savedSwitches_loaded hmemory hok hbuilt₁
    ⟨hnames, hdiffer .switch .host (by decide), by simp; omega⟩ with ⟨s₂, hswitches, hbuilt₂⟩
  have hnew : ∀ entry ∈ s.nodes, entry.type = .router →
      ∀ view ∈ (s.ofType .host).map s.viewInFile ++ (s.ofType .switch).map s.viewInFile,
        view.name ≠ entry.name := by
    intro entry hentry htype view hview
    rcases List.mem_append.mp hview with hhost | hswitch
    · exact hdiffer .router .host (by decide) entry hentry htype view hhost
    · exact hdiffer .router .switch (by decide) entry hentry htype view hswitch
  rcases savedRouters_loaded hmemory hok hbuilt₂ ⟨hnames, hnew, by simp; omega⟩ with
    ⟨s₃, hrouters, hbuilt₃⟩
  refine ⟨s₃, ?_, ?_⟩
  · rwa [Simulator.fileEntries, List.map_append, List.map_append]
  · rcases savedNodes_length hok with ⟨hhostsLe, hswitchesLe, hroutersLe⟩
    rcases jsonItems_saveRoot hhostsLe hswitchesLe hroutersLe hlinks with
      ⟨hhostItems, hswitchItems, hrouterItems, hlinkItems⟩
    -- One stage after the other succeeds.
    have hbind : ∀ {r : Except (Simulator A) (Simulator A)} {s' : Simulator A}
        {f : Simulator A → Except (Simulator A) (Simulator A)}, r = .ok s' → (r >>= f) = f s' := by
      rintro r s' f rfl
      rfl
    rw [loadRoot, hhostItems, hswitchItems, hrouterItems, hlinkItems]
    exact (hbind hhosts).trans ((hbind hswitches).trans (hbind hrouters))

end Saved

end MagiStack
