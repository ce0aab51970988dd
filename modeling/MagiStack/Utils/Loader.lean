import MagiStack.Layer3.IpText
import MagiStack.Topology.Links
import MagiStack.Utils.Json

/-!
# Loader — saving a topology and loading it again

Embedding of `utils/loader.c`.  A file is its content.  Loading may stop at a node that cannot be created and
leave what it has loaded so far; the services it stops first are not part of the topology.
-/

namespace MagiStack

/-- A C string: no byte before its end is zero. -/
abbrev CString : Type := { s : Text // 0 ∉ s }

/-- The interfaces a loop over `NUM_INTERFACES` visits. -/
def nodePorts (numInterfaces : Nat) : List (Fin maxPort) :=
  (List.finRange maxPort).filter fun port => port.val < numInterfaces

section Save

variable (A : CFloat)

/-- `json_create_number` of an `int`. -/
def jsonInt (n : Int) : JsonValue A.Double :=
  .number (A.ofInt n)

/-- `json_create_string` of what `ip_address_to_string` writes. -/
def jsonAddress (ip : IpAddress) : JsonValue A.Double :=
  jsonCreateString (ipToString ip (0 < ip.prefixLen))

/-! ## Saving -/

/-- `simulator_save` of a host. -/
def saveHost (name : Text) (host : Host) : JsonValue A.Double :=
  jsonObjectOf ((text "name", jsonCreateString name) ::
    if host.hasIp then
      [(text "ip_address", jsonAddress A host.ipAddress),
        (text "default_gateway", jsonAddress A host.defaultGateway)]
    else
      [])

/-- The configuration that `simulator_save` leaves out. -/
def SwitchPortConfig.isDefault (config : SwitchPortConfig) : Bool :=
  config.mode = .access && config.vlanId = switchDefaultVlanId

/-- `simulator_save` of a switch port. -/
def saveVlan (port : Fin maxPort) (config : SwitchPortConfig) : JsonValue A.Double :=
  jsonObjectOf ((text "port", jsonInt A (interfacePortNumber port)) ::
    match config.mode with
    | .access =>
        [(text "mode", jsonCreateString (text "access")), (text "vlan_id", jsonInt A config.vlanId)]
    | .trunk => [(text "mode", jsonCreateString (text "trunk"))])

/-- `simulator_save` of a switch. -/
def saveSwitch (name : Text) (numInterfaces : Nat) (portConfigs : Fin maxPort → SwitchPortConfig) :
    JsonValue A.Double :=
  jsonObjectOf
    [(text "name", jsonCreateString name), (text "num_ports", jsonInt A numInterfaces),
      (text "vlans", jsonArrayOf
        (((nodePorts numInterfaces).filter fun port => !(portConfigs port).isDefault).map
          fun port => saveVlan A port (portConfigs port)))]

/-- `simulator_save` of a router interface. -/
def saveInterface (router : Router) (port : Fin maxPort) : JsonValue A.Double :=
  jsonObjectOf ((text "port", jsonInt A (interfacePortNumber port)) ::
    (text "ip_address", jsonAddress A (router.interfaceIps port).ipAddress) ::
    if 0 < router.interfaceVlans port then
      [(text "vlan_id", jsonInt A (router.interfaceVlans port))]
    else
      [])

/-- `simulator_save` of a route. -/
def saveRoute (entry : RoutingTableEntry) : JsonValue A.Double :=
  jsonObjectOf
    [(text "destination", jsonCreateString (ipToString entry.destination true)),
      (text "next_hop", jsonCreateString (ipToString entry.nextHop false)),
      (text "interface", jsonInt A entry.outInterface)]

/-- `simulator_save` of a router. -/
def saveRouter (name : Text) (numInterfaces : Nat) (router : Router) : JsonValue A.Double :=
  jsonObjectOf
    [(text "name", jsonCreateString name),
      (text "interfaces", jsonArrayOf
        (((nodePorts numInterfaces).filter fun port => (router.interfaceIps port).hasIp).map
          (saveInterface A router))),
      (text "routing_table", jsonArrayOf (router.routingTable.map (saveRoute A)))]

/-- `simulator_save` of a link between two endpoints. -/
def saveLink (endpoint1 endpoint2 : Text) (delay : A.Double) : JsonValue A.Double :=
  jsonObjectOf
    [(text "endpoints", jsonArrayOf [jsonCreateString endpoint1, jsonCreateString endpoint2]),
      (text "delay", .number delay)]

/-- The object `simulator_save` writes. -/
def saveRoot (hosts switches routers links : List (JsonValue A.Double)) : JsonValue A.Double :=
  jsonObjectOf
    [(text "hosts", jsonArrayOf hosts), (text "switches", jsonArrayOf switches),
      (text "routers", jsonArrayOf routers), (text "links", jsonArrayOf links)]

end Save

variable {A : CFloat}

/-- `"%s:%d"` of the node's name and the port number, in 128 bytes. -/
def endpointText (s : Simulator A) (iface : Interface) : Text :=
  strncpyTerminated ((s.heap iface.node).name ++ 58 :: printInt (iface.port + 1)) 128

/-- The hosts of a simulator, saved. -/
def savedHosts (s : Simulator A) : List (JsonValue A.Double) :=
  s.nodes.filterMap fun entry =>
    match entry.type, (s.heap entry.node).device with
    | .host, .host host => some (saveHost A entry.name host)
    | _, _ => none

/-- The switches of a simulator, saved. -/
def savedSwitches (s : Simulator A) : List (JsonValue A.Double) :=
  s.nodes.filterMap fun entry =>
    match entry.type, (s.heap entry.node).device with
    | .switch, .switch portConfigs =>
        some (saveSwitch A entry.name (s.heap entry.node).numInterfaces portConfigs)
    | _, _ => none

/-- The routers of a simulator, saved. -/
def savedRouters (s : Simulator A) : List (JsonValue A.Double) :=
  s.nodes.filterMap fun entry =>
    match entry.type, (s.heap entry.node).device with
    | .router, .router router =>
        some (saveRouter A entry.name (s.heap entry.node).numInterfaces router)
    | _, _ => none

/-- The links of a simulator, saved. -/
def savedLinks (s : Simulator A) : List (JsonValue A.Double) :=
  (List.range s.linkCount).filterMap fun i =>
    match (s.links i).interface1, (s.links i).interface2 with
    | some a, some b =>
        some (saveLink A (endpointText s a) (endpointText s b) (A.toDouble (s.links i).delay))
    | _, _ => none

/-- `simulator_save`: the content of the file it writes. -/
def simulatorSave (s : Simulator A) : Text :=
  jsonWrite A (saveRoot A (savedHosts s) (savedSwitches s) (savedRouters s) (savedLinks s)) 0 ++ [10]

/-! ## Loading -/

/-- `(int)` of a JSON number. -/
def castInt (A : CFloat) (n : A.Double) : Int :=
  (A.toInt n).bmod (2 ^ 32)

/-- The items of a member that is an array. -/
def jsonItems (obj : JsonValue A.Double) (key : Text) : List (JsonValue A.Double) :=
  match jsonObjectGet obj key with
  | some (.array items) => items
  | _ => []

/-- Sets what a node is besides its `Node base`. -/
def Simulator.setDevice (s : Simulator A) (address : Nat) (device : Device) : Simulator A :=
  { s with heap := Function.update s.heap address { s.heap address with device := device } }

/-- `simulator_load` creates a node, finds it again and configures it; `calloc` returns `alloc n` for the node
after `n` others. -/
def loadNode (alloc : Nat → Option Nat) (s : Simulator A) (type name : Text)
    (requestedPorts : Int) (configure : Node → Device) : Except (Simulator A) (Simulator A) :=
  match simulatorCreateNode s type name requestedPorts (s.calloc (alloc s.nodes.length)) with
  | none => .error s
  | some s =>
      match s.findEntry name with
      | none => .ok s
      | some entry => .ok (s.setDevice entry.node (configure (s.heap entry.node)))

/-- The address `simulator_load` gives a host. -/
def hostAddressFromJson (h : JsonValue A.Double) (host : Host) : Host :=
  match jsonObjectGet h (text "ip_address") with
  | some (.string str) =>
      let (parsed, ip) := ipParse str host.ipAddress
      { host with ipAddress := ip, hasIp := parsed || host.hasIp }
  | _ => host

/-- The gateway `simulator_load` gives a host that has an address. -/
def hostGatewayFromJson (h : JsonValue A.Double) (host : Host) : Host :=
  match jsonObjectGet h (text "default_gateway") with
  | some (.string str) =>
      if host.hasIp then { host with defaultGateway := (ipParse str host.defaultGateway).2 }
      else host
  | _ => host

/-- `simulator_load` of a host. -/
def loadHost (alloc : Nat → Option Nat) (s : Simulator A) (h : JsonValue A.Double) :
    Except (Simulator A) (Simulator A) :=
  match jsonObjectGet h (text "name") with
  | some (.string name) =>
      loadNode alloc s (text "host") name 1 fun node =>
        match node.device with
        | .host host => .host (hostGatewayFromJson h (hostAddressFromJson h host))
        | other => other
  | _ => .ok s

/-- A node with switch ports as a `Switch`. -/
def Node.toSwitch (node : Node) (portConfigs : Fin maxPort → SwitchPortConfig) : Switch :=
  { numInterfaces := node.numInterfaces
    numInterfaces_le := node.numInterfaces_le
    linked := fun port => (node.link port.val).isSome
    portConfigs := portConfigs
    macTable := switchMacTableInit }

/-- `simulator_load` of a switch port. -/
def switchFromJson (sw : Switch) (v : JsonValue A.Double) : Switch :=
  match jsonObjectGet v (text "port"), jsonObjectGet v (text "mode") with
  | some (.number port), some (.string mode) =>
      if mode = text "access" then
        let vlanId := match jsonObjectGet v (text "vlan_id") with
          | some (.number n) => castInt A n
          | _ => switchDefaultVlanId
        (switchSetAccessPort sw (castInt A port) vlanId).getD sw
      else if mode = text "trunk" then
        (switchSetTrunkPort sw (castInt A port)).getD sw
      else
        sw
  | _, _ => sw

/-- `simulator_load` of a switch. -/
def loadSwitch (alloc : Nat → Option Nat) (s : Simulator A) (v : JsonValue A.Double) :
    Except (Simulator A) (Simulator A) :=
  match jsonObjectGet v (text "name") with
  | some (.string name) =>
      let numPorts := match jsonObjectGet v (text "num_ports") with
        | some (.number n) => castInt A n
        | _ => 24
      loadNode alloc s (text "switch") name numPorts fun node =>
        match node.device with
        | .switch portConfigs =>
            .switch ((jsonItems v (text "vlans")).foldl switchFromJson
              (node.toSwitch portConfigs)).portConfigs
        | other => other
  | _ => .ok s

/-- The interface with a port number that `simulator_load` accepts. -/
def routerPort (numInterfaces : Nat) (port : Int) : Option (Fin maxPort) :=
  (nodePorts numInterfaces).find? fun p => interfacePortNumber p = port

/-- `simulator_load` of a router interface. -/
def interfaceFromJson (numInterfaces : Nat) (router : Router) (inf : JsonValue A.Double) : Router :=
  match jsonObjectGet inf (text "port"), jsonObjectGet inf (text "ip_address") with
  | some (.number n), some (.string str) =>
      match routerPort numInterfaces (castInt A n) with
      | none => router
      | some port =>
          let (parsed, ip) := ipParse str (router.interfaceIps port).ipAddress
          let router :=
            { router with
              interfaceIps := Function.update router.interfaceIps port
                { hasIp := parsed || (router.interfaceIps port).hasIp, ipAddress := ip } }
          match jsonObjectGet inf (text "vlan_id") with
          | some (.number vlan) =>
              { router with
                interfaceVlans := Function.update router.interfaceVlans port (castInt A vlan) }
          | _ => router
  | _, _ => router

/-- `simulator_load` of a route. -/
def routeFromJson (numInterfaces : Nat) (router : Router) (route : JsonValue A.Double) : Router :=
  match jsonObjectGet route (text "destination"), jsonObjectGet route (text "interface") with
  | some (.string dst), some (.number iface) =>
      match ipParse dst ipZero with
      | (false, _) => router
      | (true, destination) =>
          let nextHop := match jsonObjectGet route (text "next_hop") with
            | some (.string next) => (ipParse next ipZero).2
            | _ => ipZero
          (routerAddRoute numInterfaces router destination nextHop (castInt A iface)).getD router
  | _, _ => router

/-- `simulator_load` of a router after it is created. -/
def routerFromJson (r : JsonValue A.Double) (numInterfaces : Nat) (router : Router) : Router :=
  let router := (jsonItems r (text "interfaces")).foldl (interfaceFromJson numInterfaces) router
  let router := routerAddDirectRoutes numInterfaces router
  (jsonItems r (text "routing_table")).foldl (routeFromJson numInterfaces) router

/-- `simulator_load` of a router. -/
def loadRouter (alloc : Nat → Option Nat) (s : Simulator A) (r : JsonValue A.Double) :
    Except (Simulator A) (Simulator A) :=
  match jsonObjectGet r (text "name") with
  | some (.string name) =>
      loadNode alloc s (text "router") name 8 fun node =>
        match node.device with
        | .router router => .router (routerFromJson r node.numInterfaces router)
        | other => other
  | _ => .ok s

/-- `simulator_load` of a link. -/
def loadLink (s : Simulator A) (l : JsonValue A.Double) : Simulator A :=
  match jsonItems l (text "endpoints") with
  | .string endpoint1 :: .string endpoint2 :: _ =>
      let delay := match jsonObjectGet l (text "delay") with
        | some (.number n) => A.toSingle n
        | _ => A.zero
      (simulatorLink s endpoint1 endpoint2 delay).getD s
  | _ => s

/-- `simulator_load` of a parsed file. -/
def loadRoot (alloc : Nat → Option Nat) (s : Simulator A) (root : JsonValue A.Double) :
    Except (Simulator A) (Simulator A) := do
  let s ← (jsonItems root (text "hosts")).foldlM (loadHost alloc) (simulatorClear s)
  let s ← (jsonItems root (text "switches")).foldlM (loadSwitch alloc) s
  let s ← (jsonItems root (text "routers")).foldlM (loadRouter alloc) s
  .ok ((jsonItems root (text "links")).foldl loadLink s)

/-- `simulator_load` of a file: the simulator after it, as an error when it returns `0`. -/
def simulatorLoad (alloc : Nat → Option Nat) (s : Simulator A) (content : Text) :
    Except (Simulator A) (Simulator A) :=
  match jsonParse A (content.takeWhile (· ≠ 0)) with
  | some (.object members) => loadRoot alloc s (.object members)
  | _ => .error s

/-- `simulator_load`, when the file may not be readable. -/
def simulatorLoadFile (alloc : Nat → Option Nat) (s : Simulator A) (file : Option Text) :
    Except (Simulator A) (Simulator A) :=
  match file with
  | none => .error s
  | some content => simulatorLoad alloc s content

end MagiStack
