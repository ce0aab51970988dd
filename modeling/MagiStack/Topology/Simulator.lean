import MagiStack.Core.CFloat
import MagiStack.Layer3.Router

/-!
# Simulator — nodes, interfaces and the link table

Embedding of `simulator.c`, of `core/link.c` and of the node half of `core/interface.c`.  A node lives at
the address `calloc` gave it, an interface is a node's address and an index into its array, and an
interface's `link` pointer is the index of a slot of the link table, which has no entries beyond
`link_count` but still holds what was there before.
-/

namespace MagiStack

def maxName : Nat := 32
def simulatorMaxNodes : Nat := 128
def simulatorMaxLinks : Nat := 256
def simulatorMaxInterfaces : Nat := 4096

/-! ## Data -/

/-- An `Interface *`. -/
structure Interface where
  node : Nat
  port : Nat
  deriving DecidableEq, Repr

/-- `Link`. -/
structure Link (A : CFloat) where
  interface1 : Option Interface
  interface2 : Option Interface
  delay : A.Single

/-- The configuration of a `Host`. -/
structure Host where
  hasIp : Bool
  ipAddress : IpAddress
  defaultGateway : IpAddress
  deriving DecidableEq, Repr

/-- What a node is besides its `Node base`. -/
inductive Device
  | host (host : Host)
  | switch (portConfigs : Fin maxPort → SwitchPortConfig)
  | router (router : Router)

/-- `SimulatorNodeType`. -/
inductive SimulatorNodeType
  | host
  | switch
  | router
  deriving DecidableEq, Repr

/-- A `Host`, `Switch` or `Router` in memory; `link` gives the slots its interfaces point to. -/
structure Node where
  name : Text
  numInterfaces : Nat
  numInterfaces_le : numInterfaces ≤ maxPort
  link : Nat → Option Nat
  device : Device

/-- `SimulatorNodeEntry`. -/
structure SimulatorNodeEntry where
  name : Text
  type : SimulatorNodeType
  node : Nat
  deriving DecidableEq, Repr

/-- `Simulator` and the memory its nodes live in. -/
structure Simulator (A : CFloat) where
  nodes : List SimulatorNodeEntry
  heap : Nat → Node
  links : Nat → Link A
  linkCount : Nat
  interfaces : List Interface

variable {A : CFloat}

namespace Simulator

/-- `iface->link`. -/
def linkOf (s : Simulator A) (iface : Interface) : Option Nat :=
  (s.heap iface.node).link iface.port

/-- `iface->link = slot`. -/
def setLink (s : Simulator A) (iface : Interface) (slot : Option Nat) : Simulator A :=
  { s with
    heap := Function.update s.heap iface.node
      { s.heap iface.node with
        link := Function.update (s.heap iface.node).link iface.port slot } }

/-- `links[slot] = link`. -/
def setSlot (s : Simulator A) (slot : Nat) (link : Link A) : Simulator A :=
  { s with links := Function.update s.links slot link }

/-- The memory holds a node of the simulator. -/
def InUse (s : Simulator A) (address : Nat) : Prop :=
  ∃ entry ∈ s.nodes, entry.node = address

instance (s : Simulator A) (address : Nat) : Decidable (s.InUse address) :=
  inferInstanceAs (Decidable (∃ entry ∈ s.nodes, entry.node = address))

end Simulator

/-! ## Links -/

/-- `link_unlink` on a slot. -/
def linkUnlink (s : Simulator A) (slot : Nat) : Simulator A :=
  let link := s.links slot
  let s := link.interface1.elim s fun iface => s.setLink iface none
  let s := link.interface2.elim s fun iface => s.setLink iface none
  s.setSlot slot { link with interface1 := none, interface2 := none }

/-- `link_link` on a slot. -/
def linkLink (s : Simulator A) (slot : Nat) (int1 int2 : Interface) : Simulator A :=
  if (s.linkOf int1).isSome || (s.linkOf int2).isSome then
    s
  else
    ((s.setSlot slot { s.links slot with interface1 := some int1, interface2 := some int2 }).setLink
      int1 (some slot)).setLink int2 (some slot)

/-- `link_init` on a slot. -/
def linkInit (s : Simulator A) (slot : Nat) (int1 int2 : Interface) (delay : A.Single) :
    Simulator A :=
  linkLink (s.setSlot slot { interface1 := none, interface2 := none, delay := delay }) slot int1 int2

/-- `transmit`: the interface the packet is handed to, at once or through the simulation clock. -/
def transmit (sender : Interface) (link : Link A) : Option Interface :=
  if link.interface1 = some sender then link.interface2
  else if link.interface2 = some sender then link.interface1
  else none

/-- `interface_send`: the interface `transmit` hands the packet to. -/
def interfaceSend (s : Simulator A) (sender : Interface) : Option Interface :=
  (s.linkOf sender).bind fun slot => transmit sender (s.links slot)

/-! ## Names and endpoints -/

/-- `simulator_find_node`. -/
def simulatorFindNode (s : Simulator A) (name : Text) : Option Nat :=
  s.nodes.findIdx? fun entry => entry.name == name

/-- The entry that `simulator_find_node` finds. -/
def Simulator.findEntry (s : Simulator A) (name : Text) : Option SimulatorNodeEntry :=
  (simulatorFindNode s name).bind (s.nodes[·]?)

/-- `parse_node_type`. -/
def parseNodeType (type : Text) : Option SimulatorNodeType :=
  if type = text "host" then some .host
  else if type = text "switch" then some .switch
  else if type = text "router" then some .router
  else none

/-- `parse_endpoint`: the name before the first colon and the port after it. -/
def parseEndpoint (endpoint : Text) : Text × Int :=
  match endpoint.dropWhile (· ≠ 58) with
  | [] => (strncpyTerminated endpoint maxName, 1)
  | _ :: port => (strncpyTerminated (endpoint.takeWhile (· ≠ 58)) maxName, atoi port)

/-- `node_get_interface`: the index of the interface with a port number. -/
def nodeGetInterface (node : Node) (portNumber : Int) : Option Nat :=
  if 1 ≤ portNumber ∧ portNumber ≤ node.numInterfaces then some (portNumber - 1).toNat else none

/-- `endpoint_to_interface`. -/
def endpointToInterface (s : Simulator A) (endpoint : Text) : Option Interface :=
  let (name, port) := parseEndpoint endpoint
  match (simulatorFindNode s name).bind (s.nodes[·]?) with
  | none => none
  | some entry =>
      (nodeGetInterface (s.heap entry.node) port).map fun i => { node := entry.node, port := i }

/-! ## Nodes -/

/-- `simulator_init`, over memory with any content. -/
def simulatorInit (heap : Nat → Node) (links : Nat → Link A) : Simulator A :=
  { nodes := [], heap := heap, links := links, linkCount := 0, interfaces := [] }

/-- The number of ports `simulator_create_node` gives a node. -/
def requestedPortCount (requestedPorts : Int) : Nat :=
  min (if 0 < requestedPorts then requestedPorts.toNat else 1) maxPort

theorem requestedPortCount_le (requestedPorts : Int) : requestedPortCount requestedPorts ≤ maxPort :=
  Nat.min_le_right _ _

/-- `host_init`, `switch_init` or `router_init` on zeroed memory. -/
def deviceInit : SimulatorNodeType → Device
  | .host => .host { hasIp := false, ipAddress := ipZero, defaultGateway := ipZero }
  | .switch => .switch fun _ => { mode := .access, vlanId := switchDefaultVlanId }
  | .router => .router routerInit

/-- `simulator_create_node` enters the interfaces of a node into the registry. -/
def registerInterfaces (interfaces : List Interface) (address count : Nat) : List Interface :=
  (List.range count).foldl
    (fun interfaces i =>
      if interfaces.length < simulatorMaxInterfaces then
        interfaces ++ [{ node := address, port := i }]
      else
        interfaces)
    interfaces

/-- `simulator_create_node`, where `calloc` returns `address`; `none` when it returns `0`. -/
def simulatorCreateNode (s : Simulator A) (type name : Text) (requestedPorts : Int)
    (address : Option Nat) : Option (Simulator A) :=
  if (simulatorFindNode s name).isSome then
    none
  else if simulatorMaxNodes ≤ s.nodes.length then
    none
  else
    match parseNodeType type, address with
    | some nodeType, some address =>
        some
          { s with
            nodes := s.nodes ++
              [{ name := strncpyTerminated name maxName, type := nodeType, node := address }]
            heap := Function.update s.heap address
              { name := strncpyTerminated name maxName
                numInterfaces := requestedPortCount requestedPorts
                numInterfaces_le := requestedPortCount_le requestedPorts
                link := fun _ => none
                device := deviceInit nodeType }
            interfaces :=
              registerInterfaces s.interfaces address (requestedPortCount requestedPorts) }
    | _, _ => none

/-! ## Editing the link table -/

/-- The slot's link joins two interfaces, either way round. -/
def linkJoins (link : Link A) (a b : Interface) : Bool :=
  (link.interface1 == some a && link.interface2 == some b) ||
    (link.interface1 == some b && link.interface2 == some a)

/-- One end of the slot's link is the interface. -/
def linkTouches (link : Link A) (iface : Interface) : Bool :=
  link.interface1 == some iface || link.interface2 == some iface

/-- The first entry of the link table with a property. -/
def findLink (s : Simulator A) (p : Link A → Bool) : Option Nat :=
  (List.range s.linkCount).find? fun i => p (s.links i)

/-- The entry is unlinked and the entries after it move down. -/
def removeLink (s : Simulator A) (i : Nat) : Simulator A :=
  let s := linkUnlink s i
  { s with
    links := fun j => if i ≤ j ∧ j + 1 < s.linkCount then s.links (j + 1) else s.links j
    linkCount := s.linkCount - 1 }

/-- `simulator_link`; `none` when it returns `0`. -/
def simulatorLink (s : Simulator A) (endpointA endpointB : Text) (delay : A.Single) :
    Option (Simulator A) :=
  if simulatorMaxLinks ≤ s.linkCount then
    none
  else
    match endpointToInterface s endpointA, endpointToInterface s endpointB with
    | some a, some b =>
        if a = b then
          none
        else if (s.linkOf a).isSome || (s.linkOf b).isSome then
          none
        else if (findLink s fun link => linkJoins link a b).isSome then
          none
        else
          some
            (linkInit { s with linkCount := s.linkCount + 1 } s.linkCount a b
              (if A.isNegative delay then A.zero else delay))
    | _, _ => none

/-- `simulator_unlink`; `none` when it returns `0`. -/
def simulatorUnlink (s : Simulator A) (endpointA endpointB : Text) : Option (Simulator A) :=
  match endpointToInterface s endpointA, endpointToInterface s endpointB with
  | some a, some b => (findLink s fun link => linkJoins link a b).map (removeLink s)
  | _, _ => none

/-- `simulator_remove_node` unlinks an interface of the node. -/
def unlinkInterface (s : Simulator A) (iface : Interface) : Simulator A :=
  if (s.linkOf iface).isSome then
    match findLink s fun link => linkTouches link iface with
    | none => s
    | some i => removeLink s i
  else
    s

/-- `simulator_remove_node`; `none` when it returns `0`. -/
def simulatorRemoveNode (s : Simulator A) (name : Text) : Option (Simulator A) :=
  match simulatorFindNode s name with
  | none => none
  | some index =>
      match s.nodes[index]? with
      | none => none
      | some entry =>
          let ports := List.range (s.heap entry.node).numInterfaces
          let unlinked := ports.foldl
            (fun s p => unlinkInterface s { node := entry.node, port := p }) s
          some
            { unlinked with
              nodes := unlinked.nodes.eraseIdx index
              interfaces := ports.foldl
                (fun interfaces p => interfaces.erase { node := entry.node, port := p })
                unlinked.interfaces }

/-- `simulator_clear`. -/
def simulatorClear (s : Simulator A) : Simulator A :=
  let unlinked := (List.range s.linkCount).foldl linkUnlink s
  { unlinked with nodes := [], linkCount := 0, interfaces := [] }

end MagiStack
