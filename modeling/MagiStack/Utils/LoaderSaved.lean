import MagiStack.Utils.JsonUnreadable
import MagiStack.Utils.LoaderState
import Mathlib.Data.List.Perm.Basic

/-!
# LoaderSaved — what is written of a topology, and how it is read

A file has no port counts of hosts and routers, six digits of a delay, no VLAN of an interface without an
address and no network bits of a next hop.  The topology that is loaded from it is the one that was saved,
when nothing of that is lost and no two nodes have one name.
-/

namespace MagiStack

variable {A : CFloat}

/-! ## Topologies -/

/-- The configuration of a node. -/
inductive DeviceView
  | host (addresses : Option (IpAddress × IpAddress))
  | switch (ports : List SwitchPortConfig)
  | router (interfaces : List (Option IpAddress × Int)) (routes : List RoutingTableEntry)
  deriving DecidableEq

/-- A node of a topology, without its place in memory. -/
structure NodeView where
  name : Text
  type : SimulatorNodeType
  numInterfaces : Nat
  device : DeviceView
  deriving DecidableEq

/-- A link of a topology: node names, port numbers and the delay. -/
structure LinkView (A : CFloat) where
  end1 : Option (Text × Nat)
  end2 : Option (Text × Nat)
  delay : A.Single

/-- The address of a router interface, when it has one. -/
def RouterInterfaceAddress.address (ip : RouterInterfaceAddress) : Option IpAddress :=
  if ip.hasIp then some ip.ipAddress else none

def Device.view (numInterfaces : Nat) : Device → DeviceView
  | .host h => .host (if h.hasIp then some (h.ipAddress, h.defaultGateway) else none)
  | .switch portConfigs => .switch ((nodePorts numInterfaces).map portConfigs)
  | .router r =>
      .router
        ((nodePorts numInterfaces).map fun port =>
          ((r.interfaceIps port).address, r.interfaceVlans port))
        r.routingTable

namespace Simulator

def nodeView (s : Simulator A) (entry : SimulatorNodeEntry) : NodeView :=
  { name := entry.name
    type := entry.type
    numInterfaces := (s.heap entry.node).numInterfaces
    device := (s.heap entry.node).device.view (s.heap entry.node).numInterfaces }

def nodeViews (s : Simulator A) : List NodeView :=
  s.nodes.map s.nodeView

def endView (s : Simulator A) (iface : Interface) : Text × Nat :=
  ((s.heap iface.node).name, iface.port + 1)

def linkView (s : Simulator A) (link : Link A) : LinkView A :=
  { end1 := link.interface1.map s.endView
    end2 := link.interface2.map s.endView
    delay := link.delay }

def linkViews (s : Simulator A) : List (LinkView A) :=
  (List.range s.linkCount).map fun i => s.linkView (s.links i)

/-- The two simulators have the same nodes and the same links. -/
def SameTopology (s s' : Simulator A) : Prop :=
  s.nodeViews.Perm s'.nodeViews ∧ s.linkViews = s'.linkViews

end Simulator

/-- `simulator_link` makes a delay that is not negative. -/
def clampDelay (A : CFloat) (delay : A.Single) : A.Single :=
  if A.isNegative delay then A.zero else delay

/-- What is written for a delay is all read, as a number that makes the same delay. -/
def DelayKept (A : CFloat) (delay : A.Single) : Prop :=
  ∃ n, jsonParseNumber A (jsonWriteNumber A (A.toDouble delay)) = some (n, []) ∧
    clampDelay A (A.toSingle n) = delay

/-- What a file keeps of a router: VLANs of interfaces with an address, next hops without network bits. -/
structure Router.Saveable (numInterfaces : Nat) (router : Router) : Prop where
  vlans : ∀ port, port.val < numInterfaces →
    router.interfaceVlans port = 0 ∨
      0 < router.interfaceVlans port ∧ (router.interfaceIps port).hasIp = true
  nextHops : ∀ entry ∈ router.routingTable, entry.nextHop.prefixLen = 0

/-- A file keeps all of the topology. -/
structure Saveable (s : Simulator A) : Prop where
  names : (s.nodes.map SimulatorNodeEntry.name).Nodup
  hosts : ∀ entry ∈ s.nodes, entry.type = .host → (s.heap entry.node).numInterfaces = 1
  routers : ∀ entry ∈ s.nodes, entry.type = .router → (s.heap entry.node).numInterfaces = 8
  configured : ∀ entry ∈ s.nodes, ∀ router, (s.heap entry.node).device = .router router →
    router.Saveable (s.heap entry.node).numInterfaces
  delays : ∀ i, i < s.linkCount → DelayKept A (s.links i).delay

/-! ## What is written -/

theorem jsonCreateString_eq {s : Text} (h : s.length < jsonMaxString) :
    (jsonCreateString s : JsonValue A.Double) = .string s :=
  congrArg JsonValue.string (List.take_of_length_le (Nat.le_pred_of_lt h))

section Written

variable {depth : Nat}

theorem readsBack_objectOf {members members' : List (Text × JsonValue A.Double)}
    (hdepth : depth < jsonMaxDepth)
    (h : List.Forall₂ (MemberReadsBack A (depth + 1)) members members') :
    ReadsBack A depth (jsonObjectOf members) (jsonObjectOf members') := by
  have hkeys : (∀ m ∈ members, m.1.length < jsonMaxString) ∧
      ∀ m ∈ members', m.1.length < jsonMaxString := by
    induction h with
    | nil => exact ⟨fun _ hm => (nomatch hm), fun _ hm => (nomatch hm)⟩
    | cons hm _ ih =>
        refine ⟨List.forall_mem_cons.mpr ⟨hm.length_lt, ih.1⟩, List.forall_mem_cons.mpr ⟨?_, ih.2⟩⟩
        rw [hm.key]
        exact hm.length_lt
  rw [jsonObjectOf_eq hkeys.1, jsonObjectOf_eq hkeys.2]
  exact readsBack_object hdepth h

theorem readsBack_arrayOf {items items' : List (JsonValue A.Double)} (hdepth : depth < jsonMaxDepth)
    (hlength : items.length ≤ jsonMaxArray)
    (h : List.Forall₂ (ReadsBack A (depth + 1)) items items') :
    ReadsBack A depth (jsonArrayOf items) (jsonArrayOf items') := by
  rw [jsonArrayOf_eq hlength, jsonArrayOf_eq (h.length_eq ▸ hlength)]
  exact readsBack_array hdepth hlength h

/-- Items that are all read back as they are. -/
theorem readsBack_arrayOf_same {items : List (JsonValue A.Double)} (hdepth : depth < jsonMaxDepth)
    (hlength : items.length ≤ jsonMaxArray) (h : ∀ item ∈ items, ReadsBack A (depth + 1) item item) :
    ReadsBack A depth (jsonArrayOf items) (jsonArrayOf items) :=
  readsBack_arrayOf hdepth hlength (List.forall₂_same.mpr h)

theorem readsBack_createString {s : Text} (hlength : s.length < jsonMaxString) (hclean : 0 ∉ s) :
    ReadsBack A depth (jsonCreateString s) (jsonCreateString s) := by
  rw [jsonCreateString_eq hlength]
  exact readsBack_string hlength hclean

theorem IsInt.exact {n : Int} (h : IsInt n) : ExactInt n := by
  rw [IsInt] at h
  rw [ExactInt]
  omega

theorem readsBack_jsonInt {n : Int} (h : IsInt n) : ReadsBack A depth (jsonInt A n) (jsonInt A n) :=
  readsBack_int h.exact

theorem readsBack_address (ip : IpAddress) :
    ReadsBack A depth (jsonAddress A ip) (jsonAddress A ip) :=
  readsBack_createString (Nat.lt_of_le_of_lt (ipToString_length ip _) (by decide))
    (zero_notMem_ipToString ip _)

theorem isInt_port (port : Fin maxPort) : IsInt (interfacePortNumber port) := by
  have hlt := port.isLt
  have hmax : maxPort = 32 := rfl
  rw [IsInt, interfacePortNumber]
  omega

/-- A member whose key is a literal of the source. -/
theorem memberReadsBack {key : Text} {v w : JsonValue A.Double}
    (hlength : key.length < jsonMaxString) (hclean : 0 ∉ key) (h : ReadsBack A depth v w) :
    MemberReadsBack A depth (key, v) (key, w) :=
  ⟨rfl, hlength, hclean, h⟩

theorem readsBack_host {name : Text} (hname : name.length < maxName) (hclean : 0 ∉ name)
    (host : Host) (hdepth : depth < jsonMaxDepth) :
    ReadsBack A depth (saveHost A name host) (saveHost A name host) := by
  have hlength : name.length < jsonMaxString := Nat.lt_trans hname (by decide)
  refine readsBack_objectOf hdepth (.cons (memberReadsBack (by decide) (by decide)
    (readsBack_createString hlength hclean)) ?_)
  split
  · exact .cons (memberReadsBack (by decide) (by decide) (readsBack_address _))
      (.cons (memberReadsBack (by decide) (by decide) (readsBack_address _)) .nil)
  · exact .nil

theorem readsBack_vlan {config : SwitchPortConfig} (h : config.Ok) (port : Fin maxPort)
    (hdepth : depth < jsonMaxDepth) :
    ReadsBack A depth (saveVlan A port config) (saveVlan A port config) := by
  refine readsBack_objectOf hdepth (.cons (memberReadsBack (by decide) (by decide)
    (readsBack_jsonInt (isInt_port port))) ?_)
  split
  · exact .cons (memberReadsBack (by decide) (by decide)
        (readsBack_createString (by decide) (by decide)))
      (.cons (memberReadsBack (by decide) (by decide) (readsBack_jsonInt h.1)) .nil)
  · exact .cons (memberReadsBack (by decide) (by decide)
      (readsBack_createString (by decide) (by decide))) .nil

theorem nodePorts_length (numInterfaces : Nat) : (nodePorts numInterfaces).length ≤ maxPort := by
  have hle := List.length_filter_le (fun port : Fin maxPort => decide (port.val < numInterfaces))
    (List.finRange maxPort)
  rwa [List.length_finRange] at hle

theorem readsBack_switch {name : Text} (hname : name.length < maxName) (hclean : 0 ∉ name)
    {numInterfaces : Nat} (hle : numInterfaces ≤ maxPort)
    {portConfigs : Fin maxPort → SwitchPortConfig} (hports : ∀ port, (portConfigs port).Ok)
    (hdepth : depth + 2 < jsonMaxDepth) :
    ReadsBack A depth (saveSwitch A name numInterfaces portConfigs)
      (saveSwitch A name numInterfaces portConfigs) := by
  have hlength : name.length < jsonMaxString := Nat.lt_trans hname (by decide)
  have hnum : IsInt numInterfaces := by
    have hmax : maxPort = 32 := rfl
    rw [IsInt]
    omega
  refine readsBack_objectOf (by omega) (.cons (memberReadsBack (by decide) (by decide)
    (readsBack_createString hlength hclean)) (.cons (memberReadsBack (by decide) (by decide)
      (readsBack_jsonInt hnum)) (.cons (memberReadsBack (by decide) (by decide)
        (readsBack_arrayOf_same (by omega) ?_ fun item hitem => ?_)) .nil)))
  · rw [List.length_map]
    exact (List.length_filter_le _ _).trans ((nodePorts_length _).trans (by decide))
  · rcases List.mem_map.mp hitem with ⟨port, -, rfl⟩
    exact readsBack_vlan (hports port) port (by omega)

theorem readsBack_router {name : Text} (hname : name.length < maxName) (hclean : 0 ∉ name)
    {numInterfaces : Nat} (hle : numInterfaces ≤ maxPort) {router : Router}
    (hok : router.Ok numInterfaces) (hdepth : depth + 2 < jsonMaxDepth) :
    ReadsBack A depth (saveRouter A name numInterfaces router)
      (saveRouter A name numInterfaces router) := by
  have hlength : name.length < jsonMaxString := Nat.lt_trans hname (by decide)
  -- The name, the interfaces that are saved and the routes; the arrays are short enough.
  refine readsBack_objectOf (by omega) (.cons (memberReadsBack (by decide) (by decide)
    (readsBack_createString hlength hclean)) (.cons (memberReadsBack (by decide) (by decide)
      (readsBack_arrayOf_same (by omega) ?_ fun item hitem => ?_)) (.cons (memberReadsBack
        (by decide) (by decide) (readsBack_arrayOf_same (by omega) ?_ fun item hitem => ?_)) .nil)))
  · rw [List.length_map]
    exact (List.length_filter_le _ _).trans ((nodePorts_length _).trans (by decide))
  · rcases List.mem_map.mp hitem with ⟨port, -, rfl⟩
    refine readsBack_objectOf (by omega) (.cons (memberReadsBack (by decide) (by decide)
      (readsBack_jsonInt (isInt_port port))) (.cons (memberReadsBack (by decide) (by decide)
        (readsBack_address _)) ?_))
    split
    · exact .cons (memberReadsBack (by decide) (by decide)
        (readsBack_jsonInt (hok.vlans port))) .nil
    · exact .nil
  · rw [List.length_map]
    exact hok.length_le.trans (by decide)
  · rcases List.mem_map.mp hitem with ⟨entry, hentry, rfl⟩
    have hroute := hok.routes entry hentry
    have hout : IsInt entry.outInterface := by
      have hmax : maxPort = 32 := rfl
      have hpos := hroute.outInterface_pos
      have hbound := hroute.outInterface_le
      rw [IsInt]
      omega
    have hstring : ∀ (ip : IpAddress) includePrefix, (ipToString ip includePrefix).length <
        jsonMaxString := fun ip includePrefix =>
      Nat.lt_of_le_of_lt (ipToString_length ip includePrefix) (by decide)
    exact readsBack_objectOf (by omega) (.cons (memberReadsBack (by decide) (by decide)
      (readsBack_createString (hstring _ _) (zero_notMem_ipToString _ _)))
      (.cons (memberReadsBack (by decide) (by decide)
        (readsBack_createString (hstring _ _) (zero_notMem_ipToString _ _)))
        (.cons (memberReadsBack (by decide) (by decide) (readsBack_jsonInt hout)) .nil)))

/-- Of a link the digits of the delay are read back. -/
theorem readsBack_link {endpoint1 endpoint2 : Text} (h1 : endpoint1.length < jsonMaxString)
    (hclean1 : 0 ∉ endpoint1) (h2 : endpoint2.length < jsonMaxString) (hclean2 : 0 ∉ endpoint2)
    {delay n : A.Double} (hdelay : jsonParseNumber A (jsonWriteNumber A delay) = some (n, []))
    (hdepth : depth + 1 < jsonMaxDepth) :
    ReadsBack A depth (saveLink A endpoint1 endpoint2 delay) (saveLink A endpoint1 endpoint2 n) :=
  readsBack_objectOf (by omega) (.cons (memberReadsBack (by decide) (by decide)
    (readsBack_arrayOf (by omega) (show 2 ≤ jsonMaxArray by decide)
      (.cons (readsBack_createString h1 hclean1)
      (.cons (readsBack_createString h2 hclean2) .nil))))
    (.cons (memberReadsBack (by decide) (by decide) (readsBack_number hdelay)) .nil))

/-- The object that is written, when its items are read back. -/
theorem readsBack_root {hosts switches routers links links' : List (JsonValue A.Double)}
    (hhosts : hosts.length ≤ jsonMaxArray) (hswitches : switches.length ≤ jsonMaxArray)
    (hrouters : routers.length ≤ jsonMaxArray) (hlinks : links.length ≤ jsonMaxArray)
    (hhost : ∀ item ∈ hosts, ReadsBack A 2 item item)
    (hswitch : ∀ item ∈ switches, ReadsBack A 2 item item)
    (hrouter : ∀ item ∈ routers, ReadsBack A 2 item item)
    (hlink : List.Forall₂ (ReadsBack A 2) links links') :
    ReadsBack A 0 (saveRoot A hosts switches routers links)
      (saveRoot A hosts switches routers links') :=
  readsBack_objectOf (by decide) (.cons (memberReadsBack (by decide) (by decide)
    (readsBack_arrayOf_same (by decide) hhosts hhost))
    (.cons (memberReadsBack (by decide) (by decide)
      (readsBack_arrayOf_same (by decide) hswitches hswitch))
      (.cons (memberReadsBack (by decide) (by decide)
        (readsBack_arrayOf_same (by decide) hrouters hrouter))
        (.cons (memberReadsBack (by decide) (by decide)
          (readsBack_arrayOf (by decide) hlinks hlink)) .nil))))

end Written

end MagiStack
