import MagiStack.Layer2.Switch
import MagiStack.Layer3.Ipv4

/-!
# Router — interface addresses and the routing table

Embedding of the configuration half of `layer3/router.c`: the addresses and VLANs of the interfaces,
`router_add_route` and `router_add_direct_routes`.
-/

namespace MagiStack

def routerMaxRoutes : Nat := 128

/-- `RoutingTableEntry`. -/
structure RoutingTableEntry where
  destination : IpAddress
  nextHop : IpAddress
  outInterface : Int
  deriving DecidableEq, Repr

/-- `RouterInterfaceAddress`, without the number of the port it is stored for. -/
structure RouterInterfaceAddress where
  hasIp : Bool
  ipAddress : IpAddress
  deriving DecidableEq, Repr

/-- The configuration of a `Router`; the table holds its `route_count` entries. -/
structure Router where
  interfaceIps : Fin maxPort → RouterInterfaceAddress
  interfaceVlans : Fin maxPort → Int
  routingTable : List RoutingTableEntry

/-- `router_init` in zeroed memory. -/
def routerInit : Router :=
  { interfaceIps := fun _ => { hasIp := false, ipAddress := ipZero }
    interfaceVlans := fun _ => 0
    routingTable := [] }

/-- `ip_to_u32_public`. -/
def ipToU32Public (ip : IpAddress) : UInt32 :=
  beLong ip.octet0 ip.octet1 ip.octet2 ip.octet3

/-- `ip_prefix_to_mask`. -/
def ipPrefixToMask (prefixLen : UInt8) : UInt32 :=
  if prefixLen = 0 then 0
  else if 32 ≤ prefixLen then 0xFFFFFFFF
  else (0xFFFFFFFF : UInt32) <<< (32 - prefixLen.toUInt32)

/-- `ip_network_address`. -/
def ipNetworkAddress (ip : IpAddress) : IpAddress :=
  let network := ipToU32Public ip &&& ipPrefixToMask ip.prefixLen
  { ip with
    octet0 := (network >>> 24).toUInt8
    octet1 := (network >>> 16).toUInt8
    octet2 := (network >>> 8).toUInt8
    octet3 := (network &&& 0xFF).toUInt8 }

/-- `router_add_route` takes a new route for the entry. -/
def routesEqual (entry : RoutingTableEntry) (destination nextHop : IpAddress)
    (outInterface : Int) : Bool :=
  entry.outInterface == outInterface && entry.destination.prefixLen == destination.prefixLen &&
    ipOctetsEqualPublic entry.destination destination && ipOctetsEqualPublic entry.nextHop nextHop

/-- `router_add_route` on a router with `numInterfaces` ports; `none` when it returns `0`. -/
def routerAddRoute (numInterfaces : Nat) (router : Router) (destination nextHop : IpAddress)
    (outInterface : Int) : Option Router :=
  if outInterface < 1 ∨ (numInterfaces : Int) < outInterface ∨ 32 < destination.prefixLen then
    none
  else
    let destination := ipNetworkAddress destination
    if router.routingTable.any fun entry => routesEqual entry destination nextHop outInterface then
      some router
    else if routerMaxRoutes ≤ router.routingTable.length then
      none
    else
      some
        { router with
          routingTable := router.routingTable ++
            [{ destination := destination, nextHop := nextHop, outInterface := outInterface }] }

/-- `router_add_direct_routes`. -/
def routerAddDirectRoutes (numInterfaces : Nat) (router : Router) : Router :=
  ((List.finRange maxPort).filter fun port => port.val < numInterfaces).foldl
    (fun router port =>
      if (router.interfaceIps port).hasIp then
        (routerAddRoute numInterfaces router (router.interfaceIps port).ipAddress ipZero
          (interfacePortNumber port)).getD router
      else
        router)
    router

/-! ## Networks and routes -/

theorem ipToU32Public_network (ip : IpAddress) :
    ipToU32Public (ipNetworkAddress ip) = ipToU32Public ip &&& ipPrefixToMask ip.prefixLen := by
  rw [ipNetworkAddress, ipToU32Public]
  simp only [lowByte_toUInt8, beLong_bytes]

/-- The address of a network is that of its network. -/
theorem ipNetworkAddress_idem (ip : IpAddress) :
    ipNetworkAddress (ipNetworkAddress ip) = ipNetworkAddress ip := by
  have hmask : ipToU32Public (ipNetworkAddress ip) &&& ipPrefixToMask ip.prefixLen =
      ipToU32Public ip &&& ipPrefixToMask ip.prefixLen := by
    rw [ipToU32Public_network, UInt32.and_assoc, UInt32.and_self]
  have hprefix : (ipNetworkAddress ip).prefixLen = ip.prefixLen := rfl
  rw [ipNetworkAddress, hprefix, hmask]
  rfl

theorem routesEqual_self (entry : RoutingTableEntry) :
    routesEqual entry entry.destination entry.nextHop entry.outInterface = true := by
  simp [routesEqual, ipOctetsEqualPublic]

/-- What `router_add_route` adds: nothing, or an entry that no other equals. -/
theorem routerAddRoute_eq_some {n : Nat} {router router' : Router}
    {destination nextHop : IpAddress} {outInterface : Int}
    (h : routerAddRoute n router destination nextHop outInterface = some router') :
    router' = router ∨
      (1 ≤ outInterface ∧ outInterface ≤ n ∧ destination.prefixLen.toNat ≤ 32 ∧
        router.routingTable.length < routerMaxRoutes ∧
        (∀ entry ∈ router.routingTable,
          routesEqual entry (ipNetworkAddress destination) nextHop outInterface = false) ∧
        router' = { router with
          routingTable := router.routingTable ++
            [{ destination := ipNetworkAddress destination, nextHop := nextHop,
               outInterface := outInterface }] }) := by
  rw [routerAddRoute] at h
  split at h
  · cases h
  · rename_i hbad
    simp only [not_or, not_lt] at hbad
    have hprefix : destination.prefixLen.toNat ≤ 32 := by
      have hnot := hbad.2.2
      rw [UInt8.lt_iff_toNat_lt] at hnot
      exact not_lt.mp hnot
    simp only at h
    split at h
    · exact Or.inl (Option.some.inj h).symm
    · rename_i hnew
      split at h
      · cases h
      · rename_i hroom
        refine Or.inr ⟨hbad.1, hbad.2.1, hprefix, not_le.mp hroom, fun entry hentry => ?_,
          (Option.some.inj h).symm⟩
        by_contra hequal
        exact hnew (List.any_eq_true.mpr ⟨entry, hentry, (Bool.not_eq_false _).mp hequal⟩)

end MagiStack
