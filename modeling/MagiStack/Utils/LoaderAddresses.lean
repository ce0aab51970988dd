import MagiStack.Layer3.IpGrammar
import MagiStack.Utils.Loader

/-!
# LoaderAddresses — addresses that are not accepted

`ip_parse` stores an octet before it looks at the next one, and `simulator_load` does not look at what it
returns.  An address with an octet that is too large is refused, and the octets before it are stored all the
same.
-/

namespace MagiStack

/-- The numbers of an address as `sscanf` stores them. -/
def Quad.octets (q : Quad) : List Nat :=
  [q.a.unsigned, q.b.unsigned, q.c.unsigned, q.d.unsigned]

/-- The numbers before the first that is too large for an octet. -/
def Quad.stored (q : Quad) : List Nat :=
  q.octets.takeWhile fun octet => decide (octet ≤ 255)

/-- Four numbers of which one is too large, and those before it are not the octets that were there. -/
def HalfWritten (s : Text) (outIp : IpAddress) : Prop :=
  ∃ q : Quad, q.text = s ∧ q.PrefixInRange ∧ ¬ q.InRange ∧ ¬ q.stored <+: outIp.octets.map UInt8.toNat

/-- What is refused is not stored. -/
def KeepsRefused (s : Text) (outIp : IpAddress) : Prop :=
  (ipParse s outIp).1 = false → (ipParse s outIp).2 = outIp

theorem ofNat_eq_octet {n : Nat} (h : n ≤ 255) (octet : UInt8) : UInt8.ofNat n = octet ↔ n = octet.toNat := by
  rw [← UInt8.toNat_inj, UInt8.toNat_ofNat']
  omega

/-- The octets before the one that is too large are stored. -/
theorem Quad.keepsRefused_iff (q : Quad) (outIp : IpAddress) (hbits : q.PrefixInRange)
    (hrange : ¬ q.InRange) :
    KeepsRefused q.text outIp ↔ q.stored <+: outIp.octets.map UInt8.toNat := by
  obtain ⟨octet0, octet1, octet2, octet3, prefixLen⟩ := outIp
  rw [Quad.prefixInRange_iff] at hbits
  rw [KeepsRefused, ipParse, q.scanOctets_text, Quad.stored, Quad.octets, IpAddress.octets]
  simp only [if_neg (show ¬ (scanPrefix q.tail < 0 ∨ 32 < scanPrefix q.tail) by omega), List.map_cons,
    List.map_nil, List.takeWhile_cons, List.takeWhile_nil]
  -- The first number that is too large decides what is stored.
  by_cases ha : q.a.unsigned ≤ 255
  · by_cases hb : q.b.unsigned ≤ 255
    · by_cases hc : q.c.unsigned ≤ 255
      · have hd : ¬ q.d.unsigned ≤ 255 := fun hd => hrange ⟨ha, hb, hc, hd⟩
        simp [Nat.not_lt.mpr ha, Nat.not_lt.mpr hb, Nat.not_lt.mpr hc, Nat.lt_of_not_le hd, ha, hb, hc, hd,
          ofNat_eq_octet]
      · simp [Nat.not_lt.mpr ha, Nat.not_lt.mpr hb, Nat.lt_of_not_le hc, ha, hb, hc, ofNat_eq_octet]
    · simp [Nat.not_lt.mpr ha, Nat.lt_of_not_le hb, ha, hb, ofNat_eq_octet]
  · simp [Nat.lt_of_not_le ha, ha]

theorem keepsRefused_iff (s : Text) (outIp : IpAddress) : KeepsRefused s outIp ↔ ¬ HalfWritten s outIp := by
  constructor
  · rintro hkeeps ⟨q, rfl, hbits, hrange, hstored⟩
    exact hstored ((q.keepsRefused_iff outIp hbits hrange).mp hkeeps)
  · intro hwritten
    by_cases hquad : ∃ q : Quad, q.text = s
    · obtain ⟨q, rfl⟩ := hquad
      by_cases hbits : q.PrefixInRange
      · by_cases hrange : q.InRange
        · -- The address is accepted.
          intro hrefused
          rw [(ipParse_accepts_iff q.text outIp).mpr ⟨q, rfl, hrange, hbits⟩] at hrefused
          cases hrefused
        · refine (q.keepsRefused_iff outIp hbits hrange).mpr (by_contra fun hstored => ?_)
          exact hwritten ⟨q, rfl, hbits, hrange, hstored⟩
      · intro _
        rw [Quad.prefixInRange_iff] at hbits
        rw [ipParse, q.scanOctets_text]
        dsimp only
        rw [if_pos (by omega)]
    · intro _
      rw [ipParse_noQuad fun q hq => hquad ⟨q, hq⟩]

/-! ## The loader -/

section Loader

variable {A : CFloat}

/-- A host keeps its address when `ip_address` is refused. -/
def HostAddressKept (h : JsonValue A.Double) (host : Host) : Prop :=
  ∀ str, jsonObjectGet h (text "ip_address") = some (.string str) →
    (ipParse str host.ipAddress).1 = false → hostAddressFromJson h host = host

/-- A host keeps its gateway when `default_gateway` is refused. -/
def HostGatewayKept (h : JsonValue A.Double) (host : Host) : Prop :=
  ∀ str, jsonObjectGet h (text "default_gateway") = some (.string str) →
    (ipParse str host.defaultGateway).1 = false → hostGatewayFromJson h host = host

/-- A router interface keeps its address when `ip_address` is refused. -/
def InterfaceAddressKept (numInterfaces : Nat) (router : Router) (inf : JsonValue A.Double) : Prop :=
  ∀ number str port, jsonObjectGet inf (text "port") = some (.number number) →
    jsonObjectGet inf (text "ip_address") = some (.string str) →
    routerPort numInterfaces (castInt A number) = some port →
    (ipParse str (router.interfaceIps port).ipAddress).1 = false →
    (interfaceFromJson numInterfaces router inf).interfaceIps = router.interfaceIps

/-- A route with a `next_hop` in its object. -/
structure HasNextHop (route : JsonValue A.Double) (next : Text) (destination : IpAddress) (iface : Int) :
    Prop where
  next_hop : jsonObjectGet route (text "next_hop") = some (.string next)
  destination : ∃ dst, jsonObjectGet route (text "destination") = some (.string dst) ∧
    ipParse dst ipZero = (true, destination)
  interface : ∃ n, jsonObjectGet route (text "interface") = some (.number n) ∧ castInt A n = iface

/-- A route stays direct when `next_hop` is refused. -/
def RouteKeptDirect (numInterfaces : Nat) (route : JsonValue A.Double) : Prop :=
  ∀ next destination iface router, HasNextHop route next destination iface →
    (ipParse next ipZero).1 = false →
    routeFromJson numInterfaces router route =
      (routerAddRoute numInterfaces router destination ipZero iface).getD router

theorem hostAddressKept_iff (h : JsonValue A.Double) (host : Host) :
    HostAddressKept h host ↔ ∀ str, jsonObjectGet h (text "ip_address") = some (.string str) →
      ¬ HalfWritten str host.ipAddress := by
  refine forall_congr' fun str => imp_congr_right fun hget => ?_
  rw [← keepsRefused_iff]
  refine imp_congr_right fun hrefused => ?_
  rw [hostAddressFromJson, hget]
  simp only [hrefused, Bool.false_or]
  rw [Host.mk.injEq]
  simp

theorem hostGatewayKept_iff (h : JsonValue A.Double) (host : Host) :
    HostGatewayKept h host ↔ ∀ str, jsonObjectGet h (text "default_gateway") = some (.string str) →
      host.hasIp = true → ¬ HalfWritten str host.defaultGateway := by
  refine forall_congr' fun str => imp_congr_right fun hget => ?_
  rw [← keepsRefused_iff]
  cases hhas : host.hasIp with
  | false => simp [hostGatewayFromJson, hget, hhas]
  | true =>
      simp only [forall_true_left]
      refine imp_congr_right fun hrefused => ?_
      rw [hostGatewayFromJson, hget]
      simp only [hhas, if_true]
      rw [Host.mk.injEq]
      simp [hhas]

theorem interfaceAddressKept_iff (numInterfaces : Nat) (router : Router) (inf : JsonValue A.Double) :
    InterfaceAddressKept numInterfaces router inf ↔
      ∀ number str port, jsonObjectGet inf (text "port") = some (.number number) →
        jsonObjectGet inf (text "ip_address") = some (.string str) →
        routerPort numInterfaces (castInt A number) = some port →
        ¬ HalfWritten str (router.interfaceIps port).ipAddress := by
  refine forall_congr' fun number => forall_congr' fun str => forall_congr' fun port => ?_
  refine imp_congr_right fun hport => imp_congr_right fun hget => imp_congr_right fun hfind => ?_
  rw [← keepsRefused_iff]
  refine imp_congr_right fun hrefused => ?_
  have hips : (interfaceFromJson numInterfaces router inf).interfaceIps =
      Function.update router.interfaceIps port
        { hasIp := (router.interfaceIps port).hasIp
          ipAddress := (ipParse str (router.interfaceIps port).ipAddress).2 } := by
    rw [interfaceFromJson, hport, hget]
    simp only [hfind, hrefused, Bool.false_or]
    split
    · rfl
    · rfl
  rw [hips, Function.update_eq_self_iff]
  constructor
  · intro heq
    exact congrArg RouterInterfaceAddress.ipAddress heq
  · intro heq
    rw [heq]

section NextHop

variable {route : JsonValue A.Double} {next : Text} {destination : IpAddress} {iface : Int}

theorem HasNextHop.routeFromJson_eq (h : HasNextHop route next destination iface) (numInterfaces : Nat) (router : Router) :
    routeFromJson numInterfaces router route =
      (routerAddRoute numInterfaces router destination (ipParse next ipZero).2 iface).getD router := by
  obtain ⟨dst, hdst, hparse⟩ := h.destination
  obtain ⟨n, hn, rfl⟩ := h.interface
  rw [routeFromJson, hdst, hn]
  simp only [hparse, h.next_hop]

theorem HasNextHop.prefixLen_le (h : HasNextHop route next destination iface) :
    destination.prefixLen.toNat ≤ 32 := by
  obtain ⟨dst, -, hparse⟩ := h.destination
  have hle := @ipParse_prefixLen dst ipZero (Nat.zero_le _)
  rwa [hparse] at hle

/-- A route is added to an empty table. -/
theorem routerAddRoute_init {numInterfaces : Nat} (hlow : 1 ≤ iface) (hhigh : iface ≤ numInterfaces)
    (hbits : destination.prefixLen.toNat ≤ 32) (nextHop : IpAddress) :
    routerAddRoute numInterfaces routerInit destination nextHop iface =
      some { routerInit with
        routingTable :=
          [{ destination := ipNetworkAddress destination, nextHop := nextHop, outInterface := iface }] } := by
  have hbound : ¬ 32 < destination.prefixLen := by
    rw [UInt8.lt_iff_toNat_lt]
    exact Nat.not_lt.mpr hbits
  rw [routerAddRoute, if_neg (by simp only [hbound, or_false]; omega)]
  rfl

end NextHop

theorem routeKeptDirect_iff (numInterfaces : Nat) (route : JsonValue A.Double) :
    RouteKeptDirect numInterfaces route ↔
      ∀ next destination iface, HasNextHop route next destination iface → 1 ≤ iface → iface ≤ numInterfaces →
        ¬ HalfWritten next ipZero := by
  constructor
  · intro hkept next destination iface h hlow hhigh
    rw [← keepsRefused_iff]
    intro hrefused
    -- In an empty table the route shows the next hop it was added with.
    have hsame := hkept next destination iface routerInit h hrefused
    rw [h.routeFromJson_eq, routerAddRoute_init hlow hhigh h.prefixLen_le,
      routerAddRoute_init hlow hhigh h.prefixLen_le, Option.getD_some, Option.getD_some] at hsame
    have htable := congrArg Router.routingTable hsame
    exact congrArg RoutingTableEntry.nextHop (List.cons.inj htable).1
  · intro hnot next destination iface router h hrefused
    rw [h.routeFromJson_eq]
    by_cases hrange : 1 ≤ iface ∧ iface ≤ numInterfaces
    · rw [(keepsRefused_iff next ipZero).mpr (hnot next destination iface h hrange.1 hrange.2) hrefused]
    · -- Neither route is added.
      rw [routerAddRoute, if_pos (by omega), routerAddRoute, if_pos (by omega)]

/-- What `ip_parse` refuses changes nothing, in the loader neither, unless an octet was written before the
one that is too large. -/
theorem ipParse_refused_keeps_iff (A : CFloat) :
    (∀ s outIp, KeepsRefused s outIp ↔ ¬ HalfWritten s outIp) ∧
    (∀ (h : JsonValue A.Double) host, HostAddressKept h host ↔
      ∀ str, jsonObjectGet h (text "ip_address") = some (.string str) → ¬ HalfWritten str host.ipAddress) ∧
    (∀ (h : JsonValue A.Double) host, HostGatewayKept h host ↔
      ∀ str, jsonObjectGet h (text "default_gateway") = some (.string str) → host.hasIp = true →
        ¬ HalfWritten str host.defaultGateway) ∧
    (∀ numInterfaces router (inf : JsonValue A.Double), InterfaceAddressKept numInterfaces router inf ↔
      ∀ number str port, jsonObjectGet inf (text "port") = some (.number number) →
        jsonObjectGet inf (text "ip_address") = some (.string str) →
        routerPort numInterfaces (castInt A number) = some port →
        ¬ HalfWritten str (router.interfaceIps port).ipAddress) ∧
    ∀ numInterfaces (route : JsonValue A.Double), RouteKeptDirect numInterfaces route ↔
      ∀ next destination iface, HasNextHop route next destination iface → 1 ≤ iface → iface ≤ numInterfaces →
        ¬ HalfWritten next ipZero :=
  ⟨keepsRefused_iff, hostAddressKept_iff, hostGatewayKept_iff, interfaceAddressKept_iff, routeKeptDirect_iff⟩

end Loader

/-- A gateway that is refused is stored up to its last octet. -/
theorem ipParse_refused_keeps_gateway :
    ipParse (text "10.0.0.999") ipZero = (false, ⟨10, 0, 0, 0, 0⟩) ∧
      ¬ KeepsRefused (text "10.0.0.999") ipZero ∧
      ¬ HostGatewayKept
        (.object [(text "default_gateway", .string (text "10.0.0.999"))] : JsonValue exactFloat.Double)
        { hasIp := true, ipAddress := ⟨10, 0, 0, 2, 24⟩, defaultGateway := ipZero } := by
  have hparse : ipParse (text "10.0.0.999") ipZero = (false, ⟨10, 0, 0, 0, 0⟩) := by decide
  refine ⟨hparse, fun hkeeps => ?_, fun hkept => ?_⟩
  · have hsame := hkeeps (congrArg Prod.fst hparse)
    rw [hparse] at hsame
    exact absurd hsame (by decide)
  · have hsame := congrArg Host.defaultGateway (hkept (text "10.0.0.999") rfl (congrArg Prod.fst hparse))
    rw [hostGatewayFromJson] at hsame
    exact absurd (hsame : (ipParse (text "10.0.0.999") ipZero).2 = ipZero) (by decide)

end MagiStack
