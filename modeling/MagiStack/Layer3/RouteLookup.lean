import MagiStack.Layer3.RouterForward
import MagiStack.Library.StatusCall
import Mathlib.Data.List.MinMax

/-!
# RouteLookup — longest-prefix match

The routing table after a series of calls of `router_add_route`, and what `router_lookup_route` finds in
it.  The specification speaks of the calls that were accepted: a destination is the network of all
addresses that agree with it in its leading bits.
-/

namespace MagiStack

open StatusCall

/-! ## Networks -/

/-- An address as a number. -/
def IpAddress.number (ip : IpAddress) : Nat :=
  (ipToU32Public ip).toNat

/-- The address agrees with the network in as many leading bits as its prefix has. -/
def InNetwork (network ip : IpAddress) : Prop :=
  ip.number / 2 ^ (32 - network.prefixLen.toNat) =
    network.number / 2 ^ (32 - network.prefixLen.toNat)

instance (network ip : IpAddress) : Decidable (InNetwork network ip) :=
  inferInstanceAs (Decidable (_ = _))

/-- The bits of a mask: the leading ones. -/
theorem ipPrefixToMask_testBit (prefixLen : UInt8) (i : Nat) :
    (ipPrefixToMask prefixLen).toNat.testBit i =
      (decide (32 - prefixLen.toNat ≤ i) && decide (i < 32)) := by
  have hones : (0xFFFFFFFF : UInt32).toNat = 2 ^ 32 - 1 := rfl
  rw [ipPrefixToMask]
  split_ifs with hzero hfull
  · rw [hzero]
    simp
  · have hle : 32 ≤ prefixLen.toNat := UInt8.le_iff_toNat_le.mp hfull
    rw [hones, Nat.testBit_two_pow_sub_one, Nat.sub_eq_zero_of_le hle]
    simp
  · have hlt : prefixLen.toNat < 32 := by
      rw [UInt8.le_iff_toNat_le] at hfull
      exact Nat.lt_of_not_le hfull
    have hpos : 0 < prefixLen.toNat := by
      refine Nat.pos_of_ne_zero fun h => hzero (UInt8.toNat_inj.mp h)
    have hshift : ((32 : UInt32) - prefixLen.toUInt32).toNat = 32 - prefixLen.toNat := by
      have hthirtytwo : (32 : UInt32).toNat = 32 := rfl
      rw [UInt32.toNat_sub, UInt8.toNat_toUInt32, hthirtytwo]
      omega
    rw [UInt32.toNat_shiftLeft, hones, hshift, Nat.testBit_mod_two_pow,
      Nat.mod_eq_of_lt (show 32 - prefixLen.toNat < 32 by omega), Nat.testBit_shiftLeft,
      Nat.testBit_two_pow_sub_one]
    grind

/-- The test of `router_lookup_route` is the one for the network. -/
theorem inNetwork_iff_mask (network ip : IpAddress) :
    ipToU32Public ip &&& ipPrefixToMask network.prefixLen =
        ipToU32Public network &&& ipPrefixToMask network.prefixLen ↔
      InNetwork network ip := by
  have hlt : ∀ address : IpAddress, address.number < 2 ^ 32 := fun address => UInt32.toNat_lt _
  rw [InNetwork, ← UInt32.toNat_inj, UInt32.toNat_and, UInt32.toNat_and, ← Nat.shiftRight_eq_div_pow,
    ← Nat.shiftRight_eq_div_pow]
  constructor
  · intro h
    refine Nat.eq_of_testBit_eq fun i => ?_
    have hbit := congrArg (Nat.testBit · (32 - network.prefixLen.toNat + i)) h
    simp only [Nat.testBit_and, ipPrefixToMask_testBit] at hbit
    rw [Nat.testBit_shiftRight, Nat.testBit_shiftRight]
    by_cases hi : 32 - network.prefixLen.toNat + i < 32
    · simpa [hi, IpAddress.number] using hbit
    · -- Beyond its 32 bits an address has none.
      have hhigh : ∀ address : IpAddress,
          address.number.testBit (32 - network.prefixLen.toNat + i) = false := fun address =>
        Nat.testBit_lt_two_pow ((hlt address).trans_le (Nat.pow_le_pow_right two_pos (by omega)))
      rw [hhigh, hhigh]
  · intro h
    refine Nat.eq_of_testBit_eq fun i => ?_
    simp only [Nat.testBit_and, ipPrefixToMask_testBit]
    by_cases hi : 32 - network.prefixLen.toNat ≤ i
    · have hbit := congrArg (Nat.testBit · (i - (32 - network.prefixLen.toNat))) h
      simp only [Nat.testBit_shiftRight, Nat.add_sub_cancel' hi] at hbit
      rw [IpAddress.number, IpAddress.number] at hbit
      rw [hbit]
    · simp [hi]

/-- The address of a network stands for the same network. -/
theorem inNetwork_network {network ip : IpAddress} :
    InNetwork (ipNetworkAddress network) ip ↔ InNetwork network ip := by
  have hprefix : (ipNetworkAddress network).prefixLen = network.prefixLen := rfl
  rw [← inNetwork_iff_mask, ← inNetwork_iff_mask, hprefix, ipToU32Public_network, UInt32.and_assoc,
    UInt32.and_self]

/-! ## The scan of the table -/

/-- The first of the elements that pass the test and have the largest value. -/
theorem argmax_filter_eq_some_iff {α : Type} {p : α → Bool} {f : α → Nat} {l : List α} {m : α} :
    (l.filter p).argmax f = some m ↔
      ∃ before after, l = before ++ m :: after ∧ p m = true ∧
        (∀ a ∈ before, p a = true → f a < f m) ∧ ∀ a ∈ after, p a = true → f a ≤ f m := by
  induction l generalizing m with
  | nil => simp
  | cons a l ih =>
      by_cases ha : p a = true
      · rw [List.filter_cons_of_pos ha, List.argmax_cons]
        cases hbest : (l.filter p).argmax f with
        | none =>
            -- Nothing behind `a` passes.
            have hnone : ∀ b ∈ l, ¬p b = true := by
              simpa [List.filter_eq_nil_iff] using List.argmax_eq_none.mp hbest
            constructor
            · intro h
              obtain rfl := Option.some.inj h
              exact ⟨[], l, rfl, ha, by simp, fun b hb hpass => absurd hpass (hnone b hb)⟩
            · rintro ⟨before, after, hl, hm, hbefore, hafter⟩
              cases before with
              | nil => rw [(List.cons.inj hl).1]
              | cons b before =>
                  refine absurd hm (hnone m ?_)
                  rw [(List.cons.inj hl).2]
                  simp
        | some c =>
            -- `c` is the best behind `a`, which goes first unless `c` is larger.
            obtain ⟨before, after, rfl, hc, hbefore, hafter⟩ := ih.mp hbest
            change (if f a < f c then some c else some a) = some m ↔ _
            constructor
            · intro h
              by_cases hlt : f a < f c
              · rw [if_pos hlt] at h
                obtain rfl := Option.some.inj h
                refine ⟨a :: before, after, rfl, hc, ?_, hafter⟩
                simpa [hlt] using hbefore
              · rw [if_neg hlt] at h
                obtain rfl := Option.some.inj h
                refine ⟨[], before ++ c :: after, rfl, ha, by simp, fun b hb hpass => ?_⟩
                rcases List.mem_append.mp hb with hb | hb
                · exact ((hbefore b hb hpass).trans_le (not_lt.mp hlt)).le
                · rcases List.mem_cons.mp hb with rfl | hb
                  · exact not_lt.mp hlt
                  · exact (hafter b hb hpass).trans (not_lt.mp hlt)
            · rintro ⟨before', after', hl, hm, hbefore', hafter'⟩
              cases before' with
              | nil =>
                  obtain ⟨rfl, rfl⟩ := List.cons.inj hl
                  rw [if_neg (not_lt.mpr (hafter' c (by simp) hc))]
              | cons b before' =>
                  obtain ⟨rfl, htail⟩ := List.cons.inj hl
                  have hm' := ih.mpr ⟨before', after', htail, hm,
                    fun b hb => hbefore' b (List.mem_cons_of_mem _ hb), hafter'⟩
                  obtain rfl : c = m := by
                    rw [hbest] at hm'
                    exact Option.some.inj hm'
                  rw [if_pos (hbefore' a (by simp) ha)]
      · rw [List.filter_cons_of_neg ha, ih]
        constructor
        · rintro ⟨before, after, rfl, hm, hbefore, hafter⟩
          exact ⟨a :: before, after, rfl, hm, by simpa [ha] using hbefore, hafter⟩
        · rintro ⟨before, after, hl, hm, hbefore, hafter⟩
          cases before with
          | nil =>
              rw [(List.cons.inj hl).1] at ha
              exact absurd hm ha
          | cons b before =>
              exact ⟨before, after, (List.cons.inj hl).2, hm,
                fun b hb => hbefore b (List.mem_cons_of_mem _ hb), hafter⟩

/-- The routes of the table that match an address. -/
def routesTo (dstIp : IpAddress) (table : List RoutingTableEntry) : List RoutingTableEntry :=
  table.filter fun entry => InNetwork entry.destination dstIp

/-- The first of the matching routes with the longest prefix. -/
def longestRoute (dstIp : IpAddress) (table : List RoutingTableEntry) : Option RoutingTableEntry :=
  (routesTo dstIp table).argmax fun entry => entry.destination.prefixLen.toNat

/-- What `best_prefix` is for the best entry so far. -/
def bestPrefix : Option RoutingTableEntry → Int
  | none => -1
  | some entry => entry.destination.prefixLen.toNat

/-- The loop of `router_lookup_route` folds the matching routes as `argmax` does. -/
theorem routerLookupLoop_eq (dstIp : IpAddress) (table : List RoutingTableEntry)
    (best : Option RoutingTableEntry) :
    routerLookupLoop (ipToU32Public dstIp) table best (bestPrefix best) =
      (routesTo dstIp table).foldl
        (List.argAux fun b c => c.destination.prefixLen.toNat < b.destination.prefixLen.toNat)
        best := by
  induction table generalizing best with
  | nil => rfl
  | cons entry table ih =>
      simp only [routerLookupLoop, inNetwork_iff_mask, routesTo]
      by_cases hmatch : InNetwork entry.destination dstIp
      · rw [List.filter_cons_of_pos (by simpa using hmatch), List.foldl_cons]
        by_cases hbetter : bestPrefix best < entry.destination.prefixLen.toNat
        · rw [if_pos ⟨hmatch, hbetter⟩]
          have haux : List.argAux (fun b c => c.destination.prefixLen.toNat <
              b.destination.prefixLen.toNat) best entry = some entry := by
            cases best with
            | none => rfl
            | some old => exact if_pos (by simpa [bestPrefix] using hbetter)
          rw [haux]
          exact ih (some entry)
        · rw [if_neg (fun h => hbetter h.2)]
          have haux : List.argAux (fun b c => c.destination.prefixLen.toNat <
              b.destination.prefixLen.toNat) best entry = best := by
            cases best with
            | none => exact absurd (by simp [bestPrefix]; omega) hbetter
            | some old => exact if_neg (by simpa [bestPrefix] using hbetter)
          rw [haux]
          exact ih best
      · rw [List.filter_cons_of_neg (by simpa using hmatch), if_neg (fun h => hmatch h.1)]
        exact ih best

theorem routerLookupRoute_eq {Ms : Type} (r : RouterState Ms) (dstIp : IpAddress) :
    routerLookupRoute r dstIp = longestRoute dstIp r.config.routingTable :=
  routerLookupLoop_eq dstIp r.config.routingTable none

/-- The route that is found matches, and none that matches has a longer prefix. -/
theorem longestRoute_spec {dstIp : IpAddress} {table : List RoutingTableEntry}
    {route : RoutingTableEntry} (h : longestRoute dstIp table = some route) :
    route ∈ table ∧ InNetwork route.destination dstIp ∧
      ∀ entry ∈ table, InNetwork entry.destination dstIp →
        entry.destination.prefixLen.toNat ≤ route.destination.prefixLen.toNat := by
  have hmem := List.mem_filter.mp (List.argmax_mem h)
  refine ⟨hmem.1, by simpa using hmem.2, fun entry hentry hmatch => ?_⟩
  exact List.le_of_mem_argmax (f := fun entry : RoutingTableEntry => entry.destination.prefixLen.toNat)
    (List.mem_filter.mpr ⟨hentry, by simpa using hmatch⟩) h

theorem longestRoute_eq_none_iff {dstIp : IpAddress} {table : List RoutingTableEntry} :
    longestRoute dstIp table = none ↔
      ∀ entry ∈ table, ¬InNetwork entry.destination dstIp := by
  rw [longestRoute, List.argmax_eq_none, routesTo, List.filter_eq_nil_iff]
  simp

/-- A route at the end of the table is taken where nothing before it matches as well. -/
theorem longestRoute_concat (dstIp : IpAddress) (table : List RoutingTableEntry)
    (route : RoutingTableEntry) :
    longestRoute dstIp (table ++ [route]) =
      if InNetwork route.destination dstIp ∧
          bestPrefix (longestRoute dstIp table) < route.destination.prefixLen.toNat then
        some route
      else
        longestRoute dstIp table := by
  have hfold : (table.filter fun entry => InNetwork entry.destination dstIp).argmax
      (fun entry => entry.destination.prefixLen.toNat) = longestRoute dstIp table := rfl
  have happend : longestRoute dstIp (table ++ [route]) =
      (routesTo dstIp table ++ routesTo dstIp [route]).argmax
        fun entry => entry.destination.prefixLen.toNat := by
    rw [longestRoute, routesTo, List.filter_append]
    rfl
  rw [happend, routesTo, routesTo]
  by_cases hmatch : InNetwork route.destination dstIp
  · rw [List.filter_cons_of_pos (by simpa using hmatch), List.filter_nil, List.argmax_concat, hfold]
    cases longestRoute dstIp table with
    | none => exact (if_pos ⟨hmatch, by simp only [bestPrefix]; omega⟩).symm
    | some best => simp [hmatch, bestPrefix]
  · rw [List.filter_cons_of_neg (by simpa using hmatch), List.filter_nil, List.append_nil, hfold,
      if_neg (fun h => hmatch h.1)]

/-! ## A call -/

/-- `router_add_route` with its writes. -/
def routerAddRouteCall (numInterfaces : Nat) (destination nextHop : IpAddress) (outInterface : Int) :
    StateM Router Bool := do
  let router ← get
  if outInterface < 1 ∨ (numInterfaces : Int) < outInterface ∨ 32 < destination.prefixLen then
    return false
  let destination := ipNetworkAddress destination
  if router.routingTable.any fun entry => routesEqual entry destination nextHop outInterface then
    return true
  if routerMaxRoutes ≤ router.routingTable.length then
    return false
  modify fun router => { router with
    routingTable := router.routingTable ++
      [{ destination := destination, nextHop := nextHop, outInterface := outInterface }] }
  return true

theorem routerAddRouteCall_commits (numInterfaces : Nat) (destination nextHop : IpAddress)
    (outInterface : Int) :
    Commits (routerAddRouteCall numInterfaces destination nextHop outInterface) fun router =>
      routerAddRoute numInterfaces router destination nextHop outInterface := by
  intro router
  simp only [routerAddRouteCall, StateT.run_bind, StateT.run_get, pure_bind, routerAddRoute]
  split_ifs
  all_goals rfl

/-! ## A series of calls -/

/-- The arguments of a call of `router_add_route`. -/
structure RouteAdd where
  destination : IpAddress
  nextHop : IpAddress
  outInterface : Int
  deriving DecidableEq

/-- The entry that the call stores. -/
def RouteAdd.entry (add : RouteAdd) : RoutingTableEntry :=
  { destination := ipNetworkAddress add.destination
    nextHop := add.nextHop
    outInterface := add.outInterface }

/-- The call of `router_add_route`. -/
def RouteAdd.call (numInterfaces : Nat) (router : Router) (add : RouteAdd) : Option Router :=
  routerAddRoute numInterfaces router add.destination add.nextHop add.outInterface

/-- What the call returns, and the router after it. -/
def RouteAdd.run (numInterfaces : Nat) (router : Router) (add : RouteAdd) : Bool × Router :=
  (routerAddRouteCall numInterfaces add.destination add.nextHop add.outInterface).run router

theorem RouteAdd.commits (numInterfaces : Nat) (add : RouteAdd) :
    Commits (fun router => add.run numInterfaces router) fun router => add.call numInterfaces router :=
  routerAddRouteCall_commits numInterfaces add.destination add.nextHop add.outInterface

/-- Calls one after another: the router, and the calls that returned `1`. -/
def routerAddRoutes (numInterfaces : Nat) : Router → List RouteAdd → Router × List RouteAdd
  | router, [] => (router, [])
  | router, add :: adds =>
      match add.call numInterfaces router with
      | none => routerAddRoutes numInterfaces router adds
      | some router' =>
          let rest := routerAddRoutes numInterfaces router' adds
          (rest.1, add :: rest.2)

/-- The table finds for every address what the accepted calls would, and holds each of them. -/
structure HoldsRoutes (numInterfaces : Nat) (accepted : List RouteAdd)
    (table : List RoutingTableEntry) : Prop where
  valid : ∀ add ∈ accepted, ¬(add.outInterface < 1 ∨ (numInterfaces : Int) < add.outInterface ∨
    32 < add.destination.prefixLen)
  stored : ∀ add ∈ accepted, ∃ entry ∈ table,
    routesEqual entry (ipNetworkAddress add.destination) add.nextHop add.outInterface = true
  lookup : ∀ dstIp, longestRoute dstIp table = longestRoute dstIp (accepted.map RouteAdd.entry)

theorem HoldsRoutes.empty (numInterfaces : Nat) : HoldsRoutes numInterfaces [] [] where
  valid := by simp
  stored := by simp
  lookup _ := rfl

/-- Equal routes are routes to one network. -/
theorem destination_of_routesEqual {entry : RoutingTableEntry} {destination nextHop : IpAddress}
    {outInterface : Int} (h : routesEqual entry destination nextHop outInterface = true) :
    entry.destination = destination := by
  simp only [routesEqual, Bool.and_eq_true, beq_iff_eq, ipOctetsEqualPublic] at h
  obtain ⟨⟨⟨-, hprefix⟩, hoctets⟩, -⟩ := h
  cases hentry : entry.destination
  cases destination
  simp_all [IpAddress.octets]

/-- One accepted call. -/
theorem HoldsRoutes.call {n : Nat} {accepted : List RouteAdd} {router router' : Router}
    {add : RouteAdd} (h : HoldsRoutes n accepted router.routingTable)
    (hcall : add.call n router = some router') :
    HoldsRoutes n (accepted ++ [add]) router'.routingTable := by
  rw [RouteAdd.call, routerAddRoute] at hcall
  split at hcall
  · cases hcall
  · rename_i hvalid
    have hadd : ∀ other ∈ accepted ++ [add], ¬(other.outInterface < 1 ∨
        (n : Int) < other.outInterface ∨ 32 < other.destination.prefixLen) := by
      rw [List.forall_mem_append, List.forall_mem_singleton]
      exact ⟨h.valid, hvalid⟩
    have hmap : (accepted ++ [add]).map RouteAdd.entry =
        accepted.map RouteAdd.entry ++ [add.entry] := by
      rw [List.map_append, List.map_singleton]
    simp only at hcall
    split at hcall
    · -- The route is in the table already, which stays as it is.
      rename_i hdup
      obtain rfl := Option.some.inj hcall
      obtain ⟨entry, hentry, hequal⟩ := List.any_eq_true.mp hdup
      refine ⟨hadd, ?_, fun dstIp => ?_⟩
      · rw [List.forall_mem_append, List.forall_mem_singleton]
        exact ⟨h.stored, entry, hentry, hequal⟩
      · -- The equal entry in the table matches wherever this one does.
        rw [hmap, longestRoute_concat, ← h.lookup dstIp]
        have hdestination := destination_of_routesEqual hequal
        refine (if_neg ?_).symm
        rintro ⟨hmatch, hbetter⟩
        have hmatches : InNetwork entry.destination dstIp := by
          rw [hdestination]
          exact hmatch
        cases hbest : longestRoute dstIp router.routingTable with
        | none => exact longestRoute_eq_none_iff.mp hbest entry hentry hmatches
        | some best =>
            have hle := (longestRoute_spec hbest).2.2 entry hentry hmatches
            rw [hbest, bestPrefix] at hbetter
            rw [hdestination] at hle
            exact absurd (Int.ofNat_le.mpr hle) (not_le.mpr hbetter)
    · split at hcall
      · cases hcall
      · -- A new route goes to the end of the table.
        obtain rfl := Option.some.inj hcall
        refine ⟨hadd, ?_, fun dstIp => ?_⟩
        · rw [List.forall_mem_append, List.forall_mem_singleton]
          refine ⟨fun other hother => ?_, add.entry, by simp [RouteAdd.entry], routesEqual_self add.entry⟩
          obtain ⟨entry, hentry, hequal⟩ := h.stored other hother
          exact ⟨entry, List.mem_append_left _ hentry, hequal⟩
        · rw [hmap, longestRoute_concat dstIp (accepted.map RouteAdd.entry), ← h.lookup dstIp]
          exact longestRoute_concat dstIp router.routingTable add.entry

/-- A series of calls. -/
theorem HoldsRoutes.calls {n : Nat} {before : List RouteAdd} (router : Router)
    (h : HoldsRoutes n before router.routingTable) (adds : List RouteAdd) :
    HoldsRoutes n (before ++ (routerAddRoutes n router adds).2)
      (routerAddRoutes n router adds).1.routingTable := by
  induction adds generalizing before router with
  | nil => simpa [routerAddRoutes] using h
  | cons add adds ih =>
      rw [routerAddRoutes]
      split
      · exact ih router h
      · rename_i router' hcall
        simpa using ih router' (h.call hcall)

/-- A call that was accepted once is accepted again, and changes nothing. -/
theorem HoldsRoutes.again {n : Nat} {accepted : List RouteAdd} {router : Router}
    (h : HoldsRoutes n accepted router.routingTable) {add : RouteAdd} (hadd : add ∈ accepted) :
    add.call n router = some router := by
  rw [RouteAdd.call, routerAddRoute, if_neg (h.valid add hadd)]
  exact if_pos (List.any_eq_true.mpr (h.stored add hadd))

/-- The prefix that is found depends on the set of routes alone. -/
theorem longestRoute_prefix_congr {dstIp : IpAddress} {table table' : List RoutingTableEntry}
    (h : ∀ entry, entry ∈ table ↔ entry ∈ table') :
    (longestRoute dstIp table).map (·.destination.prefixLen) =
      (longestRoute dstIp table').map (·.destination.prefixLen) := by
  cases hroute : longestRoute dstIp table with
  | none =>
      have hnone : longestRoute dstIp table' = none :=
        longestRoute_eq_none_iff.mpr fun entry hentry =>
          longestRoute_eq_none_iff.mp hroute entry ((h entry).mpr hentry)
      rw [hnone]
  | some route =>
      obtain ⟨hmem, hmatch, hmax⟩ := longestRoute_spec hroute
      cases hroute' : longestRoute dstIp table' with
      | none => exact absurd hmatch (longestRoute_eq_none_iff.mp hroute' route ((h route).mp hmem))
      | some route' =>
          obtain ⟨hmem', hmatch', hmax'⟩ := longestRoute_spec hroute'
          refine congrArg some (UInt8.toNat_inj.mp (le_antisymm ?_ ?_))
          · exact hmax' route ((h route).mp hmem) hmatch
          · exact hmax route' ((h route').mpr hmem') hmatch'

/-! ## Longest-prefix match -/

/-- The router after a series of calls that begins with an empty routing table. -/
def RouterState.addRoutes {Ms : Type} (r : RouterState Ms) (adds : List RouteAdd) : RouterState Ms :=
  { r with
    config := (routerAddRoutes r.numInterfaces { r.config with routingTable := [] } adds).1 }

/-- The calls of the series that return `1`. -/
def RouterState.acceptedRoutes {Ms : Type} (r : RouterState Ms) (adds : List RouteAdd) :
    List RouteAdd :=
  (routerAddRoutes r.numInterfaces { r.config with routingTable := [] } adds).2

theorem RouterState.addRoutes_holds {Ms : Type} (r : RouterState Ms) (adds : List RouteAdd) :
    HoldsRoutes r.numInterfaces (r.acceptedRoutes adds) (r.addRoutes adds).config.routingTable :=
  HoldsRoutes.calls { r.config with routingTable := [] } (HoldsRoutes.empty r.numInterfaces) adds

theorem RouterState.lookup_addRoutes {Ms : Type} (r : RouterState Ms) (adds : List RouteAdd)
    (dstIp : IpAddress) :
    routerLookupRoute (r.addRoutes adds) dstIp =
      longestRoute dstIp ((r.acceptedRoutes adds).map RouteAdd.entry) := by
  rw [routerLookupRoute_eq]
  exact (r.addRoutes_holds adds).lookup dstIp

/-- A last call that is rejected. -/
theorem routerAddRoutes_concat_rejected {n : Nat} {router : Router} {adds : List RouteAdd}
    {add : RouteAdd} (h : add.call n (routerAddRoutes n router adds).1 = none) :
    routerAddRoutes n router (adds ++ [add]) = routerAddRoutes n router adds := by
  induction adds generalizing router with
  | nil =>
      have hcall : add.call n router = none := h
      simp [routerAddRoutes, hcall]
  | cons first adds ih =>
      rw [List.cons_append, routerAddRoutes, routerAddRoutes]
      rw [routerAddRoutes] at h
      cases hfirst : first.call n router with
      | none =>
          rw [hfirst] at h
          exact ih h
      | some router' =>
          rw [hfirst] at h
          simp only [ih h]

/-- The earliest of the accepted calls with the longest matching prefix. -/
theorem longestRoute_map_entry_iff {accepted : List RouteAdd} {dstIp : IpAddress}
    {route : RoutingTableEntry} :
    longestRoute dstIp (accepted.map RouteAdd.entry) = some route ↔
      ∃ before add after, accepted = before ++ add :: after ∧ add.entry = route ∧
        InNetwork add.destination dstIp ∧
        (∀ other ∈ before, InNetwork other.destination dstIp →
          other.destination.prefixLen < add.destination.prefixLen) ∧
        ∀ other ∈ after, InNetwork other.destination dstIp →
          other.destination.prefixLen ≤ add.destination.prefixLen := by
  have hmatch : ∀ add : RouteAdd, InNetwork add.entry.destination dstIp ↔
      InNetwork add.destination dstIp := fun add => inNetwork_network
  have hprefix : ∀ add : RouteAdd, add.entry.destination.prefixLen = add.destination.prefixLen :=
    fun add => rfl
  rw [longestRoute, routesTo, argmax_filter_eq_some_iff]
  constructor
  · rintro ⟨before, after, hmap, hroute, hbefore, hafter⟩
    obtain ⟨before, rest, rfl, rfl, hrest⟩ := List.map_eq_append_iff.mp hmap
    obtain ⟨add, after, rfl, rfl, rfl⟩ := List.map_eq_cons_iff.mp hrest
    simp only [decide_eq_true_eq, List.forall_mem_map, hmatch, hprefix] at hroute hbefore hafter
    exact ⟨before, add, after, rfl, rfl, hroute,
      fun other hother h => UInt8.lt_iff_toNat_lt.mpr (hbefore other hother h),
      fun other hother h => UInt8.le_iff_toNat_le.mpr (hafter other hother h)⟩
  · rintro ⟨before, add, after, rfl, rfl, hroute, hbefore, hafter⟩
    refine ⟨before.map RouteAdd.entry, after.map RouteAdd.entry, by simp, ?_, ?_, ?_⟩ <;>
      simp only [decide_eq_true_eq, List.forall_mem_map, hmatch, hprefix]
    · exact hroute
    · exact fun other hother h => UInt8.lt_iff_toNat_lt.mp (hbefore other hother h)
    · exact fun other hother h => UInt8.le_iff_toNat_le.mp (hafter other hother h)

/-- After any series of calls of `router_add_route`, `router_lookup_route` finds the earliest of the
accepted routes with the longest matching prefix, whose length does not depend on their order; a call
accepted before changes nothing, and neither does one that is rejected. -/
theorem routerLookupRoute_longestPrefix {Ms : Type} (r : RouterState Ms) (adds : List RouteAdd)
    (dstIp : IpAddress) :
    (routerLookupRoute (r.addRoutes adds) dstIp = none ↔
      ∀ add ∈ r.acceptedRoutes adds, ¬InNetwork add.destination dstIp) ∧
    (∀ route, routerLookupRoute (r.addRoutes adds) dstIp = some route ↔
      ∃ before add after, r.acceptedRoutes adds = before ++ add :: after ∧ add.entry = route ∧
        InNetwork add.destination dstIp ∧
        (∀ other ∈ before, InNetwork other.destination dstIp →
          other.destination.prefixLen < add.destination.prefixLen) ∧
        ∀ other ∈ after, InNetwork other.destination dstIp →
          other.destination.prefixLen ≤ add.destination.prefixLen) ∧
    (∀ adds', (∀ add, add ∈ r.acceptedRoutes adds' ↔ add ∈ r.acceptedRoutes adds) →
      (routerLookupRoute (r.addRoutes adds') dstIp).map (·.destination.prefixLen) =
        (routerLookupRoute (r.addRoutes adds) dstIp).map (·.destination.prefixLen)) ∧
    (∀ add ∈ r.acceptedRoutes adds,
      add.run r.numInterfaces (r.addRoutes adds).config = (true, (r.addRoutes adds).config)) ∧
    (∀ add, (add.run r.numInterfaces (r.addRoutes adds).config).1 = false →
      (add.run r.numInterfaces (r.addRoutes adds).config).2 = (r.addRoutes adds).config ∧
        r.addRoutes (adds ++ [add]) = r.addRoutes adds) := by
  have hentry : ∀ add : RouteAdd, InNetwork add.entry.destination dstIp ↔
      InNetwork add.destination dstIp := fun add => inNetwork_network
  refine ⟨?_, fun route => ?_, fun adds' hsame => ?_, fun add hadd => ?_, fun add hrejected => ?_⟩
  · rw [r.lookup_addRoutes, longestRoute_eq_none_iff, List.forall_mem_map]
    simp only [hentry]
  · rw [r.lookup_addRoutes, longestRoute_map_entry_iff]
  · rw [r.lookup_addRoutes, r.lookup_addRoutes]
    refine longestRoute_prefix_congr fun entry => ?_
    simp only [List.mem_map, hsame]
  · exact (add.commits r.numInterfaces).run_eq ((r.addRoutes_holds adds).again hadd)
  · refine ⟨(add.commits r.numInterfaces).keeps hrejected, ?_⟩
    have hconcat := routerAddRoutes_concat_rejected ((add.commits r.numInterfaces).fails_iff.mp hrejected)
    rw [RouterState.addRoutes, hconcat]
    rfl

end MagiStack
