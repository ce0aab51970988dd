import MagiStack.Layer2.Switch

/-!
# SwitchNetwork — VLAN isolation across switches

Switches joined by links, with stations behind the other linked ports.  A run interleaves bytes that
stations inject with the arrival of what is in flight; what a switch sends goes to the switch at the
other end of the link, or is delivered to the station there.  Each frame in flight carries the place of
the injected bytes it descends from.  Where links join trunk ports, a frame in flight between switches
carries the VLAN of the access port it was injected on, so that it is delivered in that VLAN only.
-/

namespace MagiStack

/-! ## Networks -/

/-- An interface of a switch. -/
abbrev SwitchPort (S : Type*) : Type _ := S × Fin maxPort

/-- Switches, and for each interface the one at the other end of its link when that is a switch's. -/
structure SwitchNetwork (S : Type*) where
  switches : S → Switch
  peer : SwitchPort S → Option (SwitchPort S)

/-- Bytes at an interface, with the place of the injected bytes they descend from. -/
structure SwitchFrame (S : Type*) where
  origin : Nat
  port : SwitchPort S
  raw : List UInt8
  deriving DecidableEq

/-- The MAC tables, all that was injected, what is in flight and what was delivered to stations. -/
structure SwitchWorld (S : Type*) where
  tables : S → SwitchMacTable
  injected : List (SwitchPort S × List UInt8)
  flights : List (SwitchFrame S)
  delivered : List (SwitchFrame S)

inductive SwitchAction (S : Type*)
  | inject (port : SwitchPort S) (raw : List UInt8)
  | deliver (index : Nat)

variable {S : Type*}

namespace SwitchNetwork

/-- The configuration of a port. -/
def config (net : SwitchNetwork S) (port : SwitchPort S) : SwitchPortConfig :=
  (net.switches port.1).portConfigs port.2

/-- The switch has the port. -/
def HasPort (net : SwitchNetwork S) (port : SwitchPort S) : Prop :=
  port.2.val < (net.switches port.1).numInterfaces

/-- A switch with the MAC table it has in a world. -/
def switch (net : SwitchNetwork S) (w : SwitchWorld S) (s : S) : Switch :=
  { net.switches s with macTable := w.tables s }

/-- What a switch sends, where it goes on to another switch. -/
def onward (net : SwitchNetwork S) (origin : Nat) (s : S) (sent : List (Fin maxPort × List UInt8)) :
    List (SwitchFrame S) :=
  sent.filterMap fun out =>
    (net.peer (s, out.1)).map fun port => { origin := origin, port := port, raw := out.2 }

/-- What a switch sends, where it is delivered to a station. -/
def outward (net : SwitchNetwork S) (origin : Nat) (s : S) (sent : List (Fin maxPort × List UInt8)) :
    List (SwitchFrame S) :=
  sent.filterMap fun out =>
    if (net.peer (s, out.1)).isSome then none
    else some { origin := origin, port := (s, out.1), raw := out.2 }

/-- One frame in flight arrives at its switch. -/
def deliver [DecidableEq S] (net : SwitchNetwork S) (w : SwitchWorld S) (index : Nat) :
    SwitchWorld S :=
  match w.flights[index]? with
  | none => w
  | some flight =>
      let s := flight.port.1
      let received :=
        switchReceive (net.switch w s) (interfacePortNumber flight.port.2) flight.raw
      { w with
        tables := Function.update w.tables s received.1.macTable
        flights := w.flights.eraseIdx index ++ net.onward flight.origin s received.2
        delivered := w.delivered ++ net.outward flight.origin s received.2 }

def step [DecidableEq S] (net : SwitchNetwork S) (w : SwitchWorld S) : SwitchAction S → SwitchWorld S
  | .inject port raw =>
      { w with
        injected := w.injected ++ [(port, raw)]
        flights := w.flights ++ [{ origin := w.injected.length, port := port, raw := raw }] }
  | .deliver index => net.deliver w index

def initial (net : SwitchNetwork S) : SwitchWorld S :=
  { tables := fun s => (net.switches s).macTable
    injected := []
    flights := []
    delivered := [] }

def run [DecidableEq S] (net : SwitchNetwork S) (actions : List (SwitchAction S)) : SwitchWorld S :=
  actions.foldl net.step net.initial

/-- Links between switches join trunk ports, and access ports carry valid VLAN ids. -/
structure TrunkLinked (net : SwitchNetwork S) : Prop where
  trunk : ∀ {a b}, net.peer a = some b →
    (net.config a).mode = .trunk ∧ (net.config b).mode = .trunk
  vlan : ∀ {a}, net.HasPort a → (net.config a).mode = .access →
    1 ≤ (net.config a).vlanId ∧ (net.config a).vlanId ≤ 4094

/-- Stations inject on access ports. -/
def InjectsOnAccess (net : SwitchNetwork S) (actions : List (SwitchAction S)) : Prop :=
  ∀ port raw, .inject port raw ∈ actions → (net.config port).mode = .access

/-- The frame descends from bytes injected on an access port of VLAN `vlanId`. -/
def ComesFromVlan (net : SwitchNetwork S) (w : SwitchWorld S) (frame : SwitchFrame S)
    (vlanId : Int) : Prop :=
  ∃ port raw, w.injected[frame.origin]? = some (port, raw) ∧
    (net.config port).mode = .access ∧ (net.config port).vlanId = vlanId

end SwitchNetwork

/-! ## One switch -/

/-- A frame with the tag of a VLAN. -/
def ethernetTagged (frame : EthernetFrame) (vlanId : Int) : EthernetFrame :=
  { frame with hasVlan := true, vlanId := UInt16.ofInt vlanId }

theorem ethernetTagged_vlanId (frame : EthernetFrame) {vlanId : Int} (hpos : 1 ≤ vlanId)
    (hle : vlanId ≤ 4095) : ((ethernetTagged frame vlanId).vlanId.toNat : Int) = vlanId := by
  simp only [ethernetTagged, UInt16.ofInt, UInt16.toNat_ofNat']
  omega

theorem ethernetTagged_serializable {frame : EthernetFrame} (h : frame.Serializable) {vlanId : Int}
    (hpos : 1 ≤ vlanId) (hle : vlanId ≤ 4095) : (ethernetTagged frame vlanId).Serializable := by
  have hvlan := ethernetTagged_vlanId frame hpos hle
  refine ⟨h.payload_le, fun _ => ?_, fun hno => ?_, fun hno => ?_⟩
  · apply UInt16.toNat_inj.mp
    rw [ethernetVlanIdMask_and_toNat]
    omega
  · cases hno
  · cases hno

/-- A trunk port sends a frame with a valid VLAN tagged. -/
theorem switchOutbound_trunk {config : SwitchPortConfig} (hmode : config.mode = .trunk)
    (frame : EthernetFrame) {vlanId : Int} (hpos : 1 ≤ vlanId) (hle : vlanId ≤ 4095) :
    switchOutbound config vlanId frame = some (ethernetTagged frame vlanId) := by
  have hvlan := ethernetTagged_vlanId frame hpos hle
  simp only [ethernetTagged] at hvlan
  simp only [switchOutbound, hmode, ethernetSetVlan]
  refine (if_neg ?_).trans rfl
  rintro (hzero | hlarge)
  · rw [hzero] at hvlan
    simp at hvlan
    omega
  · rw [UInt16.lt_iff_toNat_lt] at hlarge
    have hmask : ethernetVlanIdMask.toNat = 4095 := rfl
    omega

/-- The VLAN a switch takes a frame into fits a tag; on a trunk it is that of the frame's tag, on an
access port that of the port. -/
theorem switchDetermineIngressVlan_eq_some {sw : Switch} {port : Fin maxPort} {frame : EthernetFrame}
    {vlanId : Int}
    (h : switchDetermineIngressVlan sw (interfacePortNumber port) frame = some vlanId) :
    port.val < sw.numInterfaces ∧ 1 ≤ vlanId ∧
      ((sw.portConfigs port).mode = .access →
        frame.hasVlan = false ∧ vlanId = (sw.portConfigs port).vlanId) ∧
      ((sw.portConfigs port).mode = .trunk →
        frame.hasVlan = true ∧ vlanId = frame.vlanId.toNat) := by
  rw [switchDetermineIngressVlan] at h
  split at h
  · cases h
  · rename_i found hfound
    rcases Switch.interface_eq_some.mp hfound with ⟨hnumber, hlt⟩
    have hport := interfacePortNumber_injective hnumber
    subst hport
    -- An access port takes frames without a tag, a trunk those with one.
    split at h
    · rename_i hmode
      split at h
      · cases h
      · rename_i htag
        split at h
        · rename_i hpos
          cases h
          refine ⟨hlt, hpos, fun _ => ⟨by simpa using htag, rfl⟩, fun htrunk => ?_⟩
          cases hmode.symm.trans htrunk
        · cases h
    · rename_i hmode
      split at h
      · cases h
      · rename_i htag
        cases h
        simp only [not_or, Bool.not_eq_false] at htag
        have hpos := UInt16.le_iff_toNat_le.mp (UInt16.not_lt.mp htag.2)
        have hone : (1 : UInt16).toNat = 1 := rfl
        refine ⟨hlt, by omega, fun haccess => ?_, fun _ => ⟨htag.1, rfl⟩⟩
        cases hmode.symm.trans haccess

/-- What a switch sends for received bytes is the frame they hold, in the VLAN it took it into. -/
theorem mem_switchReceive {sw : Switch} {inPort : Int} {raw out : List UInt8} {port : Fin maxPort}
    (h : (port, out) ∈ (switchReceive sw inPort raw).2) :
    ∃ frame vlanId, ethernetFromBytes raw = some frame ∧
      switchDetermineIngressVlan sw inPort frame = some vlanId ∧
      interfacePortNumber port ≠ inPort ∧
      switchSendFrameOnPort sw (interfacePortNumber port) vlanId frame = some (port, out) := by
  rw [switchReceive] at h
  split at h
  · cases h
  · rename_i frame hparse
    split at h
    · cases h
    · rename_i vlanId hvlan
      rcases mem_switchForward h with ⟨hne, hsend⟩
      exact ⟨frame, vlanId, hparse, hvlan, hne, hsend⟩

/-! ## Isolation -/

namespace SwitchNetwork

variable {net : SwitchNetwork S} {w : SwitchWorld S}

theorem mem_onward {origin : Nat} {s : S} {sent : List (Fin maxPort × List UInt8)}
    {frame : SwitchFrame S} (h : frame ∈ net.onward origin s sent) :
    frame.origin = origin ∧
      ∃ port, net.peer (s, port) = some frame.port ∧ (port, frame.raw) ∈ sent := by
  rcases List.mem_filterMap.mp h with ⟨⟨port, raw⟩, hsent, hout⟩
  rcases Option.map_eq_some_iff.mp hout with ⟨target, hpeer, rfl⟩
  exact ⟨rfl, port, hpeer, hsent⟩

theorem mem_outward {origin : Nat} {s : S} {sent : List (Fin maxPort × List UInt8)}
    {frame : SwitchFrame S} (h : frame ∈ net.outward origin s sent) :
    frame.origin = origin ∧ frame.port.1 = s ∧ net.peer frame.port = none ∧
      (frame.port.2, frame.raw) ∈ sent := by
  rcases List.mem_filterMap.mp h with ⟨⟨port, raw⟩, hsent, hout⟩
  split at hout
  · cases hout
  · rename_i hpeer
    cases hout
    exact ⟨rfl, rfl, by simpa using hpeer, hsent⟩

/-- A frame in flight is what was injected, or is tagged with the VLAN it was injected in. -/
def FlightIsolated (net : SwitchNetwork S) (w : SwitchWorld S) (flight : SwitchFrame S) : Prop :=
  (∃ raw, w.injected[flight.origin]? = some (flight.port, raw) ∧
    (net.config flight.port).mode = .access) ∨
  (net.config flight.port).mode = .trunk ∧
    ∃ frame, ethernetFromBytes flight.raw = some frame ∧ frame.hasVlan = true ∧
      net.ComesFromVlan w flight frame.vlanId.toNat

/-- What was delivered out of an access port comes from that port's VLAN. -/
def DeliveryIsolated (net : SwitchNetwork S) (w : SwitchWorld S) (frame : SwitchFrame S) : Prop :=
  (net.config frame.port).mode = .access →
    net.ComesFromVlan w frame (net.config frame.port).vlanId

structure Isolated (net : SwitchNetwork S) (w : SwitchWorld S) : Prop where
  flights : ∀ flight ∈ w.flights, net.FlightIsolated w flight
  delivered : ∀ frame ∈ w.delivered, net.DeliveryIsolated w frame

/-- The VLAN a switch takes a frame into is the one it was injected in, and fits a tag. -/
theorem FlightIsolated.ingress (h : net.TrunkLinked) {flight : SwitchFrame S}
    (hflight : net.FlightIsolated w flight) {frame : EthernetFrame} {vlanId : Int}
    (hparse : ethernetFromBytes flight.raw = some frame)
    (hvlan : switchDetermineIngressVlan (net.switch w flight.port.1)
      (interfacePortNumber flight.port.2) frame = some vlanId) :
    1 ≤ vlanId ∧ vlanId ≤ 4095 ∧ net.ComesFromVlan w flight vlanId := by
  rcases switchDetermineIngressVlan_eq_some hvlan with ⟨hport, hpos, haccess, htrunk⟩
  refine ⟨hpos, ?_⟩
  rcases hflight with ⟨raw, hinjected, hmode⟩ | ⟨hmode, tagged, htagged, -, hfrom⟩
  · rcases haccess hmode with ⟨-, heq⟩
    have hvalid := h.vlan (a := flight.port) hport hmode
    have hconfig : vlanId = (net.config flight.port).vlanId := heq
    exact ⟨by omega, flight.port, raw, hinjected, hmode, hconfig.symm⟩
  · have hsame : tagged = frame := Option.some.inj (htagged.symm.trans hparse)
    rw [hsame] at hfrom
    rcases htrunk hmode with ⟨htag, heq⟩
    have hmask := (ethernetFromBytes_serializable hparse).vlanId_masked htag
    have hmod := ethernetVlanIdMask_and_toNat frame.vlanId
    rw [hmask] at hmod
    refine ⟨by omega, ?_⟩
    rw [heq]
    exact hfrom

/-- One arrival keeps what is in flight and what is delivered isolated. -/
theorem Isolated.deliver [DecidableEq S] (h : net.TrunkLinked) (hw : net.Isolated w) (index : Nat) :
    net.Isolated (net.deliver w index) := by
  rw [SwitchNetwork.deliver]
  cases hflight : w.flights[index]? with
  | none => exact hw
  | some flight =>
      have hisolated := hw.flights flight (List.mem_of_getElem? hflight)
      constructor
      · intro frame hframe
        rcases List.mem_append.mp hframe with hold | hnew
        · exact hw.flights frame (List.mem_of_mem_eraseIdx hold)
        · rcases mem_onward hnew with ⟨horigin, port, hpeer, hsent⟩
          rcases mem_switchReceive hsent with ⟨parsed, vlanId, hparse, hvlan, -, hsend⟩
          rcases hisolated.ingress h hparse hvlan with ⟨hpos, hle, injectedAt, raw, hfrom⟩
          -- Between switches a frame travels on a trunk, with the tag of its network.
          rcases h.trunk hpeer with ⟨hout, hin⟩
          rcases switchSendFrameOnPort_eq_some hsend with ⟨-, -, -, outbound, houtbound, hraw⟩
          have htagged := switchOutbound_trunk hout parsed hpos hle
          have hsame : outbound = ethernetTagged parsed vlanId :=
            Option.some.inj (houtbound.symm.trans htagged)
          have hserializable :=
            ethernetTagged_serializable (ethernetFromBytes_serializable hparse) hpos hle
          refine Or.inr ⟨hin, ethernetTagged parsed vlanId, ?_, rfl, injectedAt, raw, ?_⟩
          · rw [hraw, hsame]
            exact ethernetFromBytes_bytes hserializable
          · rw [horigin, ethernetTagged_vlanId parsed hpos hle]
            exact hfrom
      · intro frame hframe
        rcases List.mem_append.mp hframe with hold | hnew
        · exact hw.delivered frame hold
        · intro hmode
          rcases mem_outward hnew with ⟨horigin, hswitch, -, hsent⟩
          rcases mem_switchReceive hsent with ⟨parsed, vlanId, hparse, hvlan, -, hsend⟩
          rcases hisolated.ingress h hparse hvlan with ⟨-, -, injectedAt, raw, hfrom⟩
          -- An access port lets out the frames of its own network only.
          rcases switchSendFrameOnPort_eq_some hsend with ⟨-, hport, hallows, -⟩
          rw [switchPortAllowsVlan_iff hport] at hallows
          have hconfig : (net.config frame.port).vlanId = vlanId := by
            rw [config, hswitch] at hmode ⊢
            exact hallows.2 hmode
          rw [ComesFromVlan, hconfig, horigin]
          exact ⟨injectedAt, raw, hfrom⟩

theorem ComesFromVlan.inject {frame : SwitchFrame S} {vlanId : Int}
    (h : net.ComesFromVlan w frame vlanId) {w' : SwitchWorld S} {entry : SwitchPort S × List UInt8}
    (hinjected : w'.injected = w.injected ++ [entry]) : net.ComesFromVlan w' frame vlanId := by
  rcases h with ⟨port, raw, hget, hrest⟩
  refine ⟨port, raw, ?_, hrest⟩
  rw [hinjected, List.getElem?_append_left (List.getElem?_eq_some_iff.mp hget).1]
  exact hget

theorem Isolated.step [DecidableEq S] (h : net.TrunkLinked) (hw : net.Isolated w)
    {action : SwitchAction S}
    (haction : ∀ port raw, action = .inject port raw → (net.config port).mode = .access) :
    net.Isolated (net.step w action) := by
  cases action with
  | deliver index => exact hw.deliver h index
  | inject port raw =>
      constructor
      · intro flight hflight
        rcases List.mem_append.mp hflight with hold | hnew
        · rcases hw.flights flight hold with ⟨raw', hinjected, hmode⟩ | ⟨hmode, frame, hparse, htag, hfrom⟩
          · refine Or.inl ⟨raw', ?_, hmode⟩
            have hlt := (List.getElem?_eq_some_iff.mp hinjected).1
            exact (List.getElem?_append_left hlt).trans hinjected
          · exact Or.inr ⟨hmode, frame, hparse, htag, hfrom.inject rfl⟩
        · rw [List.mem_singleton.mp hnew]
          exact Or.inl ⟨raw, List.getElem?_concat_length, haction port raw rfl⟩
      · intro frame hframe hmode
        exact (hw.delivered frame hframe hmode).inject rfl

theorem isolated_run [DecidableEq S] (h : net.TrunkLinked) {actions : List (SwitchAction S)}
    (hactions : net.InjectsOnAccess actions) : net.Isolated (net.run actions) := by
  have hfoldl : ∀ w, net.Isolated w → net.Isolated (actions.foldl net.step w) := by
    induction actions with
    | nil => exact fun _ hw => hw
    | cons action rest ih =>
        intro w hw
        refine ih (fun port raw hmem => hactions port raw (List.mem_cons_of_mem action hmem)) _ ?_
        refine hw.step h ?_
        rintro port raw rfl
        exact hactions port raw List.mem_cons_self
  exact hfoldl net.initial ⟨fun _ hflight => (nomatch hflight), fun _ hframe => (nomatch hframe)⟩

end SwitchNetwork

/-- What is delivered out of an access port of a VLAN descends from bytes injected on an access port of
that VLAN. -/
theorem switch_vlan_isolation [DecidableEq S] (net : SwitchNetwork S) (h : net.TrunkLinked)
    (actions : List (SwitchAction S)) (hactions : net.InjectsOnAccess actions) :
    ∀ frame ∈ (net.run actions).delivered, (net.config frame.port).mode = .access →
      net.ComesFromVlan (net.run actions) frame (net.config frame.port).vlanId :=
  (SwitchNetwork.isolated_run h hactions).delivered

/-! ## Two switches -/

theorem three_le_maxPort : 3 ≤ maxPort := by decide

/-- Port 1 in VLAN 10, port 2 in VLAN 20, port 3 a trunk. -/
def exampleSwitch : Switch :=
  { switchInit 3 three_le_maxPort fun port => port.val < 3 with
    portConfigs := fun port =>
      if port = 2 then { mode := .trunk, vlanId := 0 }
      else { mode := .access, vlanId := if port = 0 then 10 else 20 } }

/-- Two such switches, joined by their trunks. -/
def exampleNetwork : SwitchNetwork (Fin 2) :=
  { switches := fun _ => exampleSwitch
    peer := fun port => if port.2 = 2 then some (1 - port.1, 2) else none }

theorem exampleNetwork_trunkLinked : exampleNetwork.TrunkLinked := by
  constructor
  · intro a b hpeer
    simp only [exampleNetwork] at hpeer
    split at hpeer
    · rename_i hport
      cases hpeer
      simp [SwitchNetwork.config, exampleNetwork, exampleSwitch, hport]
    · cases hpeer
  · intro a _ hmode
    simp only [SwitchNetwork.config, exampleNetwork, exampleSwitch] at hmode ⊢
    split at hmode
    · cases hmode
    · rename_i hport
      rw [if_neg hport]
      simp only
      split
      all_goals decide

/-- A broadcast injected on port 1 of one switch, and its two arrivals. -/
def exampleBroadcast : List (SwitchAction (Fin 2)) :=
  [.inject (0, 0) (MacAddress.broadcast.bytes ++ [2, 0, 0, 0, 0, 0, 8, 0, 1]), .deliver 0, .deliver 0]

/-- It reaches port 1 of the other switch and no port of VLAN 20. -/
theorem switch_vlan_isolation_broadcast :
    (exampleNetwork.run exampleBroadcast).delivered.map SwitchFrame.port = [(1, 0)] ∧
      ∀ frame ∈ (exampleNetwork.run exampleBroadcast).delivered,
        (exampleNetwork.config frame.port).mode = .access →
          exampleNetwork.ComesFromVlan (exampleNetwork.run exampleBroadcast) frame
            (exampleNetwork.config frame.port).vlanId := by
  refine ⟨by decide +kernel, ?_⟩
  refine switch_vlan_isolation exampleNetwork exampleNetwork_trunkLinked exampleBroadcast ?_
  intro port raw hmem
  simp only [exampleBroadcast, List.mem_cons, SwitchAction.inject.injEq, reduceCtorEq,
    List.not_mem_nil, or_false] at hmem
  rw [hmem.1]
  rfl

end MagiStack
