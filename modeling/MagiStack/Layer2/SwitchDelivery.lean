import Mathlib.Data.List.Perm.Basic
import Mathlib.Data.Fintype.Prod
import MagiStack.Library.PortGraph
import MagiStack.Layer2.SwitchNetwork

/-!
# SwitchDelivery — exactly-once delivery on loop-free networks

Hosts on access ports of switches whose links form no loop.  What is in flight for one injected frame
never turns back, so that it dies out; and for each host it is meant for, the deliveries to that host
and the frames in flight that can still get there always number one.  Every MAC table entry for a host
points out of the port that leads to it, which is what makes learned forwarding as good as flooding.
-/

namespace MagiStack

open Relation

variable {S : Type*}

/-! ## Hosts on switches -/

/-- Switches with proper wiring: a link joins two different ports that the switches have, and both
ends know it. -/
structure SwitchFabric (S : Type*) extends SwitchNetwork S where
  trunkLinked : toSwitchNetwork.TrunkLinked
  peer_symm : ∀ {a b}, peer a = some b → peer b = some a
  peer_ne : ∀ a, peer a ≠ some a
  hasPort : ∀ {a b}, peer a = some b → toSwitchNetwork.HasPort a
  linked : ∀ {a b}, peer a = some b → (switches a.1).linked a.2 = true

/-- The ports and links of a network. -/
def SwitchFabric.graph (fabric : SwitchFabric S) : PortGraph (SwitchPort S) S :=
  { node := Prod.fst
    peer := fabric.peer
    peer_symm := fabric.peer_symm
    peer_ne := fabric.peer_ne }

/-- Hosts on access ports of a network, each with an address of its own. -/
structure SwitchHosts (fabric : SwitchFabric S) (H : Type*) where
  port : H → SwitchPort S
  mac : H → MacAddress
  port_injective : ∀ {x y}, port x = port y → x = y
  mac_injective : ∀ {x y}, mac x = mac y → x = y
  unicast : ∀ x, (mac x).IsUnicast
  access : ∀ x, (fabric.config (port x)).mode = .access
  hasPort : ∀ x, fabric.HasPort (port x)
  linked : ∀ x, (fabric.switches (port x).1).linked (port x).2 = true
  noPeer : ∀ x, fabric.peer (port x) = none

namespace SwitchHosts

variable {H : Type*} {fabric : SwitchFabric S} (hosts : SwitchHosts fabric H)

/-- The VLAN of a host's port. -/
def vlan (x : H) : Int :=
  (fabric.config (hosts.port x)).vlanId

/-- A frame a host sends: untagged, with its own address as source. -/
structure Sends (x : H) (frame : EthernetFrame) : Prop where
  serializable : frame.Serializable
  untagged : frame.hasVlan = false
  source : frame.srcMac = hosts.mac x

/-- Every injection is a frame that a host sends. -/
def SendsOnly (actions : List (SwitchAction S)) : Prop :=
  ∀ port raw, .inject port raw ∈ actions →
    ∃ x frame, hosts.Sends x frame ∧ port = hosts.port x ∧ raw = ethernetBytes frame

/-- The network joins the switches of two hosts. -/
def Connected (x y : H) : Prop :=
  ReflTransGen fabric.graph.Adjacent (hosts.port x).1 (hosts.port y).1

/-- Leaving the switch through a port leads to a host. -/
def LeadsTo (x : H) (port : SwitchPort S) : Prop :=
  fabric.graph.Route (hosts.port x) port

/-- What arrived at a port can still get to a host. -/
def CanReach (x : H) (port : SwitchPort S) : Prop :=
  fabric.graph.Beyond (hosts.port x) port

theorem vlan_valid (x : H) : 1 ≤ hosts.vlan x ∧ hosts.vlan x ≤ 4094 :=
  fabric.trunkLinked.vlan (hosts.hasPort x) (hosts.access x)

variable {hosts}

theorem leadsTo_iff {x : H} {port : SwitchPort S} :
    hosts.LeadsTo x port ↔
      port = hosts.port x ∨ ∃ next, fabric.peer port = some next ∧ hosts.CanReach x next :=
  PortGraph.route_iff

/-- A host's own port leads nowhere else. -/
theorem not_canReach_self (hacyclic : fabric.graph.Acyclic) (x : H) :
    ¬ hosts.CanReach x (hosts.port x) := by
  rintro ⟨c, hnode, hne, hroute⟩
  exact hne (hacyclic.route_unique PortGraph.Route.here hroute hnode)

theorem canReach_of_connected {x y : H} (hconnected : hosts.Connected x y) (hne : y ≠ x) :
    hosts.CanReach y (hosts.port x) := by
  rcases PortGraph.exists_route (hosts.noPeer y) hconnected with ⟨c, hnode, hroute⟩
  refine ⟨c, hnode, ?_, hroute⟩
  rintro rfl
  rcases leadsTo_iff.mp hroute with hport | ⟨next, hpeer, -⟩
  · exact hne (hosts.port_injective hport).symm
  · cases (hosts.noPeer x).symm.trans hpeer

/-! ## The invariant -/

/-- A frame in flight: its bytes are those of the frame a host sent, tagged between switches, and the
way it came leads back to that host. -/
def FlightOk (hosts : SwitchHosts fabric H) (w : SwitchWorld S) (flight : SwitchFrame S) (x : H)
    (frame : EthernetFrame) : Prop :=
  hosts.Sends x frame ∧
    w.injected[flight.origin]? = some (hosts.port x, ethernetBytes frame) ∧
    hosts.LeadsTo x flight.port ∧ fabric.HasPort flight.port ∧
    ((flight.port = hosts.port x ∧ flight.raw = ethernetBytes frame) ∨
      (fabric.config flight.port).mode = .trunk ∧
        flight.raw = ethernetBytes (ethernetTagged frame (hosts.vlan x)))

/-- An entry of a MAC table: the address and VLAN of a host, and a port that leads to it. -/
def EntryOk (hosts : SwitchHosts fabric H) (s : S) (entry : SwitchMacEntry) : Prop :=
  ∃ x port, hosts.LeadsTo x (s, port) ∧
    entry = { vlanId := hosts.vlan x, mac := hosts.mac x, portNumber := interfacePortNumber port }

/-- A frame delivered descends from one that was sent, and is that frame on an access port. -/
def DeliveryOk (w : SwitchWorld S) (fabric : SwitchFabric S) (frame : SwitchFrame S) : Prop :=
  ∃ port raw, w.injected[frame.origin]? = some (port, raw) ∧
    ((fabric.config frame.port).mode = .access → frame.raw = raw)

structure Ok (hosts : SwitchHosts fabric H) (w : SwitchWorld S) : Prop where
  flights : ∀ flight ∈ w.flights, ∃ x frame, hosts.FlightOk w flight x frame
  tables : ∀ s, ∀ entry ∈ (w.tables s).entries, hosts.EntryOk s entry
  delivered : ∀ frame ∈ w.delivered, DeliveryOk w fabric frame

/-- What a switch does with a frame in flight: it learns the sender and forwards the frame. -/
theorem FlightOk.receive {w : SwitchWorld S} {flight : SwitchFrame S} {x : H} {frame : EthernetFrame}
    (h : hosts.FlightOk w flight x frame) :
    ∃ parsed, (parsed.dstMac = frame.dstMac ∧ ethernetClearVlan parsed = frame ∧
        ethernetTagged parsed (hosts.vlan x) = ethernetTagged frame (hosts.vlan x)) ∧
      switchReceive (fabric.switch w flight.port.1) (interfacePortNumber flight.port.2) flight.raw =
        (switchLearn (fabric.switch w flight.port.1) (hosts.vlan x) (hosts.mac x)
            (interfacePortNumber flight.port.2),
          switchForward
            (switchLearn (fabric.switch w flight.port.1) (hosts.vlan x) (hosts.mac x)
              (interfacePortNumber flight.port.2))
            (interfacePortNumber flight.port.2) (hosts.vlan x) parsed) := by
  rcases h with ⟨hsends, -, -, hport, hraw⟩
  rcases hosts.vlan_valid x with ⟨hpos, hle⟩
  have hinterface : (fabric.switch w flight.port.1).interface
      (interfacePortNumber flight.port.2) = some flight.port.2 :=
    Switch.interface_eq_some.mpr ⟨rfl, hport⟩
  have hclear : ethernetClearVlan frame = frame := by
    rw [ethernetClearVlan, ← hsends.untagged, ← hsends.serializable.vlanId_zero hsends.untagged]
  rcases hraw with ⟨hself, hraw⟩ | ⟨htrunk, hraw⟩
  · -- Straight from the host, the frame is untagged and the port gives its VLAN.
    have hparse : ethernetFromBytes flight.raw = some frame := by
      rw [hraw]
      exact ethernetFromBytes_bytes hsends.serializable
    have hconfig : (fabric.switch w flight.port.1).portConfigs flight.port.2 =
        fabric.config (hosts.port x) := by
      rw [← hself]
      rfl
    have hvlan : switchDetermineIngressVlan (fabric.switch w flight.port.1)
        (interfacePortNumber flight.port.2) frame = some (hosts.vlan x) := by
      have hvalid : 1 ≤ (fabric.config (hosts.port x)).vlanId := hpos
      simp only [switchDetermineIngressVlan, hinterface, hconfig, hosts.access x, hsends.untagged,
        Bool.false_eq_true, if_false, hvalid, if_true]
      rfl
    refine ⟨frame, ⟨rfl, hclear, rfl⟩, ?_⟩
    rw [switchReceive, hparse]
    simp only [hvlan, hsends.source]
  · -- Between switches, the tag carries it.
    have htagged := ethernetTagged_serializable hsends.serializable hpos (by omega)
    have hnumber := ethernetTagged_vlanId frame hpos (by omega)
    have hparse : ethernetFromBytes flight.raw = some (ethernetTagged frame (hosts.vlan x)) := by
      rw [hraw]
      exact ethernetFromBytes_bytes htagged
    have hmode : ((fabric.switch w flight.port.1).portConfigs flight.port.2).mode = .trunk := htrunk
    have hnotZero : ¬ ((ethernetTagged frame (hosts.vlan x)).hasVlan = false ∨
        (ethernetTagged frame (hosts.vlan x)).vlanId < 1) := by
      rintro (hno | hlt)
      · cases hno
      · rw [UInt16.lt_iff_toNat_lt] at hlt
        have hone : (1 : UInt16).toNat = 1 := rfl
        omega
    have hvlan : switchDetermineIngressVlan (fabric.switch w flight.port.1)
        (interfacePortNumber flight.port.2) (ethernetTagged frame (hosts.vlan x)) =
          some (hosts.vlan x) := by
      simp only [switchDetermineIngressVlan, hinterface, hmode]
      refine (if_neg hnotZero).trans ?_
      rw [hnumber]
    refine ⟨ethernetTagged frame (hosts.vlan x), ⟨rfl, hclear, rfl⟩, ?_⟩
    rw [switchReceive, hparse]
    simp only [hvlan]
    rw [show (ethernetTagged frame (hosts.vlan x)).srcMac = hosts.mac x from hsends.source]

/-- What leaves a port for a frame in flight. -/
theorem FlightOk.outbound {w : SwitchWorld S} {flight : SwitchFrame S} {x : H}
    {frame : EthernetFrame} (h : hosts.FlightOk w flight x frame) {port : Fin maxPort}
    {raw : List UInt8}
    (hsent : (port, raw) ∈ (switchReceive (fabric.switch w flight.port.1)
      (interfacePortNumber flight.port.2) flight.raw).2) :
    port ≠ flight.port.2 ∧
      ((fabric.config (flight.port.1, port)).mode = .trunk →
        raw = ethernetBytes (ethernetTagged frame (hosts.vlan x))) ∧
      ((fabric.config (flight.port.1, port)).mode = .access → raw = ethernetBytes frame) := by
  rcases h.receive with ⟨parsed, ⟨-, hclear, htagged⟩, hreceive⟩
  rcases hosts.vlan_valid x with ⟨hpos, hle⟩
  rw [hreceive] at hsent
  rcases mem_switchForward hsent with ⟨hne, hsend⟩
  rcases switchSendFrameOnPort_eq_some hsend with ⟨-, -, -, outbound, houtbound, hraw⟩
  refine ⟨fun heq => hne (congrArg interfacePortNumber heq), fun hmode => ?_, fun hmode => ?_⟩
  · have htrunk := switchOutbound_trunk hmode parsed hpos (by omega)
    have hsame : outbound = ethernetTagged parsed (hosts.vlan x) :=
      Option.some.inj (houtbound.symm.trans htrunk)
    rw [hraw, hsame, htagged]
  · have haccess : switchOutbound (fabric.config (flight.port.1, port)) (hosts.vlan x) parsed =
        some (ethernetClearVlan parsed) := by
      rw [switchOutbound, hmode]
    have hsame : outbound = ethernetClearVlan parsed :=
      Option.some.inj (houtbound.symm.trans haccess)
    rw [hraw, hsame, hclear]

/-- Learning the sender of a frame in flight keeps the table right. -/
theorem FlightOk.entryOk {w : SwitchWorld S} (hw : hosts.Ok w) {flight : SwitchFrame S} {x : H}
    {frame : EthernetFrame} (h : hosts.FlightOk w flight x frame) {entry : SwitchMacEntry}
    (hentry : entry ∈ (switchLearn (fabric.switch w flight.port.1) (hosts.vlan x) (hosts.mac x)
      (interfacePortNumber flight.port.2)).macTable.entries) :
    hosts.EntryOk flight.port.1 entry := by
  rcases mem_switchLearn hentry with hold | hnew
  · exact hw.tables flight.port.1 entry hold
  · exact ⟨x, flight.port.2, h.2.2.1, hnew⟩

/-- A port that leads to a host is there and linked, and carries the host's VLAN. -/
theorem LeadsTo.carries {x : H} {port : SwitchPort S} (h : hosts.LeadsTo x port) :
    fabric.HasPort port ∧ (fabric.switches port.1).linked port.2 = true ∧
      ((fabric.config port).mode = .access → (fabric.config port).vlanId = hosts.vlan x) := by
  rcases leadsTo_iff.mp h with rfl | ⟨next, hpeer, -⟩
  · exact ⟨hosts.hasPort x, hosts.linked x, fun _ => rfl⟩
  · refine ⟨fabric.hasPort hpeer, fabric.linked hpeer, fun hmode => ?_⟩
    cases hmode.symm.trans (fabric.trunkLinked.trunk hpeer).1

/-- The switch a frame in flight arrives at sends it out of the port that leads to a host it is meant
for. -/
theorem FlightOk.sent {w : SwitchWorld S} (hw : hosts.Ok w) (hacyclic : fabric.graph.Acyclic)
    {flight : SwitchFrame S} {x y : H} {frame : EthernetFrame}
    (h : hosts.FlightOk w flight x frame) (hvlan : hosts.vlan y = hosts.vlan x)
    (hdst : ethernetIsBroadcast frame.dstMac = true ∨ frame.dstMac = hosts.mac y)
    {port : Fin maxPort} (hleads : hosts.LeadsTo y (flight.port.1, port))
    (hne : port ≠ flight.port.2) :
    ∃ raw, (port, raw) ∈ (switchReceive (fabric.switch w flight.port.1)
      (interfacePortNumber flight.port.2) flight.raw).2 := by
  rcases h.receive with ⟨parsed, ⟨hparsed, hclear, htagged⟩, hreceive⟩
  rcases hosts.vlan_valid x with ⟨hpos, hle⟩
  rcases hleads.carries with ⟨hport, hlinked, hcarries⟩
  have hentryOk : ∀ entry ∈ (switchLearn (fabric.switch w flight.port.1) (hosts.vlan x)
      (hosts.mac x) (interfacePortNumber flight.port.2)).macTable.entries,
      hosts.EntryOk flight.port.1 entry := fun entry => h.entryOk hw
  rw [hreceive]
  generalize hlearned : switchLearn (fabric.switch w flight.port.1) (hosts.vlan x) (hosts.mac x)
    (interfacePortNumber flight.port.2) = learned at hentryOk ⊢
  have hconfig : learned.portConfigs port = fabric.config (flight.port.1, port) := by
    rw [← hlearned]
    rfl
  have hlearnedPort : port.val < learned.numInterfaces := by
    rw [← hlearned]
    exact hport
  have hlearnedLinked : learned.linked port = true := by
    rw [← hlearned]
    exact hlinked
  have hallows : switchPortAllowsVlan learned (interfacePortNumber port) (hosts.vlan x) = true := by
    rw [switchPortAllowsVlan_iff hlearnedPort, hconfig, ← hvlan]
    exact ⟨hvlan ▸ hpos, hcarries⟩
  have hpayload : parsed.payload.length ≤ ethernetMaxPayload := by
    have hsame : parsed.payload = frame.payload := by
      rw [← hclear]
      rfl
    rw [hsame]
    exact h.1.serializable.payload_le
  have houtbound : ∃ outbound, switchOutbound (learned.portConfigs port) (hosts.vlan x) parsed =
      some outbound ∧ outbound.payload.length ≤ ethernetMaxPayload := by
    cases hmode : (learned.portConfigs port).mode with
    | trunk =>
        exact ⟨_, switchOutbound_trunk hmode parsed hpos (by omega), hpayload⟩
    | access =>
        exact ⟨ethernetClearVlan parsed, by rw [switchOutbound, hmode], hpayload⟩
  rcases houtbound with ⟨outbound, houtbound, hfits⟩
  have hsend := switchSendFrameOnPort_of_allows hlearnedPort hlearnedLinked hallows houtbound hfits
  refine ⟨_, mem_switchForward_of_send (fun heq => hne (interfacePortNumber_injective heq)) hsend ?_⟩
  intro hunicast outPort hget
  rw [hparsed] at hunicast hget
  have hmac : frame.dstMac = hosts.mac y := by
    rcases hdst with hbroadcast | hmac
    · cases hunicast.symm.trans hbroadcast
    · exact hmac
  -- The entry for the destination points where the host is, and only one port leads there.
  rcases hentryOk _ (exists_entry_of_switchMacTableGet hget) with ⟨z, learnedPort, hroute, heq⟩
  simp only [SwitchMacEntry.mk.injEq] at heq
  rcases heq with ⟨-, hsource, hnumber⟩
  have hzy : z = y := hosts.mac_injective (hsource.symm.trans hmac)
  rw [hzy] at hroute
  have hsame := hacyclic.route_unique hleads hroute rfl
  rw [hnumber]
  exact congrArg (fun p : SwitchPort S => interfacePortNumber p.2) hsame

/-! ## One arrival -/

theorem Ok.deliver [DecidableEq S] {w : SwitchWorld S} (hw : hosts.Ok w)  (index : Nat) :
    hosts.Ok (fabric.deliver w index) := by
  rw [SwitchNetwork.deliver]
  cases hflight : w.flights[index]? with
  | none => exact hw
  | some flight =>
      rcases hw.flights flight (List.mem_of_getElem? hflight) with ⟨x, frame, h⟩
      refine ⟨?_, ?_, ?_⟩
      · -- What is in flight: the rest, and what this switch sends on by its trunks.
        intro next hnext
        rcases List.mem_append.mp hnext with hold | hnew
        · exact hw.flights next (List.mem_of_mem_eraseIdx hold)
        · rcases SwitchNetwork.mem_onward hnew with ⟨horigin, port, hpeer, hsent⟩
          rcases h.outbound hsent with ⟨hne, htrunk, -⟩
          rcases fabric.trunkLinked.trunk hpeer with ⟨hout, hin⟩
          refine ⟨x, frame, h.1, ?_, ?_, ?_, Or.inr ⟨hin, htrunk hout⟩⟩
          · rw [horigin]
            exact h.2.1
          · -- The link leads back to the port the frame arrived at.
            refine leadsTo_iff.mpr (Or.inr ⟨_, fabric.peer_symm hpeer, flight.port, rfl, ?_, h.2.2.1⟩)
            rintro heq
            exact hne (congrArg Prod.snd heq).symm
          · exact fabric.hasPort (fabric.peer_symm hpeer)
      · -- The tables: only this switch has learnt.
        intro s entry hentry
        by_cases hs : s = flight.port.1
        · subst hs
          simp only [Function.update_self] at hentry
          rcases h.receive with ⟨parsed, -, hreceive⟩
          rw [hreceive] at hentry
          exact h.entryOk hw hentry
        · simp only [Function.update_of_ne hs] at hentry
          exact hw.tables s entry hentry
      · -- What has come out: the rest, and what this switch sends to hosts.
        intro out hout
        rcases List.mem_append.mp hout with hold | hnew
        · exact hw.delivered out hold
        · rcases SwitchNetwork.mem_outward hnew with ⟨horigin, hswitch, -, hsent⟩
          rcases h.outbound hsent with ⟨-, -, haccess⟩
          refine ⟨hosts.port x, ethernetBytes frame, ?_, ?_⟩
          · rw [horigin]
            exact h.2.1
          · rw [← hswitch] at haccess
            exact haccess

theorem Ok.step [DecidableEq S] {w : SwitchWorld S} (hw : hosts.Ok w) {action : SwitchAction S}
    (haction : ∀ port raw, action = .inject port raw →
      ∃ x frame, hosts.Sends x frame ∧ port = hosts.port x ∧ raw = ethernetBytes frame) :
    hosts.Ok (fabric.step w action) := by
  cases action with
  | deliver index => exact hw.deliver index
  | inject port raw =>
      rcases haction port raw rfl with ⟨x, frame, hsends, rfl, rfl⟩
      refine ⟨?_, hw.tables, ?_⟩
      · intro flight hflight
        rcases List.mem_append.mp hflight with hold | hnew
        · rcases hw.flights flight hold with ⟨y, sent, hy, hinjected, hrest⟩
          refine ⟨y, sent, hy, ?_, hrest⟩
          exact (List.getElem?_append_left (List.getElem?_eq_some_iff.mp hinjected).1).trans
            hinjected
        · rw [List.mem_singleton.mp hnew]
          exact ⟨x, frame, hsends, List.getElem?_concat_length, PortGraph.Route.here,
            hosts.hasPort x, Or.inl ⟨rfl, rfl⟩⟩
      · intro out hout
        rcases hw.delivered out hout with ⟨port, raw, hinjected, hraw⟩
        refine ⟨port, raw, ?_, hraw⟩
        exact (List.getElem?_append_left (List.getElem?_eq_some_iff.mp hinjected).1).trans hinjected

/-! ## Counting -/

open Classical in
/-- Of one injected frame, the deliveries to a host and the frames in flight that can still get
there. -/
noncomputable def pending (hosts : SwitchHosts fabric H) (w : SwitchWorld S) (origin : Nat) (y : H) :
    Nat :=
  w.delivered.countP (fun out => out.origin = origin ∧ out.port = hosts.port y) +
    w.flights.countP (fun flight => flight.origin = origin ∧ hosts.CanReach y flight.port)

open Classical in
/-- Each frame that is sent out of a port leading to a host is delivered there or can still get
there. -/
theorem countP_sent (hosts : SwitchHosts fabric H) (origin origin' : Nat) (y : H) (s : S)
    (sent : List (Fin maxPort × List UInt8)) :
    (fabric.outward origin' s sent).countP
          (fun out => out.origin = origin ∧ out.port = hosts.port y) +
        (fabric.onward origin' s sent).countP
          (fun flight => flight.origin = origin ∧ hosts.CanReach y flight.port) =
      if origin' = origin then sent.countP fun out => hosts.LeadsTo y (s, out.1) else 0 := by
  induction sent with
  | nil => simp [SwitchNetwork.outward, SwitchNetwork.onward]
  | cons out rest ih =>
      rcases out with ⟨port, raw⟩
      have hleads : hosts.LeadsTo y (s, port) ↔ (s, port) = hosts.port y ∨
          ∃ next, fabric.peer (s, port) = some next ∧ hosts.CanReach y next := leadsTo_iff
      simp only [SwitchNetwork.outward, SwitchNetwork.onward] at ih ⊢
      cases hpeer : fabric.peer (s, port) with
      | none =>
          -- A port without a peer leads to `y` only as its own port.
          have hport : hosts.LeadsTo y (s, port) ↔ (s, port) = hosts.port y := by
            rw [hleads, hpeer]
            simp
          by_cases horigin : origin' = origin
          · by_cases hself : (s, port) = hosts.port y
            · have hhere : hosts.LeadsTo y (hosts.port y) := PortGraph.Route.here
              simp [horigin, hself, hosts.noPeer y, hhere] at ih ⊢
              omega
            · simp [hpeer, horigin, hport, hself] at ih ⊢
              omega
          · simp [hpeer, horigin] at ih ⊢
            omega
      | some next =>
          -- A port with a peer is no host's.
          have hnotSelf : (s, port) ≠ hosts.port y := by
            intro hself
            rw [hself, hosts.noPeer y] at hpeer
            cases hpeer
          have hport : hosts.LeadsTo y (s, port) ↔ hosts.CanReach y next := by
            rw [hleads, hpeer]
            simp [hnotSelf]
          by_cases horigin : origin' = origin
          · by_cases hreach : hosts.CanReach y next
            · simp [hpeer, horigin, hport, hreach] at ih ⊢
              omega
            · simp [hpeer, horigin, hport, hreach] at ih ⊢
              omega
          · simp [hpeer, horigin] at ih ⊢
            omega

/-- What a frame in flight can reach. -/
theorem FlightOk.leadsTo_sent {w : SwitchWorld S} {flight : SwitchFrame S} {x : H}
    {frame : EthernetFrame} (h : hosts.FlightOk w flight x frame) (y : H)
    {out : Fin maxPort × List UInt8}
    (hout : out ∈ (switchReceive (fabric.switch w flight.port.1)
      (interfacePortNumber flight.port.2) flight.raw).2)
    (hleads : hosts.LeadsTo y (flight.port.1, out.1)) : hosts.CanReach y flight.port := by
  refine ⟨(flight.port.1, out.1), rfl, ?_, hleads⟩
  intro heq
  exact (h.outbound hout).1 (congrArg Prod.snd heq)

open Classical in
/-- A frame in flight that can reach a host it is meant for is sent on towards it once. -/
theorem FlightOk.countP_sent_eq_one {w : SwitchWorld S} (hw : hosts.Ok w)
    (hacyclic : fabric.graph.Acyclic) {flight : SwitchFrame S} {x y : H} {frame : EthernetFrame}
    (h : hosts.FlightOk w flight x frame) (hvlan : hosts.vlan y = hosts.vlan x)
    (hdst : ethernetIsBroadcast frame.dstMac = true ∨ frame.dstMac = hosts.mac y)
    (hreach : hosts.CanReach y flight.port) :
    (switchReceive (fabric.switch w flight.port.1) (interfacePortNumber flight.port.2)
      flight.raw).2.countP (fun out => hosts.LeadsTo y (flight.port.1, out.1)) = 1 := by
  rcases hreach with ⟨⟨s, port⟩, hnode, hne, hroute⟩
  cases (show s = flight.port.1 from hnode)
  have hport : port ≠ flight.port.2 := fun heq => hne (Prod.ext rfl heq)
  rcases h.sent hw hacyclic hvlan hdst hroute hport with ⟨raw, hsent⟩
  have hnodup : ((switchReceive (fabric.switch w flight.port.1) (interfacePortNumber flight.port.2)
      flight.raw).2.map Prod.fst).Nodup := by
    rcases h.receive with ⟨parsed, -, hreceive⟩
    rw [hreceive]
    exact switchForward_nodup _ _ _ _
  generalize (switchReceive (fabric.switch w flight.port.1) (interfacePortNumber flight.port.2)
    flight.raw).2 = sent at hsent hnodup ⊢
  calc
    sent.countP (fun out => hosts.LeadsTo y (flight.port.1, out.1))
        = sent.countP ((· == port) ∘ Prod.fst) := by
          refine List.countP_congr fun out _ => ?_
          rw [decide_eq_true_iff, Function.comp_apply, beq_iff_eq]
          constructor
          · intro hleads
            exact congrArg Prod.snd (hacyclic.route_unique hroute hleads rfl)
          · intro heq
            rw [heq]
            exact hroute
    _ = (sent.map Prod.fst).count port := List.countP_map.symm
    _ = 1 := List.count_eq_one_of_mem hnodup (List.mem_map_of_mem hsent)

open Classical in
/-- An arrival leaves the number for a host the frame is meant for, and for any host none of the frames
in flight can get to. -/
theorem pending_deliver [DecidableEq S] {w : SwitchWorld S} (hw : hosts.Ok w)
    (hacyclic : fabric.graph.Acyclic)
    {origin : Nat} {y : H}
    (hmeant : ∀ flight ∈ w.flights, flight.origin = origin → hosts.CanReach y flight.port →
      ∃ x frame, hosts.FlightOk w flight x frame ∧ hosts.vlan y = hosts.vlan x ∧
        (ethernetIsBroadcast frame.dstMac = true ∨ frame.dstMac = hosts.mac y)) (index : Nat) :
    hosts.pending (fabric.deliver w index) origin y = hosts.pending w origin y := by
  rw [SwitchNetwork.deliver]
  cases hflight : w.flights[index]? with
  | none => rfl
  | some flight =>
      rcases List.getElem?_eq_some_iff.mp hflight with ⟨hlt, hget⟩
      have hmem := List.mem_of_getElem? hflight
      have hperm := List.getElem_cons_eraseIdx_perm hlt
      rw [hget] at hperm
      have hcount := hperm.countP_eq
        (fun flight => decide (flight.origin = origin ∧ hosts.CanReach y flight.port))
      have hsent := countP_sent hosts origin flight.origin y flight.port.1
        (switchReceive (fabric.switch w flight.port.1) (interfacePortNumber flight.port.2)
          flight.raw).2
      simp only [pending, List.countP_append]
      rw [← hcount, List.countP_cons]
      by_cases horigin : flight.origin = origin
      · by_cases hreach : hosts.CanReach y flight.port
        · rcases hmeant flight hmem horigin hreach with ⟨x, frame, h, hvlan, hdst⟩
          -- The frame is replaced by exactly one that leads there.
          rw [if_pos horigin, h.countP_sent_eq_one hw hacyclic hvlan hdst hreach] at hsent
          simp only [horigin, hreach, and_self, decide_true, if_true] at hsent ⊢
          omega
        · rcases hw.flights flight hmem with ⟨x, frame, h⟩
          -- A frame that cannot get there sends none that can.
          have hnone := List.countP_eq_zero.mpr fun out hout =>
            mt of_decide_eq_true fun hleads => hreach (h.leadsTo_sent y hout hleads)
          rw [if_pos horigin, hnone] at hsent
          simp only [horigin, hreach, and_false, decide_false, Bool.false_eq_true, if_false]
            at hsent ⊢
          omega
      · rw [if_neg horigin] at hsent
        simp only [horigin, false_and, decide_false, Bool.false_eq_true, if_false]
        omega

/-- The host that sent an injected frame, and the frame, are determined. -/
theorem FlightOk.sender_unique {w : SwitchWorld S} {flight : SwitchFrame S} {x x' : H}
    {frame frame' : EthernetFrame} (h : hosts.FlightOk w flight x' frame')
    (hsends : hosts.Sends x frame)
    (hinjected : w.injected[flight.origin]? = some (hosts.port x, ethernetBytes frame)) :
    x' = x ∧ frame' = frame := by
  have hsame := Option.some.inj (h.2.1.symm.trans hinjected)
  have hparse := congrArg ethernetFromBytes (congrArg Prod.snd hsame)
  rw [ethernetFromBytes_bytes h.1.serializable, ethernetFromBytes_bytes hsends.serializable] at hparse
  exact ⟨hosts.port_injective (congrArg Prod.fst hsame), Option.some.inj hparse⟩

/-- The host `y` is meant to get the frame of `x`. -/
structure MeantFor (hosts : SwitchHosts fabric H) (x : H) (frame : EthernetFrame) (y : H) : Prop where
  other : y ≠ x
  vlan : hosts.vlan y = hosts.vlan x
  connected : hosts.Connected x y
  destination : ethernetIsBroadcast frame.dstMac = true ∨ frame.dstMac = hosts.mac y

/-- Each injected frame numbers one for every host it is meant for, and none for its sender. -/
def Counted (hosts : SwitchHosts fabric H) (w : SwitchWorld S) : Prop :=
  ∀ origin x frame, hosts.Sends x frame →
    w.injected[origin]? = some (hosts.port x, ethernetBytes frame) →
      hosts.pending w origin x = 0 ∧
        ∀ y, hosts.MeantFor x frame y → hosts.pending w origin y = 1

theorem Counted.deliver {w : SwitchWorld S} (hcounted : hosts.Counted w) (hw : hosts.Ok w)
    (hacyclic : fabric.graph.Acyclic) [DecidableEq S] (index : Nat) :
    hosts.Counted (fabric.deliver w index) := by
  intro origin x frame hsends hinjected
  have hkept : (fabric.deliver w index).injected = w.injected := by
    rw [SwitchNetwork.deliver]
    split
    all_goals rfl
  rw [hkept] at hinjected
  rcases hcounted origin x frame hsends hinjected with ⟨hself, hmeant⟩
  refine ⟨?_, fun y hy => ?_⟩
  · refine (pending_deliver hw hacyclic ?_ index).trans hself
    -- No frame in flight can get back to its sender.
    intro flight hflight horigin hreach
    have hzero := (Nat.add_eq_zero_iff.mp hself).2
    refine absurd ?_ (List.countP_eq_zero.mp hzero flight hflight)
    simp only [horigin, hreach, and_self, decide_true]
  · refine (pending_deliver hw hacyclic ?_ index).trans (hmeant y hy)
    intro flight hflight horigin _
    rcases hw.flights flight hflight with ⟨x', frame', h⟩
    rcases h.sender_unique hsends (by rw [horigin]; exact hinjected) with ⟨rfl, rfl⟩
    exact ⟨x', frame', h, hy.vlan, hy.destination⟩

/-- Before it is injected, nothing of a frame is in flight or delivered. -/
theorem Ok.pending_eq_zero {w : SwitchWorld S} (hw : hosts.Ok w) (y : H) :
    hosts.pending w w.injected.length y = 0 := by
  refine Nat.add_eq_zero_iff.mpr ⟨List.countP_eq_zero.mpr ?_, List.countP_eq_zero.mpr ?_⟩
  · intro out hout hcounted
    rcases hw.delivered out hout with ⟨port, raw, hinjected, -⟩
    have hlt := (List.getElem?_eq_some_iff.mp hinjected).1
    simp only [decide_eq_true_eq] at hcounted
    omega
  · intro flight hflight hcounted
    rcases hw.flights flight hflight with ⟨x, frame, h⟩
    have hlt := (List.getElem?_eq_some_iff.mp h.2.1).1
    simp only [decide_eq_true_eq] at hcounted
    omega

open Classical in
theorem pending_inject [DecidableEq S] (w : SwitchWorld S) (port : SwitchPort S) (raw : List UInt8)
    (origin : Nat) (y : H) :
    hosts.pending (fabric.step w (.inject port raw)) origin y =
      hosts.pending w origin y +
        if w.injected.length = origin ∧ hosts.CanReach y port then 1 else 0 := by
  simp only [pending, SwitchNetwork.step, List.countP_append, List.countP_cons, List.countP_nil,
    decide_eq_true_eq]
  omega

theorem Counted.inject {w : SwitchWorld S} (hcounted : hosts.Counted w) (hw : hosts.Ok w)
    (hacyclic : fabric.graph.Acyclic) [DecidableEq S] (x : H) (raw : List UInt8) :
    hosts.Counted (fabric.step w (.inject (hosts.port x) raw)) := by
  classical
  intro origin x' frame hsends hinjected
  change (w.injected ++ [(hosts.port x, raw)])[origin]? = _ at hinjected
  by_cases hold : origin < w.injected.length
  · rw [List.getElem?_append_left hold] at hinjected
    rcases hcounted origin x' frame hsends hinjected with ⟨hself, hmeant⟩
    have hne : ¬ w.injected.length = origin := by omega
    refine ⟨?_, fun y hy => ?_⟩
    · rw [pending_inject, if_neg fun h => hne h.1, hself]
    · rw [pending_inject, if_neg fun h => hne h.1, hmeant y hy]
  · -- The frame has just been injected, and everything it is meant for lies before it.
    have hlt := (List.getElem?_eq_some_iff.mp hinjected).1
    rw [List.length_append, List.length_singleton] at hlt
    have horigin : origin = w.injected.length := by omega
    subst horigin
    rw [List.getElem?_concat_length] at hinjected
    have hx : x = x' := hosts.port_injective (congrArg Prod.fst (Option.some.inj hinjected))
    subst hx
    refine ⟨?_, fun y hy => ?_⟩
    · rw [pending_inject, hw.pending_eq_zero, if_neg fun h => not_canReach_self hacyclic x h.2]
    · rw [pending_inject, hw.pending_eq_zero,
        if_pos ⟨rfl, canReach_of_connected hy.connected hy.other⟩]

/-- Both invariants hold after every run. -/
theorem counted_run [DecidableEq S] (hacyclic : fabric.graph.Acyclic)
    (hempty : ∀ s, (fabric.switches s).macTable.entries = [])
    {actions : List (SwitchAction S)} (hactions : hosts.SendsOnly actions) :
    hosts.Ok (fabric.run actions) ∧ hosts.Counted (fabric.run actions) := by
  have hfoldl : ∀ w, hosts.Ok w → hosts.Counted w →
      hosts.Ok (actions.foldl fabric.step w) ∧ hosts.Counted (actions.foldl fabric.step w) := by
    induction actions with
    | nil => exact fun _ hw hcounted => ⟨hw, hcounted⟩
    | cons action rest ih =>
        intro w hw hcounted
        have haction : ∀ port raw, action = .inject port raw →
            ∃ x frame, hosts.Sends x frame ∧ port = hosts.port x ∧ raw = ethernetBytes frame := by
          rintro port raw rfl
          exact hactions port raw List.mem_cons_self
        refine ih (fun port raw hmem => hactions port raw (List.mem_cons_of_mem action hmem)) _
          (hw.step haction) ?_
        cases action with
        | deliver index => exact hcounted.deliver hw hacyclic index
        | inject port raw =>
            rcases haction port raw rfl with ⟨x, frame, -, rfl, -⟩
            exact hcounted.inject hw hacyclic x raw
  refine hfoldl fabric.initial ⟨fun _ hflight => (nomatch hflight), ?_, fun _ hout => (nomatch hout)⟩
    ?_
  · intro s entry hentry
    simp only [SwitchNetwork.initial, hempty s] at hentry
    cases hentry
  · intro origin x frame _ hinjected
    cases hinjected

/-! ## What hosts receive -/

/-- What a host received of an injected frame. -/
def received [DecidableEq S] (hosts : SwitchHosts fabric H) (w : SwitchWorld S) (origin : Nat)
    (y : H) : List (SwitchFrame S) :=
  w.delivered.filter fun out => out.origin = origin ∧ out.port = hosts.port y

theorem received_length_le [DecidableEq S] (hosts : SwitchHosts fabric H) (w : SwitchWorld S)
    (origin : Nat) (y : H) :
    (hosts.received w origin y).length ≤ hosts.pending w origin y := by
  rw [received, ← List.countP_eq_length_filter, pending]
  refine le_trans (le_of_eq (List.countP_congr fun out _ => ?_)) (Nat.le_add_right _ _)
  simp only [decide_eq_true_eq]

theorem received_length [DecidableEq S] (hosts : SwitchHosts fabric H) {w : SwitchWorld S}
    (hdone : w.flights = []) (origin : Nat) (y : H) :
    (hosts.received w origin y).length = hosts.pending w origin y := by
  rw [received, ← List.countP_eq_length_filter, pending, hdone, List.countP_nil, Nat.add_zero]
  refine List.countP_congr fun out _ => ?_
  simp only [decide_eq_true_eq]

/-- A host gets exactly the frame that was sent, once nothing is in flight any more. -/
theorem Counted.received_eq [DecidableEq S] {w : SwitchWorld S} (hcounted : hosts.Counted w)
    (hw : hosts.Ok w) (hdone : w.flights = []) {origin : Nat} {x y : H} {frame : EthernetFrame}
    (hsends : hosts.Sends x frame)
    (hinjected : w.injected[origin]? = some (hosts.port x, ethernetBytes frame))
    (hmeant : hosts.MeantFor x frame y) :
    hosts.received w origin y =
      [{ origin := origin, port := hosts.port y, raw := ethernetBytes frame }] := by
  have hlength := received_length hosts hdone origin y
  rw [(hcounted origin x frame hsends hinjected).2 y hmeant] at hlength
  rcases List.length_eq_one_iff.mp hlength with ⟨out, hout⟩
  have hmem : out ∈ hosts.received w origin y := by
    rw [hout]
    exact List.mem_singleton.mpr rfl
  rcases List.mem_filter.mp hmem with ⟨hdelivered, hfields⟩
  rcases of_decide_eq_true hfields with ⟨horigin, hport⟩
  rcases hw.delivered out hdelivered with ⟨port, raw, hfrom, hraw⟩
  rw [horigin, hinjected] at hfrom
  have hsame : ethernetBytes frame = raw := congrArg Prod.snd (Option.some.inj hfrom)
  have hbytes : out.raw = ethernetBytes frame := by
    rw [hsame]
    exact hraw (by rw [hport]; exact hosts.access y)
  rw [hout, ← horigin, ← hport, ← hbytes]

end SwitchHosts

/-! ## Termination -/

namespace SwitchFabric

variable {fabric : SwitchFabric S} [DecidableEq S]

/-- The world after `n` arrivals, in the order the schedule gives. -/
def deliverAll (fabric : SwitchFabric S) (w : SwitchWorld S) (schedule : Nat → Nat) :
    Nat → SwitchWorld S
  | 0 => w
  | n + 1 => fabric.deliver (fabric.deliverAll w schedule n) (schedule n)

/-- An arrival replaces a frame in flight by frames one hop on. -/
theorem cutExpand_deliver (w : SwitchWorld S) {index : Nat} (h : index < w.flights.length) :
    CutExpand (fun b' b => fabric.graph.Hop b b')
      (((fabric.deliver w index).flights.map SwitchFrame.port : List (SwitchPort S)) :
        Multiset (SwitchPort S))
      ((w.flights.map SwitchFrame.port : List (SwitchPort S)) : Multiset (SwitchPort S)) := by
  have hflight := List.getElem?_eq_getElem h
  have hperm := List.getElem_cons_eraseIdx_perm h
  generalize w.flights[index] = flight at hflight hperm
  have hports := Multiset.coe_eq_coe.mpr (hperm.map SwitchFrame.port)
  generalize honward : fabric.onward flight.origin flight.port.1
    (switchReceive (fabric.switch w flight.port.1) (interfacePortNumber flight.port.2)
      flight.raw).2 = onward
  have hflights : (fabric.deliver w index).flights = w.flights.eraseIdx index ++ onward := by
    rw [SwitchNetwork.deliver, hflight, ← honward]
  refine ⟨((onward.map SwitchFrame.port : List (SwitchPort S)) : Multiset (SwitchPort S)),
    flight.port, ?_, ?_⟩
  · intro next hnext
    rcases List.mem_map.mp (Multiset.mem_coe.mp hnext) with ⟨frame, hframe, rfl⟩
    rw [← honward] at hframe
    rcases SwitchNetwork.mem_onward hframe with ⟨-, port, hpeer, hsent⟩
    rcases mem_switchReceive hsent with ⟨-, -, -, -, hne, -⟩
    refine ⟨(flight.port.1, port), rfl, ?_, hpeer⟩
    intro heq
    exact hne (congrArg (fun p : SwitchPort S => interfacePortNumber p.2) heq)
  · rw [hflights, ← hports, List.map_append, List.map_cons, ← Multiset.coe_add, ← Multiset.cons_coe,
      Multiset.cons_add, ← Multiset.singleton_add]
    exact add_comm _ _

/-- Every sequence of arrivals comes to an end. -/
theorem deliverAll_ends [Finite S] (hacyclic : fabric.graph.Acyclic) (w : SwitchWorld S)
    (schedule : Nat → Nat) :
    ∃ n, (fabric.deliverAll w schedule n).flights.length ≤ schedule n := by
  have hwf : IsWellFounded (Multiset (SwitchPort S))
      (CutExpand fun b' b => fabric.graph.Hop b b') := ⟨hacyclic.wellFounded_spread⟩
  have hstop := @WellFounded.not_rel_apply_succ _ (CutExpand fun b' b => fabric.graph.Hop b b') hwf
    fun n => (((fabric.deliverAll w schedule n).flights.map SwitchFrame.port :
      List (SwitchPort S)) : Multiset (SwitchPort S))
  rcases hstop with ⟨n, hn⟩
  refine ⟨n, ?_⟩
  by_contra hlt
  exact hn (cutExpand_deliver _ (not_le.mp hlt))

end SwitchFabric

/-- On a loop-free network whose MAC tables start empty, every sequence of arrivals ends; once nothing is
in flight, each host of the sender's VLAN has received a broadcast exactly once and the host a unicast
frame is for has received it exactly once, and no host ever receives its own frame back; every MAC table
entry for a host has its VLAN and a port that leads to it. -/
theorem switch_exactly_once [DecidableEq S] [Finite S] {H : Type*} {fabric : SwitchFabric S}
    (hosts : SwitchHosts fabric H) (hacyclic : fabric.graph.Acyclic)
    (hempty : ∀ s, (fabric.switches s).macTable.entries = [])
    (actions : List (SwitchAction S)) (hactions : hosts.SendsOnly actions) :
    (∀ schedule, ∃ n,
        (fabric.deliverAll (fabric.run actions) schedule n).flights.length ≤ schedule n) ∧
      (∀ origin x frame, hosts.Sends x frame →
        (fabric.run actions).injected[origin]? = some (hosts.port x, ethernetBytes frame) →
          hosts.received (fabric.run actions) origin x = [] ∧
            ((fabric.run actions).flights = [] → ∀ y, y ≠ x → hosts.vlan y = hosts.vlan x →
              hosts.Connected x y →
                (ethernetIsBroadcast frame.dstMac = true ∨ frame.dstMac = hosts.mac y) →
                  hosts.received (fabric.run actions) origin y =
                    [{ origin := origin, port := hosts.port y, raw := ethernetBytes frame }])) ∧
      ∀ s, ∀ entry ∈ ((fabric.run actions).tables s).entries, ∀ x, entry.mac = hosts.mac x →
        entry.vlanId = hosts.vlan x ∧
          ∃ port, entry.portNumber = interfacePortNumber port ∧ hosts.LeadsTo x (s, port) := by
  rcases SwitchHosts.counted_run hacyclic hempty hactions with ⟨hok, hcounted⟩
  refine ⟨SwitchFabric.deliverAll_ends hacyclic (fabric.run actions), ?_, ?_⟩
  · intro origin x frame hsends hinjected
    refine ⟨?_, ?_⟩
    · have hle := hosts.received_length_le (fabric.run actions) origin x
      rw [(hcounted origin x frame hsends hinjected).1, Nat.le_zero] at hle
      exact List.length_eq_zero_iff.mp hle
    · intro hdone y hne hvlan hconnected hdst
      exact hcounted.received_eq hok hdone hsends hinjected ⟨hne, hvlan, hconnected, hdst⟩
  · intro s entry hentry x hmac
    rcases hok.tables s entry hentry with ⟨y, port, hleads, rfl⟩
    have hxy : y = x := hosts.mac_injective hmac
    subst hxy
    exact ⟨rfl, port, rfl, hleads⟩

/-! ## Two switches -/

def exampleFabric : SwitchFabric (Fin 2) :=
  { exampleNetwork with
    trunkLinked := exampleNetwork_trunkLinked
    peer_symm := by
      intro a b hpeer
      simp only [exampleNetwork] at hpeer ⊢
      split at hpeer
      · rename_i hport
        rcases a with ⟨s, port⟩
        cases hpeer
        cases (show port = 2 from hport)
        decide +revert
      · cases hpeer
    peer_ne := by
      intro a hpeer
      simp only [exampleNetwork] at hpeer
      split at hpeer
      · rcases a with ⟨s, port⟩
        have hswitch := congrArg Prod.fst (Option.some.inj hpeer)
        revert hswitch
        decide +revert
      · cases hpeer
    hasPort := by
      intro a b hpeer
      simp only [exampleNetwork] at hpeer
      split at hpeer
      · rename_i hport
        rw [SwitchNetwork.HasPort, hport]
        exact (by decide : (2 : Fin maxPort).val < 3)
      · cases hpeer
    linked := by
      intro a b hpeer
      simp only [exampleNetwork] at hpeer
      split at hpeer
      · rename_i hport
        rw [hport]
        exact (by decide : decide ((2 : Fin maxPort).val < 3) = true)
      · cases hpeer }

/-- A host on each access port. -/
def exampleHosts : SwitchHosts exampleFabric (Fin 2 × Fin 2) :=
  { port := fun x => (x.1, ⟨x.2.val, lt_trans x.2.isLt (by decide)⟩)
    mac := fun x => ⟨2, 0, 0, 0, UInt8.ofNat x.1.val, UInt8.ofNat x.2.val⟩
    port_injective := by decide
    mac_injective := by decide
    unicast := by decide
    access := by decide
    hasPort := by unfold SwitchNetwork.HasPort; decide
    linked := by decide
    noPeer := by decide }

/-- What crosses the trunk never comes to it again. -/
theorem exampleFabric_acyclic : exampleFabric.graph.Acyclic := by
  have hpeer : ∀ {a b}, exampleFabric.graph.peer a = some b → a.2 = 2 ∧ b.2 = 2 := by
    intro a b h
    simp only [SwitchFabric.graph, exampleFabric, exampleNetwork] at h
    split at h
    · rename_i hport
      cases h
      exact ⟨hport, rfl⟩
    · cases h
  intro b hcycle
  rcases TransGen.tail'_iff.mp hcycle with ⟨last, -, c, -, -, hlast⟩
  rcases TransGen.head'_iff.mp hcycle with ⟨first, ⟨d, hnode, hne, hfirst⟩, -⟩
  refine hne (Prod.ext hnode ?_)
  rw [(hpeer hlast).2, (hpeer hfirst).1]

local instance twoHosts_neZero : NeZero 2 := ⟨by decide⟩

/-- A broadcast of the first host, and the answer of the one that hears it. -/
def exampleRequest : EthernetFrame :=
  { dstMac := MacAddress.broadcast
    srcMac := exampleHosts.mac (0, 0)
    hasVlan := false
    vlanId := 0
    ethertype := ethernetTypeArp
    payload := [1] }

def exampleAnswer : EthernetFrame :=
  { exampleRequest with
    dstMac := exampleHosts.mac (0, 0)
    srcMac := exampleHosts.mac (1, 0)
    payload := [2] }

def exampleExchange : List (SwitchAction (Fin 2)) :=
  [.inject (exampleHosts.port (0, 0)) (ethernetBytes exampleRequest), .deliver 0, .deliver 0,
    .inject (exampleHosts.port (1, 0)) (ethernetBytes exampleAnswer), .deliver 0, .deliver 0]

theorem switch_exactly_once_exchange :
    exampleHosts.received (exampleFabric.run exampleExchange) 0 (1, 0) =
        [{ origin := 0, port := (1, 0), raw := ethernetBytes exampleRequest }] ∧
      exampleHosts.received (exampleFabric.run exampleExchange) 1 (0, 0) =
        [{ origin := 1, port := (0, 0), raw := ethernetBytes exampleAnswer }] := by
  have hrequest : exampleHosts.Sends (0, 0) exampleRequest := by
    refine ⟨⟨?_, ?_, ?_, ?_⟩, rfl, rfl⟩
    all_goals decide
  have hanswer : exampleHosts.Sends (1, 0) exampleAnswer := by
    refine ⟨⟨?_, ?_, ?_, ?_⟩, rfl, rfl⟩
    all_goals decide
  have hsends : exampleHosts.SendsOnly exampleExchange := by
    intro port raw hmem
    simp only [exampleExchange, List.mem_cons, SwitchAction.inject.injEq, reduceCtorEq,
      List.not_mem_nil, or_false, false_or] at hmem
    rcases hmem with ⟨rfl, rfl⟩ | ⟨rfl, rfl⟩
    · exact ⟨(0, 0), exampleRequest, hrequest, rfl, rfl⟩
    · exact ⟨(1, 0), exampleAnswer, hanswer, rfl, rfl⟩
  have hlink : exampleFabric.graph.Adjacent 0 1 := ⟨(0, 2), (1, 2), rfl, rfl, rfl⟩
  have hback : exampleFabric.graph.Adjacent 1 0 := ⟨(1, 2), (0, 2), rfl, rfl, rfl⟩
  have hdone : (exampleFabric.run exampleExchange).flights = [] := by decide +kernel
  have hinjected : (exampleFabric.run exampleExchange).injected =
      [(exampleHosts.port (0, 0), ethernetBytes exampleRequest),
        (exampleHosts.port (1, 0), ethernetBytes exampleAnswer)] := rfl
  rcases switch_exactly_once exampleHosts exampleFabric_acyclic (fun _ => rfl) exampleExchange hsends
    with ⟨-, hreceived, -⟩
  refine ⟨?_, ?_⟩
  · have hfirst := hreceived 0 (0, 0) exampleRequest hrequest (by rw [hinjected]; rfl)
    exact hfirst.2 hdone (1, 0) (by decide) rfl (ReflTransGen.single hlink) (Or.inl rfl)
  · have hsecond := hreceived 1 (1, 0) exampleAnswer hanswer (by rw [hinjected]; rfl)
    exact hsecond.2 hdone (0, 0) (by decide) rfl (ReflTransGen.single hback) (Or.inr rfl)

end MagiStack
