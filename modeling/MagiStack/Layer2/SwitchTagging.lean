import MagiStack.Layer2.Switch

/-!
# SwitchTagging — what a copy of a frame looks like

A switch sends a frame it admits on a VLAN again on other ports.  This module says when a copy, parsed by
whoever receives it, is the frame that came in, with the tag its port asks for.
-/

namespace MagiStack

/-- The copy parses to the frame that came in: untagged on an access port, tagged with the VLAN on a
trunk port. -/
def SentExactly (sw : Switch) (vlanId : Int) (frame : EthernetFrame)
    (copy : Fin maxPort × List UInt8) : Prop :=
  ∃ out, ethernetFromBytes copy.2 = some out ∧
    out.dstMac = frame.dstMac ∧ out.srcMac = frame.srcMac ∧ out.ethertype = frame.ethertype ∧
    out.payload = frame.payload ∧
    match (sw.portConfigs copy.1).mode with
    | .access => out.hasVlan = false
    | .trunk => out.hasVlan = true ∧ (out.vlanId.toNat : Int) = vlanId

/-- What the port can send unchanged: without a tag no type that reads as a tag, and with a tag no
VLAN beyond the sixteen bits it is cut down to. -/
def PortKeeps (config : SwitchPortConfig) (vlanId : Int) (frame : EthernetFrame) : Prop :=
  match config.mode with
  | .access => frame.ethertype ≠ ethernetTypeVlan
  | .trunk => vlanId < 65536

/-- Bytes that a serializer began with a tag or with a type that reads as one are parsed as tagged. -/
theorem hasVlan_of_ethertype (frame : EthernetFrame) {out : EthernetFrame} (htag : frame.hasVlan = false)
    (htype : frame.ethertype = ethernetTypeVlan)
    (hparse : ethernetFromBytes (ethernetBytes frame) = some out) : out.hasVlan = true := by
  have hread : readU16Be (ethernetBytes frame) 12 = ethernetTypeVlan := by
    simp [ethernetBytes, htag, htype, MacAddress.bytes, writeU16Be, readU16Be]
  rw [ethernetFromBytes] at hparse
  split at hparse
  · cases hparse
  · split at hparse
    · cases hparse
    · split at hparse
      · cases hparse
      · rw [← Option.some.inj hparse]

/-- A copy on an access port. -/
theorem clearVlan_parses_iff {frame : EthernetFrame} (h : frame.Serializable) :
    (∃ out, ethernetFromBytes (ethernetBytes (ethernetClearVlan frame)) = some out ∧
      out.dstMac = frame.dstMac ∧ out.srcMac = frame.srcMac ∧ out.ethertype = frame.ethertype ∧
      out.payload = frame.payload ∧ out.hasVlan = false) ↔
    frame.ethertype ≠ ethernetTypeVlan := by
  constructor
  · rintro ⟨out, hparse, -, -, -, -, huntagged⟩ htype
    rw [hasVlan_of_ethertype (ethernetClearVlan frame) rfl htype hparse] at huntagged
    cases huntagged
  · intro htype
    have hclear : (ethernetClearVlan frame).Serializable :=
      ⟨h.payload_le, nofun, fun _ => rfl, fun _ => htype⟩
    exact ⟨ethernetClearVlan frame, ethernetFromBytes_bytes hclear, rfl, rfl, rfl, rfl, rfl⟩

/-- A copy on a trunk port. -/
theorem setVlan_parses_iff {frame outbound : EthernetFrame} {vlanId : Int} (h : frame.Serializable)
    (hpositive : 1 ≤ vlanId)
    (hset : ethernetSetVlan frame (UInt16.ofInt vlanId) = some outbound) :
    (∃ out, ethernetFromBytes (ethernetBytes outbound) = some out ∧
      out.dstMac = frame.dstMac ∧ out.srcMac = frame.srcMac ∧ out.ethertype = frame.ethertype ∧
      out.payload = frame.payload ∧ out.hasVlan = true ∧ (out.vlanId.toNat : Int) = vlanId) ↔
    vlanId < 65536 := by
  have hparse := ethernetFromBytes_bytes (ethernetSetVlan_serializable h hset).1
  have hvalue : ((UInt16.ofInt vlanId).toNat : Int) = vlanId % 65536 := by
    rw [UInt16.ofInt, UInt16.toNat_ofNat']
    omega
  rw [ethernetSetVlan] at hset
  split at hset
  · cases hset
  · obtain rfl := Option.some.inj hset
    rw [hparse]
    simp only [Option.some.injEq, exists_eq_left', hvalue, true_and]
    omega

/-- Of a frame that `switch_receive` admits on a VLAN, no copy leaves the port it came in by, and a copy
is the frame with exactly the tag of its port if and only if the port keeps it: on an access port its type
does not read as a tag, on a trunk port the VLAN has no more than sixteen bits. -/
theorem switchReceive_sentExactly_iff {sw : Switch} {inPort vlanId : Int} {raw : List UInt8}
    {frame : EthernetFrame} (hparse : ethernetFromBytes raw = some frame)
    (hingress : switchDetermineIngressVlan sw inPort frame = some vlanId) :
    ∀ copy ∈ (switchReceive sw inPort raw).2,
      interfacePortNumber copy.1 ≠ inPort ∧
        (SentExactly sw vlanId frame copy ↔ PortKeeps (sw.portConfigs copy.1) vlanId frame) := by
  intro copy hcopy
  have hreceive : (switchReceive sw inPort raw).2 =
      switchForward (switchLearn sw vlanId frame.srcMac inPort) inPort vlanId frame := by
    simp only [switchReceive, hparse, hingress]
  rw [hreceive] at hcopy
  obtain ⟨hother, hsend⟩ := mem_switchForward hcopy
  obtain ⟨-, hlt, hallows, outbound, houtbound, hbytes⟩ := switchSendFrameOnPort_eq_some hsend
  have hserializable := ethernetFromBytes_serializable hparse
  -- Learning an address changes neither the ports nor their configuration.
  change switchOutbound (sw.portConfigs copy.1) vlanId frame = some outbound at houtbound
  refine ⟨hother, ?_⟩
  rw [SentExactly, PortKeeps, hbytes]
  rw [switchOutbound] at houtbound
  cases hmode : (sw.portConfigs copy.1).mode with
  | access =>
      rw [hmode] at houtbound
      obtain rfl := Option.some.inj houtbound
      exact clearVlan_parses_iff hserializable
  | trunk =>
      rw [hmode] at houtbound
      obtain ⟨hpositive, -⟩ := (switchPortAllowsVlan_iff hlt vlanId).mp hallows
      exact setVlan_parses_iff hserializable hpositive houtbound

/-! ## Copies that differ -/

/-- Three linked ports: an access port of VLAN 5, an access port of VLAN 65541 and a trunk. -/
def officeSwitch : Option Switch :=
  (switchSetAccessPort (switchInit 3 (by decide) fun _ => true) 1 5).bind fun sw =>
    (switchSetAccessPort sw 2 65541).bind fun sw => switchSetTrunkPort sw 3

/-- A broadcast without a tag. -/
def greetingFrame : EthernetFrame :=
  { dstMac := MacAddress.broadcast
    srcMac := ⟨2, 0, 0, 0, 0, 1⟩
    hasVlan := false
    vlanId := 0
    ethertype := ethernetTypeIpv4
    payload := [42] }

/-- A broadcast with the tag of VLAN 5, and inside it the tag of VLAN 9. -/
def doublyTaggedFrame : EthernetFrame :=
  { greetingFrame with
    hasVlan := true
    vlanId := 5
    ethertype := ethernetTypeVlan
    payload := [0, 9, 8, 0, 42] }

/-- From the access port of VLAN 65541 a frame reaches the trunk with the tag of VLAN 5. -/
theorem switchReceive_sentExactly_iff_wideVlan :
    ∃ sw copy, officeSwitch = some sw ∧
      copy ∈ (switchReceive sw 2 (ethernetBytes greetingFrame)).2 ∧
      ethernetFromBytes copy.2 = some { greetingFrame with hasVlan := true, vlanId := 5 } ∧
      ¬SentExactly sw 65541 greetingFrame copy := by
  refine ⟨_, (2, ethernetBytes { greetingFrame with hasVlan := true, vlanId := 5 }), rfl, by decide,
    by decide, fun h => ?_⟩
  have hparse : ethernetFromBytes (ethernetBytes greetingFrame) = some greetingFrame := by
    decide
  have hkeeps := ((switchReceive_sentExactly_iff hparse
    (by decide : switchDetermineIngressVlan _ 2 greetingFrame = some 65541) _ (by decide)).2).mp h
  exact absurd hkeeps (by decide : ¬(65541 : Int) < 65536)

/-- The copy of a doubly tagged frame on an access port is a frame tagged with the inner VLAN. -/
theorem switchReceive_doublyTagged :
    ∃ sw copy, officeSwitch = some sw ∧
      ethernetFromBytes (ethernetBytes doublyTaggedFrame) = some doublyTaggedFrame ∧
      switchDetermineIngressVlan sw 3 doublyTaggedFrame = some 5 ∧
      copy ∈ (switchReceive sw 3 (ethernetBytes doublyTaggedFrame)).2 ∧
      (sw.portConfigs copy.1).mode = .access ∧
      ethernetFromBytes copy.2 = some { greetingFrame with hasVlan := true, vlanId := 9 } ∧
      ¬SentExactly sw 5 doublyTaggedFrame copy := by
  have hcopy : ethernetFromBytes (ethernetBytes (ethernetClearVlan doublyTaggedFrame)) =
      some { greetingFrame with hasVlan := true, vlanId := 9 } := by decide
  refine ⟨_, (0, ethernetBytes (ethernetClearVlan doublyTaggedFrame)), rfl, by decide, by decide,
    by decide, by decide, hcopy, ?_⟩
  rintro ⟨out, hparse, -, -, -, -, huntagged⟩
  have hout : out = { greetingFrame with hasVlan := true, vlanId := 9 } :=
    Option.some.inj (hparse.symm.trans hcopy)
  rw [hout] at huntagged
  exact absurd huntagged (by decide : ¬(true = false))

end MagiStack
