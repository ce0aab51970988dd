import MagiStack.Layer2.Ethernet

/-!
# Switch — VLAN-aware learning switches

Embedding of `layer2/switch.c`: the MAC table, the port configuration, the VLAN policy and
`switch_receive`.  Port numbers run from one and are whatever integer the MAC table holds; the
functions check them before they index the arrays.  What a switch sends is the list of its ports with
the bytes handed to `interface_send`, in order.
-/

namespace MagiStack

abbrev maxPort : Nat := 32
def switchDefaultVlanId : Int := 1
def switchMacTableMaxEntries : Nat := 256

instance : NeZero maxPort := ⟨by decide⟩

theorem one_le_maxPort : 1 ≤ maxPort := by decide

/-! ## MAC table -/

/-- `SwitchMacEntry`. -/
structure SwitchMacEntry where
  vlanId : Int
  mac : MacAddress
  portNumber : Int
  deriving DecidableEq, Repr

/-- `SwitchMacTable`; the list holds the `size` entries in use. -/
structure SwitchMacTable where
  entries : List SwitchMacEntry
  size_le : entries.length ≤ switchMacTableMaxEntries

/-- `switch_mac_table_init`. -/
def switchMacTableInit : SwitchMacTable :=
  { entries := [], size_le := Nat.zero_le _ }

/-- `switch_mac_table_find_index`. -/
def switchMacTableFindIndex (table : SwitchMacTable) (vlanId : Int) (mac : MacAddress) :
    Option Nat :=
  table.entries.findIdx? fun entry => entry.vlanId == vlanId && macEqual entry.mac mac

/-- `switch_mac_table_set`; `none` when it returns `0`. -/
def switchMacTableSet (table : SwitchMacTable) (vlanId : Int) (mac : MacAddress)
    (portNumber : Int) : Option SwitchMacTable :=
  if vlanId < 1 ∨ portNumber < 1 then
    none
  else
    match switchMacTableFindIndex table vlanId mac with
    | some index =>
        some
          { entries := table.entries.modify index fun entry => { entry with portNumber := portNumber }
            size_le := by simpa using table.size_le }
    | none =>
        if h : table.entries.length < switchMacTableMaxEntries then
          some
            { entries := table.entries ++ [{ vlanId := vlanId, mac := mac, portNumber := portNumber }]
              size_le := by simpa using Nat.succ_le_of_lt h }
        else
          none

/-- `switch_mac_table_get`. -/
def switchMacTableGet (table : SwitchMacTable) (vlanId : Int) (mac : MacAddress) : Option Int :=
  (switchMacTableFindIndex table vlanId mac).bind fun index =>
    table.entries[index]?.map SwitchMacEntry.portNumber

/-- What `switch_mac_table_get` returns stands in an entry for that address. -/
theorem exists_entry_of_switchMacTableGet {table : SwitchMacTable} {vlanId portNumber : Int}
    {mac : MacAddress} (h : switchMacTableGet table vlanId mac = some portNumber) :
    { vlanId := vlanId, mac := mac, portNumber := portNumber } ∈ table.entries := by
  rcases Option.bind_eq_some_iff.mp h with ⟨index, hindex, hget⟩
  rcases List.findIdx?_eq_some_iff_getElem.mp hindex with ⟨hlt, hfound, -⟩
  rw [Bool.and_eq_true, beq_iff_eq, macEqual_iff] at hfound
  rw [List.getElem?_eq_getElem hlt, Option.map_some, Option.some.injEq] at hget
  have hmem := List.getElem_mem hlt
  generalize table.entries[index] = entry at hfound hget hmem
  rcases entry with ⟨entryVlan, entryMac, entryPort⟩
  rcases hfound with ⟨rfl, rfl⟩
  cases hget
  exact hmem

/-- `switch_mac_table_set` leaves every other entry as it was. -/
theorem mem_switchMacTableSet {table table' : SwitchMacTable} {vlanId portNumber : Int}
    {mac : MacAddress} (h : switchMacTableSet table vlanId mac portNumber = some table')
    {entry : SwitchMacEntry} (hentry : entry ∈ table'.entries) :
    entry ∈ table.entries ∨ entry = { vlanId := vlanId, mac := mac, portNumber := portNumber } := by
  rw [switchMacTableSet] at h
  split at h
  · cases h
  · split at h
    · rename_i index hindex
      cases h
      rcases List.findIdx?_eq_some_iff_getElem.mp hindex with ⟨hlt, hfound, -⟩
      rw [Bool.and_eq_true, beq_iff_eq, macEqual_iff] at hfound
      rcases List.mem_iff_getElem.mp hentry with ⟨i, hi, rfl⟩
      rw [List.getElem_modify]
      split
      · rename_i heq
        subst heq
        exact Or.inr (by rw [← hfound.1, ← hfound.2])
      · exact Or.inl (List.getElem_mem _)
    · split at h
      · cases h
        rcases List.mem_append.mp hentry with hold | hnew
        · exact Or.inl hold
        · exact Or.inr (List.mem_singleton.mp hnew)
      · cases h

/-! ## Ports -/

/-- `SwitchPortMode`. -/
inductive SwitchPortMode
  | access
  | trunk
  deriving DecidableEq, Repr

/-- `SwitchPortConfig`. -/
structure SwitchPortConfig where
  mode : SwitchPortMode
  vlanId : Int
  deriving DecidableEq, Repr

/-- `Switch`; `linked` says of which interfaces the `link` pointer is set. -/
structure Switch where
  numInterfaces : Nat
  numInterfaces_le : numInterfaces ≤ maxPort
  linked : Fin maxPort → Bool
  portConfigs : Fin maxPort → SwitchPortConfig
  macTable : SwitchMacTable

/-- `portNumber` of an interface. -/
def interfacePortNumber (port : Fin maxPort) : Int :=
  port.val + 1

/-- The interface with a port number, as `node_get_interface` finds it. -/
def Switch.interface (sw : Switch) (portNumber : Int) : Option (Fin maxPort) :=
  if h : 1 ≤ portNumber ∧ portNumber ≤ sw.numInterfaces then
    some ⟨(portNumber - 1).toNat, by have := sw.numInterfaces_le; omega⟩
  else
    none

theorem Switch.interface_eq_some {sw : Switch} {portNumber : Int} {port : Fin maxPort} :
    sw.interface portNumber = some port ↔
      portNumber = interfacePortNumber port ∧ port.val < sw.numInterfaces := by
  rw [interface, interfacePortNumber]
  split
  · rw [Option.some.injEq, Fin.ext_iff]
    simp only
    omega
  · constructor
    · intro h
      cases h
    · intro h
      omega

theorem interfacePortNumber_injective {a b : Fin maxPort}
    (h : interfacePortNumber a = interfacePortNumber b) : a = b := by
  rw [interfacePortNumber, interfacePortNumber] at h
  exact Fin.ext (by omega)

/-- `switch_init`. -/
def switchInit (numInterfaces : Nat) (h : numInterfaces ≤ maxPort) (linked : Fin maxPort → Bool) :
    Switch :=
  { numInterfaces := numInterfaces
    numInterfaces_le := h
    linked := linked
    portConfigs := fun _ => { mode := .access, vlanId := switchDefaultVlanId }
    macTable := switchMacTableInit }

/-- `switch_set_access_port`; `none` when it returns `0`. -/
def switchSetAccessPort (sw : Switch) (portNumber vlanId : Int) : Option Switch :=
  if vlanId < 1 then
    none
  else
    (sw.interface portNumber).map fun port =>
      { sw with
        portConfigs := Function.update sw.portConfigs port { mode := .access, vlanId := vlanId } }

/-- `switch_set_trunk_port`; `none` when it returns `0`. -/
def switchSetTrunkPort (sw : Switch) (portNumber : Int) : Option Switch :=
  (sw.interface portNumber).map fun port =>
    { sw with portConfigs := Function.update sw.portConfigs port { mode := .trunk, vlanId := 0 } }

/-- `switch_port_allows_vlan`. -/
def switchPortAllowsVlan (sw : Switch) (portNumber vlanId : Int) : Bool :=
  if vlanId < 1 then
    false
  else
    match sw.interface portNumber with
    | none => false
    | some port =>
        match (sw.portConfigs port).mode with
        | .trunk => true
        | .access => (sw.portConfigs port).vlanId == vlanId

/-- `switch_determine_ingress_vlan`; `none` when it returns `0`. -/
def switchDetermineIngressVlan (sw : Switch) (inPort : Int) (frame : EthernetFrame) : Option Int :=
  match sw.interface inPort with
  | none => none
  | some port =>
      match (sw.portConfigs port).mode with
      | .access =>
          if frame.hasVlan then none
          else if 1 ≤ (sw.portConfigs port).vlanId then some (sw.portConfigs port).vlanId
          else none
      | .trunk =>
          if frame.hasVlan = false ∨ frame.vlanId < 1 then none else some frame.vlanId.toNat

/-- Which VLANs pass a port that the switch has. -/
theorem switchPortAllowsVlan_iff {sw : Switch} {port : Fin maxPort}
    (hport : port.val < sw.numInterfaces) (vlanId : Int) :
    switchPortAllowsVlan sw (interfacePortNumber port) vlanId = true ↔
      1 ≤ vlanId ∧
        ((sw.portConfigs port).mode = .access → (sw.portConfigs port).vlanId = vlanId) := by
  have hinterface := Switch.interface_eq_some.mpr ⟨rfl, hport⟩
  rw [switchPortAllowsVlan, hinterface]
  by_cases hvlan : vlanId < 1
  · simp [hvlan]
  · cases hmode : (sw.portConfigs port).mode with
    | access => simp [hvlan, hmode, Int.not_lt.mp hvlan]
    | trunk => simp [hvlan, hmode, Int.not_lt.mp hvlan]

/-! ## Forwarding -/

/-- The frame `switch_send_frame_on_port` serializes: tagged on a trunk, untagged on an access port. -/
def switchOutbound (config : SwitchPortConfig) (vlanId : Int) (frame : EthernetFrame) :
    Option EthernetFrame :=
  match config.mode with
  | .trunk => ethernetSetVlan frame (UInt16.ofInt vlanId)
  | .access => some (ethernetClearVlan frame)

/-- `switch_send_frame_on_port`: the interface and the bytes it hands to `interface_send`, if any. -/
def switchSendFrameOnPort (sw : Switch) (outPort vlanId : Int) (frame : EthernetFrame) :
    Option (Fin maxPort × List UInt8) :=
  match sw.interface outPort with
  | none => none
  | some port =>
      if switchPortAllowsVlan sw outPort vlanId then
        match switchOutbound (sw.portConfigs port) vlanId frame with
        | none => none
        | some outbound =>
            match ethernetToBytes outbound (ethernetVlanHeaderSize + ethernetMaxPayload) with
            | none => none
            | some raw => if sw.linked port then some (port, raw) else none
      else
        none

/-- `switch_flood_frame`. -/
def switchFloodFrame (sw : Switch) (inPort vlanId : Int) (frame : EthernetFrame) :
    List (Fin maxPort × List UInt8) :=
  (List.range sw.numInterfaces).filterMap fun i : Nat =>
    let port : Int := (i : Int) + 1
    if port = inPort then none else switchSendFrameOnPort sw port vlanId frame

/-- `switch_mac_table_set` on the switch's table. -/
def switchLearn (sw : Switch) (vlanId : Int) (mac : MacAddress) (inPort : Int) : Switch :=
  { sw with macTable := (switchMacTableSet sw.macTable vlanId mac inPort).getD sw.macTable }

/-- What `switch_receive` sends once it has learned the source. -/
def switchForward (sw : Switch) (inPort vlanId : Int) (frame : EthernetFrame) :
    List (Fin maxPort × List UInt8) :=
  if ethernetIsBroadcast frame.dstMac then
    switchFloodFrame sw inPort vlanId frame
  else
    match switchMacTableGet sw.macTable vlanId frame.dstMac with
    | none => switchFloodFrame sw inPort vlanId frame
    | some outPort =>
        if outPort = inPort then []
        else (switchSendFrameOnPort sw outPort vlanId frame).toList

/-- `switch_receive`. -/
def switchReceive (sw : Switch) (inPort : Int) (raw : List UInt8) :
    Switch × List (Fin maxPort × List UInt8) :=
  match ethernetFromBytes raw with
  | none => (sw, [])
  | some frame =>
      match switchDetermineIngressVlan sw inPort frame with
      | none => (sw, [])
      | some vlanId =>
          let learned := switchLearn sw vlanId frame.srcMac inPort
          (learned, switchForward learned inPort vlanId frame)

/-! ## What is sent -/

/-- What leaves a port: the switch has it, it carries the VLAN, and the bytes are the frame's. -/
theorem switchSendFrameOnPort_eq_some {sw : Switch} {outPort vlanId : Int} {frame : EthernetFrame}
    {port : Fin maxPort} {raw : List UInt8}
    (h : switchSendFrameOnPort sw outPort vlanId frame = some (port, raw)) :
    outPort = interfacePortNumber port ∧ port.val < sw.numInterfaces ∧
      switchPortAllowsVlan sw outPort vlanId = true ∧
      ∃ outbound, switchOutbound (sw.portConfigs port) vlanId frame = some outbound ∧
        raw = ethernetBytes outbound := by
  rw [switchSendFrameOnPort] at h
  split at h
  · cases h
  · rename_i found hfound
    split at h
    · rename_i hallows
      split at h
      · cases h
      · rename_i outbound houtbound
        split at h
        · cases h
        · rename_i bytes hbytes
          split at h
          · cases h
            rcases Switch.interface_eq_some.mp hfound with ⟨hnumber, hlt⟩
            refine ⟨hnumber, hlt, hallows, outbound, houtbound, ?_⟩
            rw [ethernetToBytes] at hbytes
            split at hbytes
            · cases hbytes
            · exact (Option.some.inj hbytes).symm
          · cases h
    · cases h

/-- A linked port that carries the VLAN sends the frame. -/
theorem switchSendFrameOnPort_of_allows {sw : Switch} {vlanId : Int} {frame outbound : EthernetFrame}
    {port : Fin maxPort} (hport : port.val < sw.numInterfaces) (hlinked : sw.linked port = true)
    (hallows : switchPortAllowsVlan sw (interfacePortNumber port) vlanId = true)
    (houtbound : switchOutbound (sw.portConfigs port) vlanId frame = some outbound)
    (hpayload : outbound.payload.length ≤ ethernetMaxPayload) :
    switchSendFrameOnPort sw (interfacePortNumber port) vlanId frame =
      some (port, ethernetBytes outbound) := by
  have hinterface := Switch.interface_eq_some.mpr ⟨rfl, hport⟩
  rw [switchSendFrameOnPort, hinterface]
  simp only [hallows, if_true, houtbound, ethernetToBytes_eq hpayload, hlinked]

theorem mem_switchFloodFrame {sw : Switch} {inPort vlanId : Int} {frame : EthernetFrame}
    {port : Fin maxPort} {raw : List UInt8} :
    (port, raw) ∈ switchFloodFrame sw inPort vlanId frame ↔
      interfacePortNumber port ≠ inPort ∧
        switchSendFrameOnPort sw (interfacePortNumber port) vlanId frame = some (port, raw) := by
  rw [switchFloodFrame, List.mem_filterMap]
  constructor
  · rintro ⟨i, -, hi⟩
    simp only at hi
    split at hi
    · cases hi
    · rename_i hne
      rcases switchSendFrameOnPort_eq_some hi with ⟨hnumber, -⟩
      rw [hnumber] at hi hne
      exact ⟨hne, hi⟩
  · rintro ⟨hne, hsend⟩
    rcases switchSendFrameOnPort_eq_some hsend with ⟨-, hlt, -⟩
    exact ⟨port.val, List.mem_range.mpr hlt, (if_neg hne).trans hsend⟩

/-- What a switch sends for a frame leaves other ports than the frame came in by. -/
theorem mem_switchForward {sw : Switch} {inPort vlanId : Int} {frame : EthernetFrame}
    {port : Fin maxPort} {raw : List UInt8}
    (h : (port, raw) ∈ switchForward sw inPort vlanId frame) :
    interfacePortNumber port ≠ inPort ∧
      switchSendFrameOnPort sw (interfacePortNumber port) vlanId frame = some (port, raw) := by
  rw [switchForward] at h
  split at h
  · exact mem_switchFloodFrame.mp h
  · split at h
    · exact mem_switchFloodFrame.mp h
    · split at h
      · cases h
      · rename_i hne
        have hsend := Option.mem_toList.mp h
        rcases switchSendFrameOnPort_eq_some hsend with ⟨hnumber, -⟩
        rw [hnumber] at hne hsend
        exact ⟨hne, hsend⟩

/-- A frame leaves a port at most once. -/
theorem switchForward_nodup (sw : Switch) (inPort vlanId : Int) (frame : EthernetFrame) :
    ((switchForward sw inPort vlanId frame).map Prod.fst).Nodup := by
  have hflood : ((switchFloodFrame sw inPort vlanId frame).map Prod.fst).Nodup := by
    rw [switchFloodFrame, List.map_filterMap]
    refine List.Nodup.filterMap ?_ List.nodup_range
    have hport : ∀ (i : Nat) (port : Fin maxPort), port ∈ Option.map Prod.fst (if (i : Int) + 1 = inPort then none
        else switchSendFrameOnPort sw ((i : Int) + 1) vlanId frame) → i = port.val := by
      intro i port hi
      rcases Option.map_eq_some_iff.mp hi with ⟨⟨sent, raw⟩, hsent, rfl⟩
      split at hsent
      · cases hsent
      · have hnumber := (switchSendFrameOnPort_eq_some hsent).1
        rw [interfacePortNumber] at hnumber
        simp only
        omega
    intro i j port hi hj
    exact (hport i port hi).trans (hport j port hj).symm
  rw [switchForward]
  split
  · exact hflood
  · split
    · exact hflood
    · split
      · exact List.nodup_nil
      · cases switchSendFrameOnPort sw _ vlanId frame with
        | none => exact List.nodup_nil
        | some sent => exact List.nodup_singleton _

/-- A frame leaves the port its destination was learned on, and every port when none was. -/
theorem mem_switchForward_of_send {sw : Switch} {inPort vlanId : Int} {frame : EthernetFrame}
    {port : Fin maxPort} {raw : List UInt8} (hne : interfacePortNumber port ≠ inPort)
    (hsend : switchSendFrameOnPort sw (interfacePortNumber port) vlanId frame = some (port, raw))
    (hlearned : ethernetIsBroadcast frame.dstMac = false →
      ∀ outPort ∈ switchMacTableGet sw.macTable vlanId frame.dstMac,
        outPort = interfacePortNumber port) :
    (port, raw) ∈ switchForward sw inPort vlanId frame := by
  rw [switchForward]
  split
  · exact mem_switchFloodFrame.mpr ⟨hne, hsend⟩
  · rename_i hbroadcast
    split
    · exact mem_switchFloodFrame.mpr ⟨hne, hsend⟩
    · rename_i outPort hget
      have hport := hlearned (Bool.not_eq_true _ ▸ hbroadcast) outPort hget
      rw [hport, if_neg hne, hsend]
      exact List.mem_singleton.mpr rfl

/-- Learning adds or changes only the entry of the source address. -/
theorem mem_switchLearn {sw : Switch} {vlanId inPort : Int} {mac : MacAddress}
    {entry : SwitchMacEntry}
    (h : entry ∈ (switchLearn sw vlanId mac inPort).macTable.entries) :
    entry ∈ sw.macTable.entries ∨
      entry = { vlanId := vlanId, mac := mac, portNumber := inPort } := by
  simp only [switchLearn] at h
  cases hset : switchMacTableSet sw.macTable vlanId mac inPort with
  | none =>
      rw [hset] at h
      exact Or.inl h
  | some table =>
      rw [hset] at h
      exact mem_switchMacTableSet hset h

end MagiStack
