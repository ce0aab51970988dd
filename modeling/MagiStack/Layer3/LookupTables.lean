import MagiStack.Library.KeyedTable
import MagiStack.Layer2.HostPending
import MagiStack.Layer2.Switch
import MagiStack.Layer3.RouterFlush

/-!
# LookupTables — the ARP and MAC tables as finite maps

Both tables keep their entries in an array that is searched for a key: an entry is updated in place,
appended, or taken out by moving the rest one place down.  After any calls a table holds each key once, with
the value it was last set to.  A router keeps the VLANs of its ARP entries in a second array at the same
places, and each stays with its entry.
-/

namespace MagiStack

open KeyedTable

/-! ## The tables -/

/-- `arp_table_remove`; `none` when it returns `0`. -/
def arpTableRemove (table : ArpTable) (ip : IpAddress) : Option ArpTable :=
  (arpTableFindIndex table ip).map fun index =>
    { entries := table.entries.eraseIdx index
      size_le := (List.length_eraseIdx_le _ _).trans table.size_le }

/-- `switch_mac_table_remove`; `none` when it returns `0`. -/
def switchMacTableRemove (table : SwitchMacTable) (vlanId : Int) (mac : MacAddress) :
    Option SwitchMacTable :=
  (switchMacTableFindIndex table vlanId mac).map fun index =>
    { entries := table.entries.eraseIdx index
      size_le := (List.length_eraseIdx_le _ _).trans table.size_le }

/-- The updates of an `ArpTable`. -/
def arpStore : Store ArpTable IpAddress MacAddress :=
  { set := arpTableSet, remove := arpTableRemove }

/-- The updates of a `SwitchMacTable`, keyed by VLAN and address. -/
def switchStore : Store SwitchMacTable (Int × MacAddress) Int :=
  { set := fun table key portNumber => switchMacTableSet table key.1 key.2 portNumber
    remove := fun table key => switchMacTableRemove table key.1 key.2 }

abbrev ArpHistory : Type := History ArpTable (List UInt8) MacAddress

abbrev SwitchHistory : Type := History SwitchMacTable (Int × MacAddress) Int

def ArpHistory.initial : ArpHistory :=
  { table := arpTableInit, last := fun _ => none }

def SwitchHistory.initial : SwitchHistory :=
  { table := switchMacTableInit, last := fun _ => none }

/-- The calls of a history, from an empty table; prefixes do not tell addresses apart. -/
def ArpHistory.ofCalls (calls : List (Call IpAddress MacAddress)) : ArpHistory :=
  History.run arpStore IpAddress.octets ArpHistory.initial calls

def SwitchHistory.ofCalls (calls : List (Call (Int × MacAddress) Int)) : SwitchHistory :=
  History.run switchStore id SwitchHistory.initial calls

/-! ## The properties -/

/-- The table is the map: each key once, with its last value, and `arp_table_set` and `arp_table_remove` fail
exactly where they must. -/
structure ArpHistory.IsMap (s : ArpHistory) : Prop where
  once : (s.table.entries.map fun entry => entry.ip.octets).Nodup
  get : ∀ ip, arpTableGetConst s.table ip = s.last ip.octets
  set : ∀ ip mac, arpTableSet s.table ip mac = none ↔
    s.last ip.octets = none ∧ s.table.entries.length = arpTableMaxEntries
  remove : ∀ ip, arpTableRemove s.table ip = none ↔ s.last ip.octets = none

/-- The same of the MAC table, whose `switch_mac_table_set` refuses VLANs and ports below one. -/
structure SwitchHistory.IsMap (s : SwitchHistory) : Prop where
  once : (s.table.entries.map fun entry => (entry.vlanId, entry.mac)).Nodup
  get : ∀ vlanId mac, switchMacTableGet s.table vlanId mac = s.last (vlanId, mac)
  set : ∀ vlanId mac portNumber, switchMacTableSet s.table vlanId mac portNumber = none ↔
    (vlanId < 1 ∨ portNumber < 1) ∨
      s.last (vlanId, mac) = none ∧ s.table.entries.length = switchMacTableMaxEntries
  remove : ∀ vlanId mac, switchMacTableRemove s.table vlanId mac = none ↔ s.last (vlanId, mac) = none

/-! ## The ARP table -/

namespace ArpTable

variable {table table' : ArpTable} {map : List UInt8 → Option MacAddress} {ip : IpAddress} {mac : MacAddress}

/-- The table holds a map from octets to MAC addresses. -/
def Holds (table : ArpTable) (map : List UInt8 → Option MacAddress) : Prop :=
  Represents (fun entry => entry.ip.octets) ArpTableEntry.mac table.entries map

theorem findIndex_eq (table : ArpTable) (ip : IpAddress) :
    arpTableFindIndex table ip = findIndex (fun entry => entry.ip.octets) table.entries ip.octets := by
  rw [arpTableFindIndex, findIndex]
  refine congrArg (List.findIdx? · table.entries) (funext fun entry => ?_)
  rw [Bool.eq_iff_iff, ipOctetsEqualPublic_iff, decide_eq_true_iff]

theorem Holds.set (h : table.Holds map) (hset : arpTableSet table ip mac = some table') :
    table'.Holds (Function.update map ip.octets (some mac)) := by
  rw [arpTableSet] at hset
  split at hset
  · rename_i index hindex
    cases hset
    exact Represents.modify h (findIndex_eq table ip ▸ hindex) (fun _ => rfl) fun _ => rfl
  · rename_i hindex
    split at hset
    · cases hset
      exact Represents.append h { ip := ip, mac := mac } (findIndex_eq table ip ▸ hindex)
    · cases hset

theorem Holds.remove (h : table.Holds map) (hremove : arpTableRemove table ip = some table') :
    table'.Holds (Function.update map ip.octets none) := by
  obtain ⟨index, hindex, rfl⟩ := Option.map_eq_some_iff.mp hremove
  exact Represents.eraseIdx h (findIndex_eq table ip ▸ hindex)

theorem Holds.findIndex_eq_none_iff (h : table.Holds map) (ip : IpAddress) :
    arpTableFindIndex table ip = none ↔ map ip.octets = none := by
  rw [findIndex_eq]
  exact Represents.findIndex_eq_none_iff h

theorem Holds.set_eq_none_iff (h : table.Holds map) (ip : IpAddress) (mac : MacAddress) :
    arpTableSet table ip mac = none ↔
      map ip.octets = none ∧ table.entries.length = arpTableMaxEntries := by
  rw [arpTableSet_eq_none_iff, h.findIndex_eq_none_iff]
  exact and_congr_right fun _ => ⟨fun hfull => Nat.le_antisymm table.size_le hfull, fun hfull => hfull.ge⟩

theorem Holds.isMap {s : ArpHistory} (h : s.table.Holds s.last) : s.IsMap where
  once := h.nodup
  get := by
    intro ip
    rw [arpTableGetConst, findIndex_eq]
    exact h.get ip.octets
  set := h.set_eq_none_iff
  remove := fun ip => Option.map_eq_none_iff.trans (h.findIndex_eq_none_iff ip)

end ArpTable

theorem ArpHistory.ofCalls_isMap (calls : List (Call IpAddress MacAddress)) :
    (ArpHistory.ofCalls calls).IsMap :=
  ArpTable.Holds.isMap (History.run_holds ArpTable.Holds ArpTable.Holds.set ArpTable.Holds.remove
    (s := ArpHistory.initial) represents_nil calls)

/-! ## The MAC table -/

namespace SwitchMacTable

variable {table table' : SwitchMacTable} {map : Int × MacAddress → Option Int} {vlanId portNumber : Int}
  {mac : MacAddress}

/-- The table holds a map from VLANs and MAC addresses to ports. -/
def Holds (table : SwitchMacTable) (map : Int × MacAddress → Option Int) : Prop :=
  Represents (fun entry => (entry.vlanId, entry.mac)) SwitchMacEntry.portNumber table.entries map

theorem findIndex_eq (table : SwitchMacTable) (vlanId : Int) (mac : MacAddress) :
    switchMacTableFindIndex table vlanId mac =
      findIndex (fun entry => (entry.vlanId, entry.mac)) table.entries (vlanId, mac) := by
  rw [switchMacTableFindIndex, findIndex]
  refine congrArg (List.findIdx? · table.entries) (funext fun entry => ?_)
  rw [Bool.eq_iff_iff, Bool.and_eq_true, beq_iff_eq, macEqual_iff, decide_eq_true_iff, Prod.mk.injEq]

theorem Holds.set (h : table.Holds map)
    (hset : switchMacTableSet table vlanId mac portNumber = some table') :
    table'.Holds (Function.update map (vlanId, mac) (some portNumber)) := by
  rw [switchMacTableSet] at hset
  split at hset
  · cases hset
  · split at hset
    · rename_i index hindex
      cases hset
      exact Represents.modify h (findIndex_eq table vlanId mac ▸ hindex) (fun _ => rfl) fun _ => rfl
    · rename_i hindex
      split at hset
      · cases hset
        exact Represents.append h { vlanId := vlanId, mac := mac, portNumber := portNumber }
          (findIndex_eq table vlanId mac ▸ hindex)
      · cases hset

theorem Holds.remove (h : table.Holds map) (hremove : switchMacTableRemove table vlanId mac = some table') :
    table'.Holds (Function.update map (vlanId, mac) none) := by
  obtain ⟨index, hindex, rfl⟩ := Option.map_eq_some_iff.mp hremove
  exact Represents.eraseIdx h (findIndex_eq table vlanId mac ▸ hindex)

theorem Holds.findIndex_eq_none_iff (h : table.Holds map) (vlanId : Int) (mac : MacAddress) :
    switchMacTableFindIndex table vlanId mac = none ↔ map (vlanId, mac) = none := by
  rw [findIndex_eq]
  exact Represents.findIndex_eq_none_iff h

theorem Holds.set_eq_none_iff (h : table.Holds map) (vlanId : Int) (mac : MacAddress) (portNumber : Int) :
    switchMacTableSet table vlanId mac portNumber = none ↔
      (vlanId < 1 ∨ portNumber < 1) ∨
        map (vlanId, mac) = none ∧ table.entries.length = switchMacTableMaxEntries := by
  rw [← h.findIndex_eq_none_iff, switchMacTableSet]
  have hsize := table.size_le
  by_cases hsmall : vlanId < 1 ∨ portNumber < 1
  · simp [hsmall]
  · rw [if_neg hsmall]
    cases switchMacTableFindIndex table vlanId mac with
    | some index => simp [hsmall]
    | none =>
        simp only [hsmall, dite_eq_right_iff, reduceCtorEq, imp_false, true_and, false_or]
        omega

theorem Holds.isMap {s : SwitchHistory} (h : s.table.Holds s.last) : s.IsMap where
  once := h.nodup
  get := by
    intro vlanId mac
    rw [switchMacTableGet, findIndex_eq]
    exact h.get (vlanId, mac)
  set := h.set_eq_none_iff
  remove := fun vlanId mac => Option.map_eq_none_iff.trans (h.findIndex_eq_none_iff vlanId mac)

end SwitchMacTable

theorem SwitchHistory.ofCalls_isMap (calls : List (Call (Int × MacAddress) Int)) :
    (SwitchHistory.ofCalls calls).IsMap :=
  SwitchMacTable.Holds.isMap (History.run_holds SwitchMacTable.Holds SwitchMacTable.Holds.set
    SwitchMacTable.Holds.remove (s := SwitchHistory.initial) represents_nil calls)

/-! ## The VLANs of a router's entries -/

/-- A call of `router_learn_arp`. -/
structure LearnCall where
  message : ArpMessage
  vlanId : Int

/-- A router, with the VLAN that was last learned for each address. -/
structure LearnHistory (Ms : Type) where
  router : RouterState Ms
  vlan : List UInt8 → Option Int

section Learning

variable {Ms : Type}

/-- A router whose ARP table was just initialized. -/
def LearnHistory.initial (r : RouterState Ms) : LearnHistory Ms :=
  { router := { r with arpTable := arpTableInit }, vlan := fun _ => none }

/-- One call; `router_learn_arp` returns `1` when `arp_table_set` does. -/
def LearnHistory.step (s : LearnHistory Ms) (call : LearnCall) : LearnHistory Ms :=
  { router := routerLearnArp s.router call.message call.vlanId
    vlan :=
      match arpTableSet s.router.arpTable call.message.senderIp call.message.senderMac with
      | none => s.vlan
      | some _ => Function.update s.vlan call.message.senderIp.octets (some call.vlanId) }

def LearnHistory.run (s : LearnHistory Ms) (calls : List LearnCall) : LearnHistory Ms :=
  calls.foldl step s

/-- The VLAN kept for the entry of an address. -/
def entryVlan (r : RouterState Ms) (ip : IpAddress) : Option Int :=
  (routerArpIndexForIp r ip).map r.arpEntryVlans

theorem routerVlanForIp_eq (r : RouterState Ms) (ip : IpAddress) (fallbackVlan : Int) :
    routerVlanForIp r ip fallbackVlan =
      match entryVlan r ip with
      | some vlanId => if 0 < vlanId then vlanId else fallbackVlan
      | none => fallbackVlan := by
  rw [routerVlanForIp, entryVlan]
  cases routerArpIndexForIp r ip with
  | some index => rfl
  | none => rfl

/-- What is learned changes the VLAN of that address only. -/
theorem entryVlan_learn {r : RouterState Ms} {message : ArpMessage} {table : ArpTable}
    (hset : arpTableSet r.arpTable message.senderIp message.senderMac = some table) (vlanId : Int)
    (ip : IpAddress) :
    entryVlan (routerLearnArp r message vlanId) ip =
      if ip.octets = message.senderIp.octets then some vlanId else entryVlan r ip := by
  -- The sender has a place in the new table, and every other address the place it had.
  obtain ⟨index, hindex, hother⟩ : ∃ index, arpTableFindIndex table message.senderIp = some index ∧
      ∀ ip, ip.octets ≠ message.senderIp.octets →
        arpTableFindIndex table ip = arpTableFindIndex r.arpTable ip := by
    rw [arpTableSet] at hset
    split at hset
    · rename_i index hindex
      cases hset
      simp only [ArpTable.findIndex_eq] at hindex ⊢
      have hkept : ∀ k, findIndex (fun entry : ArpTableEntry => entry.ip.octets)
          (r.arpTable.entries.modify index fun entry => { entry with mac := message.senderMac }) k =
            findIndex (fun entry => entry.ip.octets) r.arpTable.entries k := by
        refine findIndex_modify ?_ r.arpTable.entries index
        exact fun _ => rfl
      exact ⟨index, (hkept _).trans hindex, fun ip _ => hkept _⟩
    · rename_i hindex
      split at hset
      · cases hset
        simp only [ArpTable.findIndex_eq] at hindex ⊢
        refine ⟨r.arpTable.entries.length, ?_, fun ip hip => ?_⟩
        · rw [findIndex_append hindex, if_pos rfl]
        · rw [findIndex_append hindex, if_neg hip]
      · cases hset
  have hlearned : routerLearnArp r message vlanId =
      { r with arpTable := table, arpEntryVlans := Function.update r.arpEntryVlans index vlanId } := by
    rw [routerLearnArp, hset]
    simp only [routerArpIndexForIp, hindex]
  rw [hlearned]
  change (arpTableFindIndex table ip).map (Function.update r.arpEntryVlans index vlanId) = _
  by_cases hip : ip.octets = message.senderIp.octets
  · have hsame : arpTableFindIndex table ip = some index := by
      rw [← hindex, ArpTable.findIndex_eq, ArpTable.findIndex_eq, hip]
    rw [if_pos hip, hsame, Option.map_some, Function.update_self]
  · rw [if_neg hip, entryVlan, routerArpIndexForIp, ← hother ip hip]
    refine Option.map_congr fun place hplace => ?_
    -- Two addresses do not share a place.
    have hne : place ≠ index := by
      rintro rfl
      rw [ArpTable.findIndex_eq] at hplace hindex
      exact hip (findIndex_inj hplace hindex)
    rw [Function.update_of_ne hne]

/-- Along the calls every address keeps the VLAN that was last learned for it. -/
theorem LearnHistory.run_aligned {s : LearnHistory Ms}
    (h : ∀ ip, entryVlan s.router ip = s.vlan ip.octets) (calls : List LearnCall) (ip : IpAddress) :
    entryVlan (s.run calls).router ip = (s.run calls).vlan ip.octets := by
  induction calls generalizing s with
  | nil => exact h ip
  | cons call calls ih =>
      refine ih (s := s.step call) fun other => ?_
      cases hset : arpTableSet s.router.arpTable call.message.senderIp call.message.senderMac with
      | none =>
          simp only [LearnHistory.step, hset, routerLearnArp_full hset]
          exact h other
      | some table =>
          simp only [LearnHistory.step, hset]
          rw [entryVlan_learn hset, Function.update_apply, h other]

end Learning

/-- After any calls the two tables are maps, and `router_vlan_for_ip` returns the VLAN that was last learned
for the address when it is positive. -/
theorem lookupTables_areMaps {Ms : Type} :
    (∀ calls : List (Call IpAddress MacAddress), (ArpHistory.ofCalls calls).IsMap) ∧
    (∀ calls : List (Call (Int × MacAddress) Int), (SwitchHistory.ofCalls calls).IsMap) ∧
    ∀ (r : RouterState Ms) (calls : List LearnCall) (ip : IpAddress) (fallbackVlan : Int),
      let s := (LearnHistory.initial r).run calls
      routerVlanForIp s.router ip fallbackVlan =
        match s.vlan ip.octets with
        | some vlanId => if 0 < vlanId then vlanId else fallbackVlan
        | none => fallbackVlan := by
  refine ⟨ArpHistory.ofCalls_isMap, SwitchHistory.ofCalls_isMap, fun r calls ip fallbackVlan => ?_⟩
  have haligned : entryVlan ((LearnHistory.initial r).run calls).router ip =
      ((LearnHistory.initial r).run calls).vlan ip.octets :=
    LearnHistory.run_aligned (s := LearnHistory.initial r) (fun _ => rfl) calls ip
  intro s
  rw [routerVlanForIp_eq, haligned]

/-- An empty MAC table refuses VLAN 0. -/
theorem lookupTables_areMaps_refused :
    ¬ ∀ (calls : List (Call (Int × MacAddress) Int)) (vlanId : Int) (mac : MacAddress) (portNumber : Int),
      switchMacTableSet (SwitchHistory.ofCalls calls).table vlanId mac portNumber = none →
        (SwitchHistory.ofCalls calls).last (vlanId, mac) = none ∧
          (SwitchHistory.ofCalls calls).table.entries.length = switchMacTableMaxEntries := by
  intro h
  exact absurd (h [] 0 MacAddress.broadcast 1 rfl).2 (by decide)

end MagiStack
