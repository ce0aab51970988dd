import MagiStack.Layer7.DnsServer

/-!
# DnsTableMap — the name table as a finite map

A series of `dns_server_add_entry` calls against the map from each name to the address of its last successful
add.  Names are stored and looked up by their first 255 bytes but compared whole before they are stored, and a
full table refuses a name before it looks whether it has it.  The table is the map exactly in runs that do
neither: they store no name of 255 bytes or more, and update no name in a full table.
-/

namespace MagiStack

/-- A host name as a C string without `/`. -/
structure DnsHostname where
  bytes : Text
  clean : ∀ c ∈ bytes, c ≠ dnsSlash ∧ c ≠ 0

/-! ## Runs -/

/-- A table, with the address of the last successful add of each name. -/
structure DnsMap where
  table : DnsTable
  last : Text → Option IpAddress

/-- A call of `dns_server_add_entry`. -/
structure DnsAdd where
  name : DnsHostname
  ip : IpAddress

namespace DnsMap

def initial : DnsMap :=
  { table := DnsTable.empty, last := fun _ => none }

def step (s : DnsMap) (add : DnsAdd) : DnsMap :=
  match dnsServerAddEntry s.table add.name.bytes add.ip with
  | none => s
  | some table => { table := table, last := Function.update s.last add.name.bytes (some add.ip) }

def run (s : DnsMap) (adds : List DnsAdd) : DnsMap :=
  adds.foldl step s

/-! ## The property and the condition -/

/-- Every name resolves to what it was last added with. -/
def Resolves (s : DnsMap) : Prop :=
  ∀ h : DnsHostname, dnsServerResolve s.table h.bytes = s.last h.bytes

/-- An add fails only for a new name in a full table. -/
def FailsRightly (s : DnsMap) (add : DnsAdd) : Prop :=
  dnsServerAddEntry s.table add.name.bytes add.ip = none →
    s.last add.name.bytes = none ∧ s.table.entries.length = dnsMaxEntries

/-- Along the run the table is a finite map with replacement. -/
def IsMap (s : DnsMap) : List DnsAdd → Prop
  | [] => s.Resolves
  | add :: rest => s.Resolves ∧ s.FailsRightly add ∧ (s.step add).IsMap rest

/-- The condition on a call: with room the name is shorter than 255 bytes, without room it is not stored. -/
def StepOk (s : DnsMap) (add : DnsAdd) : Prop :=
  if s.table.entries.length < dnsMaxEntries then add.name.bytes.length < dnsMaxName - 1
  else ∀ entry ∈ s.table.entries, entry.hostname ≠ add.name.bytes

/-- Every call of the run meets the condition. -/
def RunOk (s : DnsMap) : List DnsAdd → Prop
  | [] => True
  | add :: rest => s.StepOk add ∧ (s.step add).RunOk rest

/-! ## Looking up -/

/-- The address stored with a name. -/
def stored (entries : List DnsEntry) (name : Text) : Option IpAddress :=
  (entries.find? fun entry => entry.hostname == name).map DnsEntry.ip

theorem stored_eq_none_iff {entries : List DnsEntry} {name : Text} :
    stored entries name = none ↔ ∀ entry ∈ entries, entry.hostname ≠ name := by
  simp [stored, List.find?_eq_none]

theorem stored_concat {entries : List DnsEntry} {entry : DnsEntry} {name : Text}
    (hnew : stored entries entry.hostname = none) :
    stored (entries ++ [entry]) name =
      if name = entry.hostname then some entry.ip else stored entries name := by
  have hmiss : entries.find? (fun other => other.hostname == entry.hostname) = none := by
    simpa [stored] using hnew
  by_cases hname : name = entry.hostname
  · simp [stored, hname, hmiss]
  · have hne : ¬ entry.hostname = name := fun heq => hname heq.symm
    simp [stored, hname, hne]

/-- A name without `/` is looked up by its first 255 bytes. -/
theorem dnsServerResolve_hostname (table : DnsTable) (h : DnsHostname) :
    dnsServerResolve table h.bytes = stored table.entries (h.bytes.take (dnsMaxName - 1)) := by
  have hscheme : h.bytes.take 7 ≠ text "http://" := by
    intro hhttp
    have hslash : dnsSlash ∈ h.bytes.take 7 := by
      rw [hhttp]
      decide
    exact (h.clean dnsSlash (List.mem_of_mem_take hslash)).1 rfl
  have hclean : (h.bytes.take (dnsMaxName - 1)).takeWhile (· ≠ dnsSlash) =
      h.bytes.take (dnsMaxName - 1) :=
    List.takeWhile_eq_self_iff.mpr fun c hc =>
      decide_eq_true (h.clean c (List.mem_of_mem_take hc)).1
  rw [dnsServerResolve, if_neg hscheme, strncpyTerminated, hclean]
  rfl

/-- What `dns_server_add_entry` does. -/
theorem dnsServerAddEntry_cases (table : DnsTable) (name : Text) (ip : IpAddress) :
    (table.entries.length = dnsMaxEntries ∧ dnsServerAddEntry table name ip = none) ∨
      table.entries.length < dnsMaxEntries ∧
        ((stored table.entries name ≠ none ∧ ∃ table', dnsServerAddEntry table name ip = some table' ∧
            table'.entries.map DnsEntry.hostname = table.entries.map DnsEntry.hostname ∧
            ∀ other, stored table'.entries other =
              if other = name then some ip else stored table.entries other) ∨
          stored table.entries name = none ∧ ∃ table', dnsServerAddEntry table name ip = some table' ∧
            table'.entries = table.entries ++
              [{ hostname := name.take (dnsMaxName - 1), ip := ip }]) := by
  by_cases hfull : dnsMaxEntries ≤ table.entries.length
  · refine Or.inl ⟨Nat.le_antisymm table.bounded hfull, ?_⟩
    rw [dnsServerAddEntry, dif_pos hfull]
  · refine Or.inr ⟨not_le.mp hfull, ?_⟩
    rw [dnsServerAddEntry, dif_neg hfull]
    split
    · rename_i i hfirst
      -- The name has an entry, whose address is overwritten.
      refine Or.inl ⟨?_, _, rfl, ?_, fun other => dnsEntries_modify hfirst other⟩
      · rw [Ne, stored_eq_none_iff]
        intro hnone
        have hmiss : table.entries.findIdx? (fun entry => entry.hostname == name) = none := by
          simpa [List.findIdx?_eq_none_iff] using hnone
        cases hfirst.symm.trans hmiss
      · refine List.ext_getElem (by simp) fun k _ _ => ?_
        simp only [List.getElem_map, List.getElem_modify]
        split
        all_goals rfl
    · rename_i hnone
      refine Or.inr ⟨?_, _, rfl, rfl⟩
      rw [stored_eq_none_iff]
      simpa [List.findIdx?_eq_none_iff] using hnone

/-! ## The invariant -/

/-- What holds in every state of a run that meets the condition. -/
structure Stores (s : DnsMap) : Prop where
  short : ∀ entry ∈ s.table.entries, entry.hostname.length < dnsMaxName - 1
  last : ∀ name, s.last name = stored s.table.entries name

theorem stores_initial : initial.Stores where
  short := fun _ h => absurd h List.not_mem_nil
  last := fun _ => rfl

/-- A long name is not stored. -/
theorem Stores.stored_long {s : DnsMap} (h : s.Stores) {name : Text}
    (hlong : dnsMaxName - 1 ≤ name.length) : stored s.table.entries name = none := by
  refine stored_eq_none_iff.mpr fun entry hentry hname => ?_
  have hshort := h.short entry hentry
  rw [hname] at hshort
  exact absurd hlong (not_le.mpr hshort)

theorem Stores.resolves {s : DnsMap} (h : s.Stores) : s.Resolves := by
  intro name
  rw [dnsServerResolve_hostname, h.last]
  by_cases hlong : dnsMaxName - 1 ≤ name.bytes.length
  · rw [h.stored_long hlong, h.stored_long]
    rw [List.length_take]
    exact le_min (le_refl _) hlong
  · rw [List.take_of_length_le (not_le.mp hlong).le]

theorem Stores.failsRightly {s : DnsMap} (h : s.Stores) {add : DnsAdd} (hok : s.StepOk add) :
    s.FailsRightly add := by
  intro hnone
  obtain ⟨hfull, -⟩ | ⟨-, ⟨-, _, hsome, -⟩ | ⟨-, _, hsome, -⟩⟩ :=
    dnsServerAddEntry_cases s.table add.name.bytes add.ip
  · rw [StepOk, if_neg (by omega)] at hok
    exact ⟨(h.last _).trans (stored_eq_none_iff.mpr hok), hfull⟩
  · cases hnone.symm.trans hsome
  · cases hnone.symm.trans hsome

theorem Stores.step {s : DnsMap} (h : s.Stores) {add : DnsAdd} (hok : s.StepOk add) :
    (s.step add).Stores := by
  rw [DnsMap.step]
  obtain ⟨-, hnone⟩ | ⟨hroom, hcases⟩ := dnsServerAddEntry_cases s.table add.name.bytes add.ip
  · rw [hnone]
    exact h
  · rw [StepOk, if_pos hroom] at hok
    obtain ⟨-, table, hsome, hnames, hstored⟩ | ⟨hnew, table, hsome, hentries⟩ := hcases
    · rw [hsome]
      refine ⟨fun entry hentry => ?_, fun name => ?_⟩
      · -- The names are the same as before.
        have hname : entry.hostname ∈ s.table.entries.map DnsEntry.hostname :=
          hnames ▸ List.mem_map_of_mem hentry
        obtain ⟨old, hold, heq⟩ := List.mem_map.mp hname
        rw [← heq]
        exact h.short old hold
      · change Function.update s.last add.name.bytes (some add.ip) name = stored table.entries name
        rw [hstored name, ← h.last name, Function.update_apply]
    · have hwhole : add.name.bytes.take (dnsMaxName - 1) = add.name.bytes :=
        List.take_of_length_le hok.le
      rw [hwhole] at hentries
      rw [hsome]
      refine ⟨fun entry hentry => ?_, fun name => ?_⟩
      · change entry ∈ table.entries at hentry
        rw [hentries, List.mem_append, List.mem_singleton] at hentry
        obtain hold | rfl := hentry
        · exact h.short entry hold
        · exact hok
      · change Function.update s.last add.name.bytes (some add.ip) name = stored table.entries name
        rw [hentries, stored_concat hnew, Function.update_apply, h.last name]

/-! ## The two defects -/

/-- After the name is stored there is another name, never added, that resolves to its address. -/
theorem Stores.not_resolves {s : DnsMap} (h : s.Stores) {add : DnsAdd}
    (hroom : s.table.entries.length < dnsMaxEntries)
    (hlong : dnsMaxName - 1 ≤ add.name.bytes.length) : ¬ (s.step add).Resolves := by
  intro hresolves
  -- A name of 255 bytes is found under every longer one, and a longer one under its first 255 bytes.
  obtain ⟨other, htake, hne, hother⟩ : ∃ other : DnsHostname,
      other.bytes.take (dnsMaxName - 1) = add.name.bytes.take (dnsMaxName - 1) ∧
        other.bytes ≠ add.name.bytes ∧ dnsMaxName - 1 ≤ other.bytes.length := by
    obtain hexact | hmore := hlong.eq_or_lt
    · refine ⟨⟨add.name.bytes ++ [97], fun c hc => ?_⟩, ?_, by simp, by simp; omega⟩
      · obtain hold | hlast := List.mem_append.mp hc
        · exact add.name.clean c hold
        · rw [List.mem_singleton.mp hlast]
          decide
      · exact List.take_append_of_le_length hexact.le
    · refine ⟨⟨add.name.bytes.take (dnsMaxName - 1), fun c hc =>
        add.name.clean c (List.mem_of_mem_take hc)⟩, by simp, fun heq => ?_, by simp; omega⟩
      have hlength := congrArg List.length heq
      simp only [List.length_take] at hlength
      omega
  have hmiss : ∀ name : Text, dnsMaxName - 1 ≤ name.length → stored s.table.entries name = none :=
    fun name => h.stored_long
  have hkey : dnsMaxName - 1 ≤ (add.name.bytes.take (dnsMaxName - 1)).length := by
    rw [List.length_take]
    exact le_min (le_refl _) hlong
  have hfound := hresolves other
  rw [dnsServerResolve_hostname, htake, DnsMap.step] at hfound
  obtain ⟨hfull, -⟩ | ⟨-, ⟨hpresent, -⟩ | ⟨-, table, hsome, hentries⟩⟩ :=
    dnsServerAddEntry_cases s.table add.name.bytes add.ip
  · omega
  · exact hpresent (hmiss _ hlong)
  · rw [hsome] at hfound
    simp only [hentries, Function.update_of_ne hne, h.last, hmiss _ hother] at hfound
    have hentry := @stored_concat s.table.entries
      { hostname := add.name.bytes.take (dnsMaxName - 1), ip := add.ip }
      (add.name.bytes.take (dnsMaxName - 1)) (hmiss _ hkey)
    rw [if_pos rfl] at hentry
    cases hentry.symm.trans hfound

theorem Stores.stepOk {s : DnsMap} (h : s.Stores) {add : DnsAdd} (hfails : s.FailsRightly add)
    (hresolves : (s.step add).Resolves) : s.StepOk add := by
  rw [StepOk]
  split
  · rename_i hroom
    by_contra hlong
    exact h.not_resolves hroom (not_lt.mp hlong) hresolves
  · rename_i hfull
    have hnone : dnsServerAddEntry s.table add.name.bytes add.ip = none := by
      rw [dnsServerAddEntry, dif_pos (not_lt.mp hfull)]
    exact stored_eq_none_iff.mp ((h.last _).symm.trans (hfails hnone).1)

/-! ## The run -/

theorem IsMap.resolves {s : DnsMap} {adds : List DnsAdd} (h : s.IsMap adds) : s.Resolves := by
  cases adds with
  | nil => exact h
  | cons add rest => exact h.1

theorem IsMap.of_append {s : DnsMap} {before after : List DnsAdd} {add : DnsAdd}
    (h : s.IsMap (before ++ add :: after)) : (s.run before).FailsRightly add := by
  induction before generalizing s with
  | nil => exact h.2.1
  | cons first rest ih => exact ih h.2.2

theorem Stores.isMap_iff {s : DnsMap} (h : s.Stores) (adds : List DnsAdd) :
    s.IsMap adds ↔ s.RunOk adds := by
  induction adds generalizing s with
  | nil => exact ⟨fun _ => trivial, fun _ => h.resolves⟩
  | cons add rest ih =>
      constructor
      · rintro ⟨-, hfails, hrest⟩
        have hok := h.stepOk hfails hrest.resolves
        exact ⟨hok, (ih (h.step hok)).mp hrest⟩
      · rintro ⟨hok, hrest⟩
        exact ⟨h.resolves, h.failsRightly hok, (ih (h.step hok)).mpr hrest⟩

end DnsMap

/-- A table is a finite map with replacement along a series of adds exactly when each add meets the
condition. -/
theorem dnsTable_isMap_iff (adds : List DnsAdd) :
    DnsMap.initial.IsMap adds ↔ DnsMap.initial.RunOk adds :=
  DnsMap.stores_initial.isMap_iff adds

/-- The name of so many letters. -/
def dnsLetters (count : Nat) : DnsHostname :=
  { bytes := List.replicate count 97
    clean := fun c hc => by
      rw [List.eq_of_mem_replicate hc]
      decide }

/-- 32 names. -/
def dnsFillTable : List DnsAdd :=
  (List.range 32).map fun k => { name := dnsLetters (k + 1), ip := ⟨10, 0, 0, UInt8.ofNat k, 0⟩ }

/-- Once a name of 255 letters or more is stored the table is no map. -/
theorem dnsLetters_not_isMap {count : Nat} (hlong : dnsMaxName - 1 ≤ count) (ip : IpAddress) :
    ¬ DnsMap.initial.IsMap [{ name := dnsLetters count, ip := ip }] := by
  rintro ⟨-, -, hresolves⟩
  refine DnsMap.stores_initial.not_resolves (by decide) ?_ hresolves
  exact hlong.trans_eq (List.length_replicate ..).symm

/-- A full table refuses a new address for a name it has; and a name of 255 letters is found under the same
name with one more. -/
theorem dnsTable_isMap_iff_updated :
    ¬ DnsMap.initial.IsMap (dnsFillTable ++ [{ name := dnsLetters 1, ip := ⟨10, 0, 0, 99, 0⟩ }]) ∧
      ¬ DnsMap.initial.IsMap [{ name := dnsLetters 255, ip := ⟨10, 0, 0, 1, 0⟩ }] := by
  refine ⟨fun h => ?_, fun h => ?_⟩
  · have hrefused : (dnsServerAddEntry (DnsMap.initial.run dnsFillTable).table (dnsLetters 1).bytes
        ⟨10, 0, 0, 99, 0⟩).isNone = true := by
      decide +kernel
    have hknown : (DnsMap.initial.run dnsFillTable).last (dnsLetters 1).bytes ≠ none := by
      decide +kernel
    have hfails : (DnsMap.initial.run dnsFillTable).FailsRightly
        { name := dnsLetters 1, ip := ⟨10, 0, 0, 99, 0⟩ } := DnsMap.IsMap.of_append h
    generalize DnsMap.initial.run dnsFillTable = full at hrefused hknown hfails
    exact hknown (hfails (Option.isNone_iff_eq_none.mp hrefused)).1
  · exact dnsLetters_not_isMap (by decide) _ h

end MagiStack
