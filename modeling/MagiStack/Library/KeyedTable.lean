import Mathlib.Data.List.Basic
import Mathlib.Data.List.Nodup
import Mathlib.Logic.Function.Basic

/-!
# KeyedTable — a list of entries as a finite map

Entries that are found by their key: the first one with the key is updated in place or taken out, and a new
one goes to the end.  As long as no key is there twice, such a table is a map that is updated at one key by
each of these.
-/

namespace KeyedTable

variable {ε κ ν : Type*} [DecidableEq κ] {key : ε → κ} {value : ε → ν}

/-- The place of the first entry with a key. -/
def findIndex (key : ε → κ) (entries : List ε) (k : κ) : Option Nat :=
  entries.findIdx? fun entry => decide (key entry = k)

/-- The first entry with a key. -/
def find (key : ε → κ) (entries : List ε) (k : κ) : Option ε :=
  entries.find? fun entry => decide (key entry = k)

/-- No key is there twice, and the entries hold the values of the map. -/
structure Represents (key : ε → κ) (value : ε → ν) (entries : List ε) (map : κ → Option ν) : Prop where
  nodup : (entries.map key).Nodup
  find : ∀ k, (find key entries k).map value = map k

/-! ## Finding -/

section Find

variable {entries : List ε} {k : κ} {i : Nat}

/-- An entry with the key stands at its place, and none before it. -/
theorem findIndex_eq_some (h : findIndex key entries k = some i) :
    ∃ before entry after, entries = before ++ entry :: after ∧ before.length = i ∧ key entry = k ∧
      k ∉ before.map key := by
  obtain ⟨hlt, hfound, hbefore⟩ := List.findIdx?_eq_some_iff_getElem.mp h
  refine ⟨entries.take i, entries[i], entries.drop (i + 1), ?_, ?_, of_decide_eq_true hfound, ?_⟩
  · rw [← List.drop_eq_getElem_cons hlt, List.take_append_drop]
  · exact List.length_take_of_le (Nat.le_of_lt hlt)
  · rintro hmem
    obtain ⟨entry, hentry, hkey⟩ := List.mem_map.mp hmem
    obtain ⟨j, hj, rfl⟩ := List.mem_take_iff_getElem.mp hentry
    exact hbefore j (Nat.lt_of_lt_of_le hj (Nat.min_le_left _ _)) (decide_eq_true hkey)

/-- The entry at the place of a key is the first one with it. -/
theorem getElem?_findIndex (entries : List ε) (k : κ) :
    (findIndex key entries k).bind (entries[·]?) = find key entries k := by
  induction entries with
  | nil => rfl
  | cons entry rest ih =>
      rw [findIndex, List.findIdx?_cons, find, List.find?_cons]
      by_cases hkey : key entry = k
      · simp [hkey]
      · simp only [hkey, decide_false, Bool.false_eq_true, if_false]
        rw [← find, ← ih, findIndex, Option.bind_map]
        rfl

theorem find_eq_none_iff : find key entries k = none ↔ k ∉ entries.map key := by
  rw [find, List.find?_eq_none]
  simp

theorem findIndex_eq_none_iff : findIndex key entries k = none ↔ k ∉ entries.map key := by
  rw [findIndex, List.findIdx?_eq_none_iff]
  simp

theorem find_append (before after : List ε) (k : κ) :
    find key (before ++ after) k = (find key before k).or (find key after k) :=
  List.find?_append

theorem find_cons (entry : ε) (rest : List ε) (k : κ) :
    find key (entry :: rest) k = if key entry = k then some entry else find key rest k := by
  rw [find, List.find?_cons]
  by_cases hkey : key entry = k
  · simp [hkey]
  · simp [hkey, find]

end Find

/-! ## Places -/

section Places

variable {entries : List ε} {k : κ} {i : Nat}

/-- An update in place that keeps the keys leaves every key where it is. -/
theorem findIndex_modify {f : ε → ε} (hf : ∀ entry, key (f entry) = key entry) (entries : List ε) (i : Nat)
    (k : κ) : findIndex key (entries.modify i f) k = findIndex key entries k := by
  induction entries generalizing i with
  | nil => rw [List.modify_nil]
  | cons entry rest ih =>
      cases i with
      | zero => rw [List.modify_zero_cons, findIndex, findIndex, List.findIdx?_cons, List.findIdx?_cons, hf]
      | succ i =>
          rw [List.modify_succ_cons, findIndex, findIndex, List.findIdx?_cons, List.findIdx?_cons,
            ← findIndex, ← findIndex, ih]

/-- An entry with a new key stands behind the others. -/
theorem findIndex_append {entry : ε} (hnew : findIndex key entries (key entry) = none) (other : κ) :
    findIndex key (entries ++ [entry]) other =
      if other = key entry then some entries.length else findIndex key entries other := by
  rw [findIndex, List.findIdx?_append, ← findIndex]
  by_cases hother : other = key entry
  · subst hother
    rw [hnew, if_pos rfl]
    simp
  · have hne : ¬ key entry = other := fun heq => hother heq.symm
    rw [if_neg hother]
    simp [hne]

/-- Two keys do not share a place. -/
theorem findIndex_inj {k' : κ} (h : findIndex key entries k = some i)
    (h' : findIndex key entries k' = some i) : k = k' := by
  obtain ⟨hlt, hkey, -⟩ := List.findIdx?_eq_some_iff_getElem.mp h
  obtain ⟨_, hkeyOther, -⟩ := List.findIdx?_eq_some_iff_getElem.mp h'
  exact (of_decide_eq_true hkey).symm.trans (of_decide_eq_true hkeyOther)

end Places

/-! ## One operation -/

section Operations

variable {entries : List ε} {map : κ → Option ν} {k : κ} {i : Nat}

theorem represents_nil : Represents key value [] fun _ => none where
  nodup := List.nodup_nil
  find := fun _ => rfl

/-- Looking up by the place reads the map. -/
theorem Represents.get (h : Represents key value entries map) (k : κ) :
    ((findIndex key entries k).bind fun index => entries[index]?.map value) = map k := by
  rw [← h.find k, ← getElem?_findIndex, Option.map_bind]
  rfl

/-- A key without a place has no value. -/
theorem Represents.findIndex_eq_none_iff (h : Represents key value entries map) :
    findIndex key entries k = none ↔ map k = none := by
  rw [← h.find k, Option.map_eq_none_iff, find_eq_none_iff, KeyedTable.findIndex_eq_none_iff]

/-- Another entry at the place of a key, with the same key. -/
theorem Represents.modify (h : Represents key value entries map)
    (hindex : findIndex key entries k = some i) {f : ε → ε} {v : ν}
    (hkey : ∀ entry, key (f entry) = key entry) (hvalue : ∀ entry, value (f entry) = v) :
    Represents key value (entries.modify i f) (Function.update map k (some v)) := by
  obtain ⟨before, entry, after, rfl, rfl, hentry, hbefore⟩ := findIndex_eq_some hindex
  have hmodified : (before ++ entry :: after).modify before.length f = before ++ f entry :: after := by
    rw [List.modify_eq_take_cons_drop (by simp)]
    simp
  rw [hmodified]
  refine ⟨?_, fun other => ?_⟩
  · have hnodup := h.nodup
    rw [List.map_append, List.map_cons] at hnodup ⊢
    rw [hkey]
    exact hnodup
  · have hfind := h.find other
    rw [find_append, find_cons] at hfind ⊢
    by_cases hother : other = k
    · subst hother
      rw [find_eq_none_iff.mpr hbefore, Option.none_or, if_pos ((hkey entry).trans hentry),
        Function.update_self, Option.map_some, hvalue]
    · have hne : ¬ key entry = other := fun heq => hother (heq.symm.trans hentry)
      rw [if_neg hne] at hfind
      rw [if_neg (hkey entry ▸ hne), Function.update_of_ne hother, hfind]

/-- A new entry behind the others. -/
theorem Represents.append (h : Represents key value entries map) (entry : ε)
    (hnew : findIndex key entries (key entry) = none) :
    Represents key value (entries ++ [entry])
      (Function.update map (key entry) (some (value entry))) := by
  rw [KeyedTable.findIndex_eq_none_iff] at hnew
  refine ⟨?_, fun other => ?_⟩
  · rw [List.map_append, List.map_singleton]
    exact List.nodup_append.mpr ⟨h.nodup, List.nodup_singleton _, fun a ha b hb hab =>
      hnew (List.mem_singleton.mp hb ▸ hab ▸ ha)⟩
  · rw [find_append, find_cons]
    by_cases hother : other = key entry
    · subst hother
      rw [find_eq_none_iff.mpr hnew, if_pos rfl, Function.update_self]
      rfl
    · have hne : ¬ key entry = other := fun heq => hother heq.symm
      rw [if_neg hne, Function.update_of_ne hother, ← h.find other]
      exact congrArg (Option.map value) (Option.or_none)

/-- The entry of a key taken out. -/
theorem Represents.eraseIdx (h : Represents key value entries map)
    (hindex : findIndex key entries k = some i) :
    Represents key value (entries.eraseIdx i) (Function.update map k none) := by
  obtain ⟨before, entry, after, rfl, rfl, hentry, hbefore⟩ := findIndex_eq_some hindex
  have herased : (before ++ entry :: after).eraseIdx before.length = before ++ after := by
    rw [List.eraseIdx_append_of_length_le (Nat.le_refl _), Nat.sub_self, List.eraseIdx_cons_zero]
  have hnodup := h.nodup
  rw [List.map_append, List.map_cons, hentry] at hnodup
  rw [herased]
  refine ⟨?_, fun other => ?_⟩
  · rw [List.map_append]
    exact hnodup.sublist ((List.sublist_cons_self _ _).append_left _)
  · have hfind := h.find other
    rw [find_append, find_cons] at hfind
    rw [find_append]
    by_cases hother : other = k
    · subst hother
      have hafter : other ∉ after.map key := (List.nodup_cons.mp (List.nodup_append.mp hnodup).2.1).1
      rw [find_eq_none_iff.mpr hbefore, find_eq_none_iff.mpr hafter, Function.update_self]
      rfl
    · have hne : ¬ key entry = other := fun heq => hother (heq.symm.trans hentry)
      rw [if_neg hne] at hfind
      rw [Function.update_of_ne hother, hfind]

end Operations

/-! ## Histories -/

/-- The two updates of a table; `none` when one is refused. -/
structure Store (τ α ν : Type*) where
  set : τ → α → ν → Option τ
  remove : τ → α → Option τ

inductive Call (α ν : Type*)
  | set (a : α) (v : ν)
  | remove (a : α)

/-- A table, with the value last set for each key and not removed since. -/
structure History (τ κ ν : Type*) where
  table : τ
  last : κ → Option ν

namespace History

variable {τ α : Type*}

/-- One call; one that is refused changes nothing. -/
def step (store : Store τ α ν) (keyOf : α → κ) (s : History τ κ ν) : Call α ν → History τ κ ν
  | .set a v =>
      match store.set s.table a v with
      | none => s
      | some table => { table := table, last := Function.update s.last (keyOf a) (some v) }
  | .remove a =>
      match store.remove s.table a with
      | none => s
      | some table => { table := table, last := Function.update s.last (keyOf a) none }

def run (store : Store τ α ν) (keyOf : α → κ) (s : History τ κ ν) (calls : List (Call α ν)) : History τ κ ν :=
  calls.foldl (step store keyOf) s

variable {store : Store τ α ν} {keyOf : α → κ}

/-- If each update that is not refused is one of the map, the table holds the map in every history. -/
theorem run_holds (Holds : τ → (κ → Option ν) → Prop)
    (hset : ∀ {table map a v table'}, Holds table map → store.set table a v = some table' →
      Holds table' (Function.update map (keyOf a) (some v)))
    (hremove : ∀ {table map a table'}, Holds table map → store.remove table a = some table' →
      Holds table' (Function.update map (keyOf a) none))
    {s : History τ κ ν} (h : Holds s.table s.last) (calls : List (Call α ν)) :
    Holds (s.run store keyOf calls).table (s.run store keyOf calls).last := by
  induction calls generalizing s with
  | nil => exact h
  | cons call calls ih =>
      refine ih (s := s.step store keyOf call) ?_
      cases call with
      | set a v =>
          cases hcall : store.set s.table a v with
          | none =>
              simp only [step, hcall]
              exact h
          | some table =>
              simp only [step, hcall]
              exact hset h hcall
      | remove a =>
          cases hcall : store.remove s.table a with
          | none =>
              simp only [step, hcall]
              exact h
          | some table =>
              simp only [step, hcall]
              exact hremove h hcall

end History

end KeyedTable
