import MagiStack.Utils.Json
import Mathlib.Data.List.Forall2

/-!
# JsonRoundTrip — what `json_write` writes is read back

Text that `json_parse_value` reads completely is read in the same way inside objects and arrays, which end
it with a newline or a comma.
-/

namespace MagiStack

variable {A : CFloat}

/-! ## What is written is read back -/

/-- Inside `depth` objects and arrays the text of `v` is read as `w`, and it has no zero byte. -/
structure ReadsBack (A : CFloat) (depth : Nat) (v w : JsonValue A.Double) : Prop where
  parse : ∀ indent fuel rest, JsonEnds rest → 2 * (jsonWrite A v indent ++ rest).length < fuel →
    jsonParseValue A fuel depth (jsonWrite A v indent ++ rest) = some (w, rest)
  clean : ∀ indent, 0 ∉ jsonWrite A v indent

variable {depth : Nat}

theorem readsBack_string {s : Text} (hlength : s.length < jsonMaxString) (hclean : 0 ∉ s) :
    ReadsBack A depth (.string s) (.string s) := by
  refine ⟨fun indent fuel rest _ hfuel => ?_, fun indent => ?_⟩
  · rcases fuel with _ | fuel
    · exact absurd hfuel (Nat.not_lt_zero _)
    · have hraw := jsonParseStringRaw_write hlength rest
      rw [jsonWrite]
      rw [jsonWriteString, List.cons_append, List.cons_append] at hraw ⊢
      rw [jsonParseValue, List.dropWhile_cons, if_neg (by decide)]
      simp only [hraw]
      rfl
  · rw [jsonWrite]
    exact zero_notMem_writeString hclean

/-- The first character of a number starts nothing else. -/
theorem numberStart {c : UInt8} (h : c = 45 ∨ isDigit c = true) :
    isSpace c = false ∧ c ≠ 123 ∧ c ≠ 91 ∧ c ≠ 34 := by
  rcases h with rfl | h
  · decide
  · refine ⟨?_, ?_, ?_, ?_⟩
    · exact isSpace_of_isDigit h
    · rintro rfl
      exact absurd h (by decide)
    · rintro rfl
      exact absurd h (by decide)
    · rintro rfl
      exact absurd h (by decide)

theorem readsBack_number {n m : A.Double}
    (h : jsonParseNumber A (jsonWriteNumber A n) = some (m, [])) :
    ReadsBack A depth (.number n) (.number m) := by
  rcases jsonParseNumber_chars h with ⟨⟨c, hc, hstart⟩, hall⟩
  refine ⟨fun indent fuel rest hrest hfuel => ?_, fun indent => ?_⟩
  · rcases fuel with _ | fuel
    · exact absurd hfuel (Nat.not_lt_zero _)
    -- What is written is not empty, since it is read as a number.
    · have hne : jsonWriteNumber A n ≠ [] := by
        intro hempty
        rw [hempty] at hc
        cases hc
      have hread := @jsonParseNumber_append A _ _ hne hrest
      rw [h, Option.map_some, List.nil_append] at hread
      rw [jsonWrite]
      generalize jsonWriteNumber A n = t at hc hread ⊢
      cases t with
      | nil => cases hc
      | cons d t =>
          cases hc
          rcases numberStart hstart with ⟨hspace, hobject, harray, hstring⟩
          rw [List.cons_append] at hread ⊢
          rw [jsonParseValue, List.dropWhile_cons, if_neg (by simp [hspace])]
          simp only [hobject, harray, hstring, hstart, if_false, if_true, hread]
          rfl
  · rw [jsonWrite]
    intro hmem
    rcases hall 0 hmem with h | h | h
    · exact absurd h (by decide)
    · exact absurd h (by decide)
    · exact absurd h (by decide)

theorem readsBack_int {n : Int} (h : ExactInt n) :
    ReadsBack A depth (.number (A.ofInt n)) (.number (A.ofInt n)) := by
  refine readsBack_number ?_
  rw [jsonWriteNumber_ofInt h]
  exact jsonParseNumber_printInt h

/-- The text of a value starts nothing that ends an array. -/
theorem ReadsBack.not_closing {v w : JsonValue A.Double} (h : ReadsBack A depth v w)
    (indent : Int) {rest : Text} (hrest : JsonEnds rest) :
    jsonParseChar 93 (jsonWrite A v indent ++ rest) = none := by
  have hparse := h.parse indent _ rest hrest (Nat.lt_succ_self _)
  rw [jsonParseValue] at hparse
  rw [jsonParseChar]
  split at hparse
  · cases hparse
  -- No value begins with a closing bracket.
  · rename_i c left htext
    by_cases hc : c = 93
    · subst hc
      rw [if_neg (by decide), if_neg (by decide), if_neg (by decide), if_neg (by decide),
        if_neg (by decide), if_neg (by decide), if_neg (by decide)] at hparse
      cases hparse
    · exact if_neg hc

/-- The value is read after its indentation too. -/
theorem ReadsBack.parse_indented {v w : JsonValue A.Double} (h : ReadsBack A depth v w)
    (before indent : Int) {fuel : Nat} {rest : Text} (hrest : JsonEnds rest)
    (hfuel : 2 * (jsonWriteIndent before ++ (jsonWrite A v indent ++ rest)).length < fuel) :
    jsonParseValue A fuel depth (jsonWriteIndent before ++ (jsonWrite A v indent ++ rest)) =
      some (w, rest) := by
  have hshort : 2 * (jsonWrite A v indent ++ rest).length < fuel := by
    rw [List.length_append] at hfuel
    omega
  exact (jsonParseValue_dropWhile fuel depth (dropWhile_indent before _)).trans
    (h.parse indent fuel rest hrest hshort)

theorem jsonParseItems_space (fuel depth count : Nat) {c : UInt8} (hc : isSpace c = true)
    (t : Text) : jsonParseItems A fuel depth count (c :: t) = jsonParseItems A fuel depth count t := by
  cases fuel with
  | zero => rfl
  | succ fuel =>
      have hvalue := @jsonParseValue_dropWhile A fuel depth (c :: t) t (by
        rw [List.dropWhile_cons, if_pos hc])
      rw [jsonParseItems, jsonParseItems, hvalue]

/-- An item is read up to what follows it. -/
theorem ReadsBack.parse_item {v w : JsonValue A.Double} (h : ReadsBack A depth v w) (indent : Int)
    {count : Nat} (hcount : count < jsonMaxArray) {fuel : Nat} {rest : Text} (hrest : JsonEnds rest)
    (hfuel : 2 * (jsonWriteIndent indent ++ (jsonWrite A v indent ++ rest)).length < fuel) :
    jsonParseItems A (fuel + 1) depth count
        (jsonWriteIndent indent ++ (jsonWrite A v indent ++ rest)) =
      match jsonParseChar 93 rest with
      | some rest => some ([w], rest)
      | none =>
          (jsonParseChar 44 rest).bind fun t =>
            (jsonParseItems A fuel depth (count + 1) t).bind fun p => some (w :: p.1, p.2) := by
  rw [jsonParseItems, h.parse_indented indent indent hrest hfuel]
  refine (if_neg (Nat.not_le.mpr hcount)).trans ?_
  rfl

/-- An item that is not the last is read, and then the others are. -/
theorem ReadsBack.parse_next {v w : JsonValue A.Double} (h : ReadsBack A depth v w)
    {items : List (JsonValue A.Double)} (hne : items ≠ []) (indent : Int) {count : Nat}
    (hcount : count < jsonMaxArray) {fuel : Nat} {rest : Text}
    (hfuel : 2 * (jsonWriteItems A (v :: items) indent ++ rest).length < fuel) :
    jsonParseItems A (fuel + 1) depth count (jsonWriteItems A (v :: items) indent ++ rest) =
      (jsonParseItems A fuel depth (count + 1) (jsonWriteItems A items indent ++ rest)).map
        fun p => (w :: p.1, p.2) := by
  have hempty : items.isEmpty = false := List.isEmpty_eq_false_iff.mpr hne
  have htext : jsonWriteItems A (v :: items) indent ++ rest =
      jsonWriteIndent indent ++ (jsonWrite A v indent ++
        (44 :: 10 :: (jsonWriteItems A items indent ++ rest))) := by
    rw [jsonWriteItems, hempty]
    simp
  have hclose : jsonParseChar 93 (44 :: 10 :: (jsonWriteItems A items indent ++ rest)) = none :=
    jsonParseChar_other (by decide) (by decide) _
  have hcomma : jsonParseChar 44 (44 :: 10 :: (jsonWriteItems A items indent ++ rest)) =
      some (10 :: (jsonWriteItems A items indent ++ rest)) := jsonParseChar_self (by decide) _
  rw [htext] at hfuel ⊢
  rw [h.parse_item indent hcount (JsonEnds.cons (by decide) (by decide) _) hfuel, hclose, hcomma]
  simp only [Option.bind_some,
    jsonParseItems_space fuel depth _ (show isSpace 10 = true by decide)]
  cases jsonParseItems A fuel depth (count + 1) (jsonWriteItems A items indent ++ rest) with
  | none => rfl
  | some p => rfl

theorem jsonParseItems_write {items items' : List (JsonValue A.Double)}
    (h : List.Forall₂ (ReadsBack A depth) items items') (hne : items ≠ []) :
    ∀ count fuel indent closing rest, count + items.length ≤ jsonMaxArray →
      2 * (jsonWriteItems A items indent ++ (jsonWriteIndent closing ++ 93 :: rest)).length + 1 <
        fuel →
      jsonParseItems A fuel depth count
          (jsonWriteItems A items indent ++ (jsonWriteIndent closing ++ 93 :: rest)) =
        some (items', rest) := by
  induction h with
  | nil => exact absurd rfl hne
  | @cons v w vs ws hv htail ih =>
      intro count fuel indent closing rest hcount hfuel
      rcases fuel with _ | fuel
      · exact absurd hfuel (Nat.not_lt_zero _)
      · rw [List.length_cons] at hcount
        have hroom : count < jsonMaxArray := by omega
        cases vs with
        | nil =>
            have htext : jsonWriteItems A [v] indent ++ (jsonWriteIndent closing ++ 93 :: rest) =
                jsonWriteIndent indent ++ (jsonWrite A v indent ++
                  (10 :: (jsonWriteIndent closing ++ 93 :: rest))) := by
              simp [jsonWriteItems]
            -- Behind the last item stands the bracket.
            have hclose : jsonParseChar 93 (10 :: (jsonWriteIndent closing ++ 93 :: rest)) =
                some rest := by
              rw [jsonParseChar_space _ (by decide), jsonParseChar_indent,
                jsonParseChar_self (by decide)]
            rw [htext] at hfuel ⊢
            rw [hv.parse_item indent hroom (JsonEnds.cons (by decide) (by decide) _)
              (Nat.lt_of_succ_lt_succ hfuel), hclose]
            cases htail
            rfl
        | cons v' vs =>
            have hne' : v' :: vs ≠ [] := List.cons_ne_nil _ _
            have hshort := hfuel
            rw [jsonWriteItems] at hshort
            rw [hv.parse_next hne' indent hroom (Nat.lt_of_succ_lt_succ hfuel),
              ih hne' (count + 1) fuel indent closing rest (by omega) (by
                simp only [List.length_append, List.isEmpty_cons, Bool.false_eq_true, if_false,
                  List.length_cons] at hshort ⊢
                omega)]
            rfl

/-- No text of an item starts with a closing bracket. -/
theorem jsonWriteItems_not_closing {v w : JsonValue A.Double} (h : ReadsBack A depth v w)
    (vs : List (JsonValue A.Double)) (indent : Int) (rest : Text) :
    jsonParseChar 93 (jsonWriteItems A (v :: vs) indent ++ rest) = none := by
  rw [jsonWriteItems, List.append_assoc, List.append_assoc, List.append_assoc, jsonParseChar_indent]
  refine h.not_closing indent ?_
  split_ifs
  · exact JsonEnds.cons (by decide) (by decide) _
  · exact JsonEnds.cons (by decide) (by decide) _

theorem zero_notMem_indent (indent : Int) : 0 ∉ jsonWriteIndent indent := fun h =>
  absurd (List.eq_of_mem_replicate h) (by decide)

theorem zero_notMem_separator (last : Bool) : (0 : UInt8) ∉ if last then [10] else [44, 10] := by
  cases last <;> decide

theorem zero_notMem_items {items : List (JsonValue A.Double)} {indent : Int}
    (h : ∀ item ∈ items, 0 ∉ jsonWrite A item indent) : 0 ∉ jsonWriteItems A items indent := by
  induction items with
  | nil =>
      rw [jsonWriteItems]
      exact List.not_mem_nil
  | cons v vs ih =>
      rw [jsonWriteItems]
      simp only [List.mem_append, not_or]
      exact ⟨⟨⟨zero_notMem_indent indent, h v List.mem_cons_self⟩, zero_notMem_separator _⟩,
        ih fun item hitem => h item (List.mem_cons_of_mem v hitem)⟩

theorem zero_notMem_array {items : List (JsonValue A.Double)}
    (h : ∀ item ∈ items, ∀ indent, 0 ∉ jsonWrite A item indent) (indent : Int) :
    0 ∉ jsonWrite A (.array items) indent := by
  cases items with
  | nil =>
      rw [jsonWrite]
      decide
  | cons v vs =>
      rw [jsonWrite]
      simp only [List.mem_append, not_or]
      exact ⟨⟨⟨by decide, zero_notMem_items fun item hitem => h item hitem _⟩,
        zero_notMem_indent _⟩, by decide⟩

theorem readsBack_array {items items' : List (JsonValue A.Double)} (hdepth : depth < jsonMaxDepth)
    (hlength : items.length ≤ jsonMaxArray)
    (h : List.Forall₂ (ReadsBack A (depth + 1)) items items') :
    ReadsBack A depth (.array items) (.array items') := by
  have hopen : ¬ jsonMaxDepth < depth + 1 := Nat.not_lt.mpr hdepth
  refine ⟨fun indent fuel rest hrest hfuel => ?_, fun indent => ?_⟩
  · rcases fuel with _ | fuel
    · exact absurd hfuel (Nat.not_lt_zero _)
    · cases items with
      | nil =>
          cases h
          have hclose := @jsonParseChar_self 93 (by decide) rest
          rw [jsonWrite, List.cons_append, List.cons_append, jsonParseValue, List.dropWhile_cons,
            if_neg (by decide)]
          simp only [if_neg (show (91 : UInt8) ≠ 123 by decide), if_true, if_neg hopen,
            List.nil_append, hclose]
      | cons v vs =>
          have htext : jsonWrite A (.array (v :: vs)) indent ++ rest =
              91 :: 10 :: (jsonWriteItems A (v :: vs) (indent + 2) ++
                (jsonWriteIndent indent ++ 93 :: rest)) := by
            simp [jsonWrite]
          -- The parser first looks for the end of an empty array and does not find it.
          have hclose : jsonParseChar 93 (10 :: (jsonWriteItems A (v :: vs) (indent + 2) ++
              (jsonWriteIndent indent ++ 93 :: rest))) = none := by
            rw [jsonParseChar_space _ (by decide)]
            cases h with
            | cons hv _ => exact jsonWriteItems_not_closing hv _ _ _
          rw [htext] at hfuel ⊢
          have hitems := jsonParseItems_write h (List.cons_ne_nil _ _) 0 fuel (indent + 2) indent rest
            (by omega) (by
              simp only [List.length_cons] at hfuel
              omega)
          rw [jsonParseValue, List.dropWhile_cons, if_neg (by decide)]
          simp only [if_neg (show (91 : UInt8) ≠ 123 by decide), if_true, if_neg hopen, hclose,
            jsonParseItems_space fuel _ _ (show isSpace 10 = true by decide), hitems]
          rfl
  · refine zero_notMem_array (fun item hitem indent => ?_) indent
    have hclean := h.imp fun v w hv => And.intro (hv.clean indent) hv
    exact ((List.forall₂_and_left _ _).mp hclean).1 item hitem

/-- A member of an object: the key is copied and the value is read back. -/
structure MemberReadsBack (A : CFloat) (depth : Nat) (m m' : Text × JsonValue A.Double) : Prop where
  key : m'.1 = m.1
  length_lt : m.1.length < jsonMaxString
  clean : 0 ∉ m.1
  value : ReadsBack A depth m.2 m'.2

theorem jsonParseMembers_space (fuel depth : Nat) {c : UInt8} (hc : isSpace c = true) (t : Text) :
    jsonParseMembers A fuel depth (c :: t) = jsonParseMembers A fuel depth t := by
  cases fuel with
  | zero => rfl
  | succ fuel =>
      rw [jsonParseMembers, jsonParseMembers, jsonParseStringRaw, jsonParseStringRaw,
        jsonParseChar_space 34 hc]

theorem jsonParseStringRaw_indent (indent : Int) (t : Text) :
    jsonParseStringRaw (jsonWriteIndent indent ++ t) = jsonParseStringRaw t := by
  rw [jsonParseStringRaw, jsonParseStringRaw, jsonParseChar_indent]

/-- The key of a member is read, and then its value is. -/
theorem jsonParseMembers_key {key : Text} (hlength : key.length < jsonMaxString) (before : Int)
    (fuel : Nat) (t : Text) :
    jsonParseMembers A (fuel + 1) depth
        (jsonWriteIndent before ++ (jsonWriteString key ++ (58 :: 32 :: t))) =
      (jsonParseValue A fuel depth t).bind fun p =>
        match jsonParseChar 125 p.2 with
        | some rest => some ([(key, p.1)], rest)
        | none =>
            (jsonParseChar 44 p.2).bind fun t =>
              (jsonParseMembers A fuel depth t).bind fun q => some ((key, p.1) :: q.1, q.2) := by
  have hraw := jsonParseStringRaw_write hlength (58 :: 32 :: t)
  have hcolon := @jsonParseChar_self 58 (by decide) (32 :: t)
  have hvalue : jsonParseValue A fuel depth (32 :: t) = jsonParseValue A fuel depth t := by
    refine jsonParseValue_dropWhile fuel depth ?_
    rw [List.dropWhile_cons, if_pos (by decide)]
  rw [jsonParseMembers, jsonParseStringRaw_indent, hraw]
  simp only [Option.bind_eq_bind, Option.bind_some, hcolon]
  exact congrArg (fun r => Option.bind r _) hvalue

/-- A member is read up to what follows its value. -/
theorem MemberReadsBack.parse {m m' : Text × JsonValue A.Double} (h : MemberReadsBack A depth m m')
    (before indent : Int) {fuel : Nat} {rest : Text} (hrest : JsonEnds rest)
    (hfuel : 2 * (jsonWriteIndent before ++ (jsonWriteString m.1 ++
      (58 :: 32 :: (jsonWrite A m.2 indent ++ rest)))).length < fuel + 1) :
    jsonParseMembers A (fuel + 1) depth (jsonWriteIndent before ++ (jsonWriteString m.1 ++
        (58 :: 32 :: (jsonWrite A m.2 indent ++ rest)))) =
      match jsonParseChar 125 rest with
      | some rest => some ([m'], rest)
      | none =>
          (jsonParseChar 44 rest).bind fun t =>
            (jsonParseMembers A fuel depth t).bind fun p => some (m' :: p.1, p.2) := by
  rcases m with ⟨key, v⟩
  rcases m' with ⟨key', w⟩
  rcases h with ⟨hkey, hlength, -, hv⟩
  cases hkey
  have hshort : 2 * (jsonWrite A v indent ++ rest).length < fuel := by
    simp only [List.length_append, List.length_cons] at hfuel ⊢
    omega
  rw [jsonParseMembers_key hlength, hv.parse indent fuel rest hrest hshort]
  rfl

/-- A member that is not the last is read, and then the others are. -/
theorem MemberReadsBack.parse_next {m m' : Text × JsonValue A.Double}
    (h : MemberReadsBack A depth m m') {members : List (Text × JsonValue A.Double)}
    (hne : members ≠ []) (indent : Int) {fuel : Nat} {rest : Text}
    (hfuel : 2 * (jsonWriteMembers A (m :: members) indent ++ rest).length < fuel + 1) :
    jsonParseMembers A (fuel + 1) depth (jsonWriteMembers A (m :: members) indent ++ rest) =
      (jsonParseMembers A fuel depth (jsonWriteMembers A members indent ++ rest)).map
        fun p => (m' :: p.1, p.2) := by
  have hempty : members.isEmpty = false := List.isEmpty_eq_false_iff.mpr hne
  have htext : jsonWriteMembers A (m :: members) indent ++ rest =
      jsonWriteIndent indent ++ (jsonWriteString m.1 ++ (58 :: 32 :: (jsonWrite A m.2 indent ++
        (44 :: 10 :: (jsonWriteMembers A members indent ++ rest))))) := by
    rw [jsonWriteMembers, hempty]
    simp
  have hclose : jsonParseChar 125 (44 :: 10 :: (jsonWriteMembers A members indent ++ rest)) = none :=
    jsonParseChar_other (by decide) (by decide) _
  have hcomma : jsonParseChar 44 (44 :: 10 :: (jsonWriteMembers A members indent ++ rest)) =
      some (10 :: (jsonWriteMembers A members indent ++ rest)) := jsonParseChar_self (by decide) _
  rw [htext] at hfuel ⊢
  rw [h.parse indent indent (JsonEnds.cons (by decide) (by decide) _) hfuel, hclose, hcomma]
  simp only [Option.bind_some, jsonParseMembers_space fuel depth (show isSpace 10 = true by decide)]
  cases jsonParseMembers A fuel depth (jsonWriteMembers A members indent ++ rest) with
  | none => rfl
  | some p => rfl

theorem jsonParseMembers_write {members members' : List (Text × JsonValue A.Double)}
    (h : List.Forall₂ (MemberReadsBack A depth) members members') (hne : members ≠ []) :
    ∀ fuel indent closing rest,
      2 * (jsonWriteMembers A members indent ++
        (jsonWriteIndent closing ++ 125 :: rest)).length < fuel →
      jsonParseMembers A fuel depth
          (jsonWriteMembers A members indent ++ (jsonWriteIndent closing ++ 125 :: rest)) =
        some (members', rest) := by
  induction h with
  | nil => exact absurd rfl hne
  | @cons m m' ms ms' hm htail ih =>
      intro fuel indent closing rest hfuel
      rcases fuel with _ | fuel
      · exact absurd hfuel (Nat.not_lt_zero _)
      · cases ms with
        -- The last member is followed by a line end and the brace, every other one by a comma.
        | nil =>
            have htext : jsonWriteMembers A [m] indent ++ (jsonWriteIndent closing ++ 125 :: rest) =
                jsonWriteIndent indent ++ (jsonWriteString m.1 ++ (58 :: 32 ::
                  (jsonWrite A m.2 indent ++ (10 :: (jsonWriteIndent closing ++ 125 :: rest))))) := by
              simp [jsonWriteMembers]
            have hclose : jsonParseChar 125 (10 :: (jsonWriteIndent closing ++ 125 :: rest)) =
                some rest := by
              rw [jsonParseChar_space _ (by decide), jsonParseChar_indent,
                jsonParseChar_self (by decide)]
            rw [htext] at hfuel ⊢
            rw [hm.parse indent indent (JsonEnds.cons (by decide) (by decide) _) hfuel, hclose]
            cases htail
            rfl
        | cons next ms =>
            have hne' : next :: ms ≠ [] := List.cons_ne_nil _ _
            have hshort := hfuel
            rw [jsonWriteMembers] at hshort
            rw [hm.parse_next hne' indent hfuel, ih hne' fuel indent closing rest (by
              simp only [List.length_append, List.isEmpty_cons, Bool.false_eq_true, if_false,
                List.length_cons] at hshort ⊢
              omega)]
            rfl

theorem zero_notMem_members {members : List (Text × JsonValue A.Double)} {indent : Int}
    (h : ∀ m ∈ members, 0 ∉ m.1 ∧ 0 ∉ jsonWrite A m.2 indent) :
    0 ∉ jsonWriteMembers A members indent := by
  induction members with
  | nil =>
      rw [jsonWriteMembers]
      exact List.not_mem_nil
  | cons m ms ih =>
      rcases h m List.mem_cons_self with ⟨hkey, hvalue⟩
      rw [jsonWriteMembers]
      simp only [List.mem_append, not_or]
      exact ⟨⟨⟨⟨⟨zero_notMem_indent indent, zero_notMem_writeString hkey⟩, by decide⟩, hvalue⟩,
        zero_notMem_separator _⟩, ih fun next hnext => h next (List.mem_cons_of_mem m hnext)⟩

theorem zero_notMem_object {members : List (Text × JsonValue A.Double)}
    (h : ∀ m ∈ members, 0 ∉ m.1 ∧ ∀ indent, 0 ∉ jsonWrite A m.2 indent) (indent : Int) :
    0 ∉ jsonWrite A (.object members) indent := by
  rw [jsonWrite]
  simp only [List.mem_append, not_or]
  exact ⟨⟨⟨by decide, zero_notMem_members fun m hm => ⟨(h m hm).1, (h m hm).2 _⟩⟩,
    zero_notMem_indent _⟩, by decide⟩

theorem readsBack_object {members members' : List (Text × JsonValue A.Double)}
    (hdepth : depth < jsonMaxDepth)
    (h : List.Forall₂ (MemberReadsBack A (depth + 1)) members members') :
    ReadsBack A depth (.object members) (.object members') := by
  have hopen : ¬ jsonMaxDepth < depth + 1 := Nat.not_lt.mpr hdepth
  refine ⟨fun indent fuel rest hrest hfuel => ?_, fun indent => ?_⟩
  · rcases fuel with _ | fuel
    · exact absurd hfuel (Nat.not_lt_zero _)
    · have htext : jsonWrite A (.object members) indent ++ rest =
          123 :: 10 :: (jsonWriteMembers A members (indent + 2) ++
            (jsonWriteIndent indent ++ 125 :: rest)) := by
        simp [jsonWrite]
      rw [htext] at hfuel ⊢
      rw [jsonParseValue, List.dropWhile_cons, if_neg (by decide)]
      simp only [if_true, if_neg hopen]
      cases members with
      | nil =>
          cases h
          rw [jsonWriteMembers, List.nil_append, jsonParseChar_space _ (by decide),
            jsonParseChar_indent, jsonParseChar_self (by decide)]
      | cons m ms =>
          -- Nor does it find the end of an empty object: a key comes first.
          have hkey : jsonParseChar 125 (10 :: (jsonWriteMembers A (m :: ms) (indent + 2) ++
              (jsonWriteIndent indent ++ 125 :: rest))) = none := by
            rw [jsonParseChar_space _ (by decide), jsonWriteMembers]
            simp only [List.append_assoc, jsonParseChar_indent, jsonWriteString, List.cons_append]
            exact jsonParseChar_other (by decide) (by decide) _
          have hmembers := jsonParseMembers_write h (List.cons_ne_nil _ _) fuel (indent + 2) indent
            rest (by
              simp only [List.length_cons] at hfuel
              omega)
          rw [hkey]
          simp only [jsonParseMembers_space fuel _ (show isSpace 10 = true by decide), hmembers]
          rfl
  · refine zero_notMem_object (fun m hm => ?_) indent
    have hclean := h.imp fun m m' hm =>
      And.intro (And.intro hm.clean hm.value.clean) hm
    exact ((List.forall₂_and_left _ _).mp hclean).1 m hm

/-- Parsing what was written, with whitespace after it. -/
theorem jsonParse_write {v w : JsonValue A.Double} (h : ReadsBack A 0 v w) (indent : Int)
    {rest : Text} (hrest : ∀ c ∈ rest, isSpace c = true) :
    jsonParse A (jsonWrite A v indent ++ rest) = some w := by
  -- Whitespace ends a number.
  have hends : JsonEnds rest := by
    intro c hc
    have hspace := hrest c (List.mem_of_mem_head? hc)
    refine ⟨?_, ?_⟩
    · by_contra hdigit
      rw [isSpace_of_isDigit ((Bool.not_eq_false _).mp hdigit)] at hspace
      cases hspace
    · rintro rfl
      exact absurd hspace (by decide)
  have hfuel := Nat.lt_succ_self (2 * (jsonWrite A v indent ++ rest).length)
  exact (jsonParse_eq_some_iff hfuel).mpr
    ⟨rest, h.parse indent _ rest hends hfuel, List.dropWhile_eq_nil_iff.mpr hrest⟩

/-! ## Every tree within the limits -/

/-- A number that is an integer of magnitude below `2^53`. -/
def IsJsonInteger (A : CFloat) (n : A.Double) : Prop :=
  A.equal n (A.ofInt (A.toLongLong n)) = true ∧ -2 ^ 53 < A.toLongLong n ∧ A.toLongLong n < 2 ^ 53

/-- The tree is nested at most so many levels deep and within the limits of the parser. -/
inductive JsonFits (A : CFloat) : Nat → JsonValue A.Double → Prop
  | object {levels : Nat} {members : List (Text × JsonValue A.Double)}
      (hkeys : ∀ member ∈ members, member.1.length < jsonMaxString ∧ 0 ∉ member.1)
      (hvalues : ∀ member ∈ members, JsonFits A levels member.2) :
      JsonFits A (levels + 1) (.object members)
  | array {levels : Nat} {items : List (JsonValue A.Double)} (hlength : items.length ≤ jsonMaxArray)
      (hitems : ∀ item ∈ items, JsonFits A levels item) : JsonFits A (levels + 1) (.array items)
  | string {levels : Nat} {s : Text} (hlength : s.length < jsonMaxString) (hclean : 0 ∉ s) :
      JsonFits A levels (.string s)
  | number {levels : Nat} {n : A.Double} (hn : IsJsonInteger A n) : JsonFits A levels (.number n)
  | bool {levels : Nat} (b : Bool) : JsonFits A levels (.bool b)
  | null {levels : Nat} : JsonFits A levels .null

/-- Equal trees: the same members and items in the same order, and equal numbers. -/
inductive JsonEqual (A : CFloat) : JsonValue A.Double → JsonValue A.Double → Prop
  | object {members members' : List (Text × JsonValue A.Double)}
      (hkeys : members.map Prod.fst = members'.map Prod.fst)
      (hvalues : List.Forall₂ (JsonEqual A) (members.map Prod.snd) (members'.map Prod.snd)) :
      JsonEqual A (.object members) (.object members')
  | array {items items' : List (JsonValue A.Double)}
      (hitems : List.Forall₂ (JsonEqual A) items items') :
      JsonEqual A (.array items) (.array items')
  | string (s : Text) : JsonEqual A (.string s) (.string s)
  | number {n m : A.Double} (hn : A.equal n m = true) : JsonEqual A (.number n) (.number m)
  | bool (b : Bool) : JsonEqual A (.bool b) (.bool b)
  | null : JsonEqual A .null .null

theorem readsBack_integer {n : A.Double} (h : IsJsonInteger A n) :
    ReadsBack A depth (.number n) (.number (A.ofInt (A.toLongLong n))) := by
  have hexact : ExactInt (A.toLongLong n) := ⟨le_of_lt h.2.1, le_of_lt h.2.2⟩
  refine readsBack_number ?_
  rw [jsonWriteNumber, if_pos h.1]
  exact jsonParseNumber_printInt hexact

theorem readsBack_keyword {v : JsonValue A.Double} {t : Text}
    (hwrite : ∀ indent, jsonWrite A v indent = t) (hclean : 0 ∉ t)
    (hparse : ∀ fuel rest, jsonParseValue A (fuel + 1) depth (t ++ rest) = some (v, rest)) :
    ReadsBack A depth v v := by
  refine ⟨fun indent fuel rest _ hfuel => ?_, fun indent => (hwrite indent).symm ▸ hclean⟩
  rcases fuel with _ | fuel
  · exact absurd hfuel (Nat.not_lt_zero _)
  · rw [hwrite]
    exact hparse fuel rest

theorem readsBack_bool (b : Bool) : ReadsBack A depth (.bool b) (.bool b) := by
  cases b with
  | false => exact readsBack_keyword (fun _ => rfl) (by decide) fun _ _ => rfl
  | true => exact readsBack_keyword (fun _ => rfl) (by decide) fun _ _ => rfl

theorem readsBack_null : ReadsBack A depth .null .null :=
  readsBack_keyword (fun _ => rfl) (by decide) fun _ _ => rfl

/-- A list of related values, when each value has one. -/
theorem exists_forall₂ {α β : Type} {R : α → β → Prop} {xs : List α} (h : ∀ x ∈ xs, ∃ y, R x y) :
    ∃ ys, List.Forall₂ R xs ys := by
  induction xs with
  | nil => exact ⟨[], .nil⟩
  | cons x xs ih =>
      rcases h x List.mem_cons_self with ⟨y, hy⟩
      rcases ih fun z hz => h z (List.mem_cons_of_mem x hz) with ⟨ys, hys⟩
      exact ⟨y :: ys, .cons hy hys⟩

/-- A tree within the limits is read back as an equal one, by induction on its levels. -/
theorem JsonFits.readsBack {levels : Nat} {v : JsonValue A.Double} (h : JsonFits A levels v) :
    ∀ {depth}, depth + levels ≤ jsonMaxDepth → ∃ w, ReadsBack A depth v w ∧ JsonEqual A v w := by
  induction h with
  | @object levels members hkeys _ ih =>
      intro depth hdepth
      -- The levels below are read back by the induction hypothesis, one member after the other.
      have hmember : ∀ member ∈ members, ∃ member' : Text × JsonValue A.Double,
          MemberReadsBack A (depth + 1) member member' ∧ member.1 = member'.1 ∧
            JsonEqual A member.2 member'.2 := by
        intro member hm
        rcases @ih member hm (depth + 1) (by omega) with ⟨w, hread, hequal⟩
        exact ⟨(member.1, w), ⟨rfl, (hkeys member hm).1, (hkeys member hm).2, hread⟩, rfl, hequal⟩
      rcases exists_forall₂ hmember with ⟨members', hall⟩
      refine ⟨.object members', readsBack_object (by omega) (hall.imp fun _ _ h => h.1),
        .object ?_ ?_⟩
      · rw [← List.forall₂_eq_eq_eq, List.forall₂_map_left_iff, List.forall₂_map_right_iff]
        exact hall.imp fun _ _ h => h.2.1
      · rw [List.forall₂_map_left_iff, List.forall₂_map_right_iff]
        exact hall.imp fun _ _ h => h.2.2
  | @array levels items hlength _ ih =>
      intro depth hdepth
      rcases exists_forall₂ fun item hitem => @ih item hitem (depth + 1) (by omega) with
        ⟨items', hall⟩
      exact ⟨.array items', readsBack_array (by omega) hlength (hall.imp fun _ _ h => h.1),
        .array (hall.imp fun _ _ h => h.2)⟩
  | string hlength hclean => exact fun _ => ⟨_, readsBack_string hlength hclean, .string _⟩
  | number hn => exact fun _ => ⟨_, readsBack_integer hn, .number hn.1⟩
  | bool b => exact fun _ => ⟨_, readsBack_bool b, .bool b⟩
  | null => exact fun _ => ⟨_, readsBack_null, .null⟩

/-- The text that `json_write` makes of a tree within the limits is parsed to an equal tree. -/
theorem json_roundTrip {v : JsonValue A.Double} (h : JsonFits A jsonMaxDepth v) (indent : Int) :
    ∃ w, jsonParse A (jsonWrite A v indent) = some w ∧ JsonEqual A v w := by
  rcases @JsonFits.readsBack _ _ _ h 0 (by omega) with ⟨w, hread, hequal⟩
  have hparse := @jsonParse_write A v w hread indent [] fun c hc => by cases hc
  rw [List.append_nil] at hparse
  exact ⟨w, hparse, hequal⟩

/-- An object with the same key twice, and a string of a quote, a backslash and a newline. -/
def twiceKeyed : JsonValue exactFloat.Double :=
  .object [(text "a", .array [.string [34, 92, 10], .null]), (text "a", .number (-7 : ℚ))]

theorem json_roundTrip_twiceKeyed :
    ∃ w, jsonParse exactFloat (jsonWrite exactFloat twiceKeyed 3) = some w ∧
      JsonEqual exactFloat twiceKeyed w := by
  refine json_roundTrip (.object ?_ ?_) 3
  · decide
  · intro member hmember
    rcases List.mem_cons.mp hmember with rfl | hmember
    · refine .array (by decide) fun item hitem => ?_
      rcases List.mem_cons.mp hitem with rfl | hitem
      · exact .string (by decide) (by decide)
      · rw [List.mem_singleton.mp hitem]
        exact .null
    · rw [List.mem_singleton.mp hmember]
      exact .number ⟨by decide +kernel, by decide +kernel, by decide +kernel⟩

end MagiStack
