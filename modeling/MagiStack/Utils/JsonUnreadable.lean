import MagiStack.Core.FormatG
import MagiStack.Utils.JsonRoundTrip

/-!
# JsonUnreadable — numbers of which the parser reads a part only

The parser reads no exponent, which `%g` prints of large and of small numbers.  What is left of such a number
is no bracket and no comma, so that nothing around it is read either.
-/

namespace MagiStack

variable {A : CFloat} {depth : Nat}

/-! ## What stops the parser -/

/-- No bracket and no comma comes next. -/
def Stuck (left : Text) : Prop :=
  ∃ c rest, left = c :: rest ∧ isSpace c = false ∧ c ≠ 44 ∧ c ≠ 93 ∧ c ≠ 125

theorem Stuck.parseChar {left : Text} (h : Stuck left) :
    jsonParseChar 44 left = none ∧ jsonParseChar 93 left = none ∧ jsonParseChar 125 left = none := by
  rcases h with ⟨c, rest, rfl, hspace, hcomma, harray, hobject⟩
  exact ⟨jsonParseChar_other hspace hcomma rest, jsonParseChar_other hspace harray rest,
    jsonParseChar_other hspace hobject rest⟩

/-- What the writer puts after a value: the end of the line, or a comma before it. -/
def LineEnds (rest : Text) : Prop :=
  ∃ left, rest = 10 :: left ∨ rest = 44 :: left

theorem LineEnds.jsonEnds {rest : Text} (h : LineEnds rest) : JsonEnds rest := by
  rcases h with ⟨left, rfl | rfl⟩
  · exact JsonEnds.cons (by decide) (by decide) left
  · exact JsonEnds.cons (by decide) (by decide) left

theorem lineEnds_separator (last : Bool) (rest : Text) :
    LineEnds ((if last then [10] else [44, 10]) ++ rest) := by
  cases last with
  | false => exact ⟨10 :: rest, Or.inr rfl⟩
  | true => exact ⟨rest, Or.inl rfl⟩

/-- Inside `depth` objects and arrays nothing that comes after the text of `v` is read. -/
structure Unreadable (A : CFloat) (depth : Nat) (v : JsonValue A.Double) : Prop where
  stuck : ∀ indent fuel rest w left, LineEnds rest → 2 * (jsonWrite A v indent ++ rest).length < fuel →
    jsonParseValue A fuel depth (jsonWrite A v indent ++ rest) = some (w, left) → Stuck left
  not_closing : ∀ indent rest, jsonParseChar 93 (jsonWrite A v indent ++ rest) = none
  clean : ∀ indent, 0 ∉ jsonWrite A v indent

/-- An array with an item that is not read, after others that are. -/
theorem jsonParseItems_unreadable {items : List (JsonValue A.Double)}
    (h : ∀ item ∈ items, (∃ w, ReadsBack A depth item w) ∨ Unreadable A depth item)
    (hbad : ∃ item ∈ items, Unreadable A depth item) :
    ∀ count fuel indent rest, count + items.length ≤ jsonMaxArray →
      2 * (jsonWriteItems A items indent ++ rest).length + 1 < fuel →
      jsonParseItems A fuel depth count (jsonWriteItems A items indent ++ rest) = none := by
  induction items with
  | nil =>
      rcases hbad with ⟨item, hitem, -⟩
      cases hitem
  | cons v vs ih =>
      intro count fuel indent rest hcount hfuel
      rcases fuel with _ | fuel
      · exact absurd hfuel (Nat.not_lt_zero _)
      rw [List.length_cons] at hcount
      have hroom : count < jsonMaxArray := by omega
      -- Either this item stops the parser or it is read and a later one does.
      by_cases hv : Unreadable A depth v
      · have htext : jsonWriteItems A (v :: vs) indent ++ rest =
            jsonWriteIndent indent ++ (jsonWrite A v indent ++
              ((if vs.isEmpty then [10] else [44, 10]) ++ (jsonWriteItems A vs indent ++ rest))) := by
          rw [jsonWriteItems]
          simp only [List.append_assoc]
        rw [htext] at hfuel ⊢
        generalize hends : (if vs.isEmpty then [10] else [44, 10]) ++
          (jsonWriteItems A vs indent ++ rest) = after at hfuel ⊢
        rw [jsonParseItems, jsonParseValue_dropWhile fuel depth (dropWhile_indent indent _)]
        cases hvalue : jsonParseValue A fuel depth (jsonWrite A v indent ++ after) with
        | none => rfl
        | some p =>
            have hshort : 2 * (jsonWrite A v indent ++ after).length < fuel := by
              rw [List.length_append] at hfuel
              omega
            rcases (hv.stuck indent fuel after p.1 p.2 (hends ▸ lineEnds_separator _ _) hshort
              hvalue).parseChar with ⟨hcomma, hclose, -⟩
            simp [Nat.not_le.mpr hroom, hclose, hcomma]
      · have hread := (h v List.mem_cons_self).resolve_right hv
        rcases hread with ⟨w, hread⟩
        -- One of the items that follow is not read.
        have hrest : ∃ item ∈ vs, Unreadable A depth item := by
          rcases hbad with ⟨item, hitem, hitemBad⟩
          rcases List.mem_cons.mp hitem with rfl | hmem
          · exact absurd hitemBad hv
          · exact ⟨item, hmem, hitemBad⟩
        have hne : vs ≠ [] := by
          rintro rfl
          rcases hrest with ⟨item, hitem, -⟩
          cases hitem
        have hshort := hfuel
        rw [jsonWriteItems, List.isEmpty_eq_false_iff.mpr hne] at hshort
        rw [hread.parse_next hne indent hroom (Nat.lt_of_succ_lt_succ hfuel),
          ih (fun item hitem => h item (List.mem_cons_of_mem v hitem)) hrest (count + 1) fuel indent
            rest (by omega) (by
              simp only [List.length_append, List.length_cons, Bool.false_eq_true, if_false]
                at hshort ⊢
              omega)]
        rfl

theorem jsonParseValue_array_unreadable {items : List (JsonValue A.Double)}
    (hlength : items.length ≤ jsonMaxArray)
    (h : ∀ item ∈ items, (∃ w, ReadsBack A (depth + 1) item w) ∨ Unreadable A (depth + 1) item)
    (hbad : ∃ item ∈ items, Unreadable A (depth + 1) item) (indent : Int) {fuel : Nat} {rest : Text}
    (hfuel : 2 * (jsonWrite A (.array items) indent ++ rest).length < fuel) :
    jsonParseValue A fuel depth (jsonWrite A (.array items) indent ++ rest) = none := by
  cases items with
  | nil =>
      rcases hbad with ⟨item, hitem, -⟩
      cases hitem
  | cons v vs =>
      rcases fuel with _ | fuel
      · exact absurd hfuel (Nat.not_lt_zero _)
      have htext : jsonWrite A (.array (v :: vs)) indent ++ rest =
          91 :: 10 :: (jsonWriteItems A (v :: vs) (indent + 2) ++
            (jsonWriteIndent indent ++ 93 :: rest)) := by
        simp [jsonWrite]
      -- The first item does not close the array.
      have hclose : jsonParseChar 93 (10 :: (jsonWriteItems A (v :: vs) (indent + 2) ++
          (jsonWriteIndent indent ++ 93 :: rest))) = none := by
        rw [jsonParseChar_space _ (by decide)]
        rcases h v List.mem_cons_self with ⟨w, hv⟩ | hv
        · exact jsonWriteItems_not_closing hv _ _ _
        · rw [jsonWriteItems, List.append_assoc, List.append_assoc, List.append_assoc,
            jsonParseChar_indent]
          exact hv.not_closing _ _
      rw [htext] at hfuel ⊢
      have hitems := jsonParseItems_unreadable h hbad 0 fuel (indent + 2)
        (jsonWriteIndent indent ++ 93 :: rest) (by omega) (by
          simp only [List.length_cons] at hfuel
          omega)
      rw [jsonParseValue, List.dropWhile_cons, if_neg (by decide)]
      simp only [if_neg (show (91 : UInt8) ≠ 123 by decide), if_true, hclose,
        jsonParseItems_space fuel _ _ (show isSpace 10 = true by decide), hitems]
      split_ifs
      · rfl
      · rfl

theorem unreadable_array {items : List (JsonValue A.Double)} (hlength : items.length ≤ jsonMaxArray)
    (h : ∀ item ∈ items, (∃ w, ReadsBack A (depth + 1) item w) ∨ Unreadable A (depth + 1) item)
    (hbad : ∃ item ∈ items, Unreadable A (depth + 1) item) : Unreadable A depth (.array items) := by
  refine ⟨fun indent fuel rest w left _ hfuel hparse => ?_, fun indent rest => ?_,
    zero_notMem_array fun item hitem => ?_⟩
  · rw [jsonParseValue_array_unreadable hlength h hbad indent hfuel] at hparse
    cases hparse
  · cases items with
    | nil =>
        rcases hbad with ⟨item, hitem, -⟩
        cases hitem
    | cons v vs =>
        rw [jsonWrite]
        exact jsonParseChar_other (by decide) (by decide) _
  · rcases h item hitem with ⟨w, hv⟩ | hv
    · exact hv.clean
    · exact hv.clean

/-- A member of an object: the key is copied, and the value is not read. -/
structure MemberUnreadable (A : CFloat) (depth : Nat) (m : Text × JsonValue A.Double) : Prop where
  length_lt : m.1.length < jsonMaxString
  clean : 0 ∉ m.1
  value : Unreadable A depth m.2

/-- An object with a member that is not read, after others that are. -/
theorem jsonParseMembers_unreadable {members : List (Text × JsonValue A.Double)}
    (h : ∀ m ∈ members, (∃ m', MemberReadsBack A depth m m') ∨ MemberUnreadable A depth m)
    (hbad : ∃ m ∈ members, MemberUnreadable A depth m) :
    ∀ fuel indent rest, 2 * (jsonWriteMembers A members indent ++ rest).length < fuel →
      jsonParseMembers A fuel depth (jsonWriteMembers A members indent ++ rest) = none := by
  induction members with
  | nil =>
      rcases hbad with ⟨m, hm, -⟩
      cases hm
  | cons m ms ih =>
      intro fuel indent rest hfuel
      rcases fuel with _ | fuel
      · exact absurd hfuel (Nat.not_lt_zero _)
      -- As with the items of an array.
      by_cases hm : MemberUnreadable A depth m
      · have htext : jsonWriteMembers A (m :: ms) indent ++ rest =
            jsonWriteIndent indent ++ (jsonWriteString m.1 ++ (58 :: 32 ::
              (jsonWrite A m.2 indent ++ ((if ms.isEmpty then [10] else [44, 10]) ++
                (jsonWriteMembers A ms indent ++ rest))))) := by
          rw [jsonWriteMembers]
          simp
        rw [htext] at hfuel ⊢
        generalize hends : (if ms.isEmpty then [10] else [44, 10]) ++
          (jsonWriteMembers A ms indent ++ rest) = after at hfuel ⊢
        rw [jsonParseMembers_key hm.length_lt]
        cases hvalue : jsonParseValue A fuel depth (jsonWrite A m.2 indent ++ after) with
        | none => rfl
        | some p =>
            have hshort : 2 * (jsonWrite A m.2 indent ++ after).length < fuel := by
              simp only [List.length_append, List.length_cons] at hfuel ⊢
              omega
            rcases (hm.value.stuck indent fuel after p.1 p.2 (hends ▸ lineEnds_separator _ _) hshort
              hvalue).parseChar with ⟨hcomma, -, hclose⟩
            simp [hclose, hcomma]
      · rcases (h m List.mem_cons_self).resolve_right hm with ⟨m', hread⟩
        have hrest : ∃ next ∈ ms, MemberUnreadable A depth next := by
          rcases hbad with ⟨next, hnext, hnextBad⟩
          rcases List.mem_cons.mp hnext with rfl | hmem
          · exact absurd hnextBad hm
          · exact ⟨next, hmem, hnextBad⟩
        have hne : ms ≠ [] := by
          rintro rfl
          rcases hrest with ⟨next, hnext, -⟩
          cases hnext
        have hshort := hfuel
        rw [jsonWriteMembers, List.isEmpty_eq_false_iff.mpr hne] at hshort
        rw [hread.parse_next hne indent hfuel,
          ih (fun next hnext => h next (List.mem_cons_of_mem m hnext)) hrest fuel indent rest (by
            simp only [List.length_append, List.length_cons, Bool.false_eq_true, if_false]
              at hshort ⊢
            omega)]
        rfl

theorem jsonParseValue_object_unreadable {members : List (Text × JsonValue A.Double)}
    (h : ∀ m ∈ members, (∃ m', MemberReadsBack A (depth + 1) m m') ∨ MemberUnreadable A (depth + 1) m)
    (hbad : ∃ m ∈ members, MemberUnreadable A (depth + 1) m) (indent : Int) {fuel : Nat} {rest : Text}
    (hfuel : 2 * (jsonWrite A (.object members) indent ++ rest).length < fuel) :
    jsonParseValue A fuel depth (jsonWrite A (.object members) indent ++ rest) = none := by
  rcases fuel with _ | fuel
  · exact absurd hfuel (Nat.not_lt_zero _)
  have htext : jsonWrite A (.object members) indent ++ rest =
      123 :: 10 :: (jsonWriteMembers A members (indent + 2) ++
        (jsonWriteIndent indent ++ 125 :: rest)) := by
    simp [jsonWrite]
  -- The object has a first key.
  have hkey : jsonParseChar 125 (10 :: (jsonWriteMembers A members (indent + 2) ++
      (jsonWriteIndent indent ++ 125 :: rest))) = none := by
    cases members with
    | nil =>
        rcases hbad with ⟨m, hm, -⟩
        cases hm
    | cons m ms =>
        rw [jsonParseChar_space _ (by decide), jsonWriteMembers]
        simp only [List.append_assoc, jsonParseChar_indent, jsonWriteString, List.cons_append]
        exact jsonParseChar_other (by decide) (by decide) _
  rw [htext] at hfuel ⊢
  have hmembers := jsonParseMembers_unreadable h hbad fuel (indent + 2)
    (jsonWriteIndent indent ++ 125 :: rest) (by
      simp only [List.length_cons] at hfuel
      omega)
  rw [jsonParseValue, List.dropWhile_cons, if_neg (by decide)]
  simp only [if_true, hkey, jsonParseMembers_space fuel _ (show isSpace 10 = true by decide),
    hmembers]
  split_ifs
  · rfl
  · rfl

theorem unreadable_object {members : List (Text × JsonValue A.Double)}
    (h : ∀ m ∈ members, (∃ m', MemberReadsBack A (depth + 1) m m') ∨ MemberUnreadable A (depth + 1) m)
    (hbad : ∃ m ∈ members, MemberUnreadable A (depth + 1) m) : Unreadable A depth (.object members) := by
  refine ⟨fun indent fuel rest w left _ hfuel hparse => ?_, fun indent rest => ?_,
    zero_notMem_object fun m hm => ?_⟩
  · rw [jsonParseValue_object_unreadable h hbad indent hfuel] at hparse
    cases hparse
  · rw [jsonWrite]
    exact jsonParseChar_other (by decide) (by decide) _
  · rcases h m hm with ⟨m', hread⟩ | hread
    · exact ⟨hread.clean, hread.value.clean⟩
    · exact ⟨hread.clean, hread.value.clean⟩

/-- Text with something in it that is not read is not parsed. -/
theorem jsonParse_unreadable {v : JsonValue A.Double} (h : Unreadable A 0 v) (indent : Int)
    {rest : Text} (hrest : LineEnds rest) : jsonParse A (jsonWrite A v indent ++ rest) = none := by
  have hfuel := Nat.lt_succ_self (2 * (jsonWrite A v indent ++ rest).length)
  refine Option.eq_none_iff_forall_ne_some.mpr fun value hparse => ?_
  obtain ⟨after, hvalue, hspaces⟩ := (jsonParse_eq_some_iff hfuel).mp hparse
  obtain ⟨c, left, rfl, hspace, -⟩ := h.stuck indent _ rest value after hrest hfuel hvalue
  rw [List.dropWhile_cons, if_neg (by simp [hspace])] at hspaces
  exact List.cons_ne_nil c left hspaces

/-! ## Numbers that are not read back -/

/-- A character that `%g` prints. -/
def IsFormatChar (c : UInt8) : Prop :=
  isDigit c = true ∨ c ∈ text "+-.einfa"

instance (c : UInt8) : Decidable (IsFormatChar c) :=
  inferInstanceAs (Decidable (_ ∨ _))

/-- What `printf` prints with `%g`: digits with a sign, a point and an exponent, or `inf` or `nan`. -/
def FormatsNumbers (A : CFloat) : Prop :=
  ∀ n, A.formatG n ≠ [] ∧ ∀ c ∈ A.formatG n, IsFormatChar c

theorem IsFormatChar.ne {c d : UInt8} (h : IsFormatChar c) (hd : ¬ IsFormatChar d) : c ≠ d := by
  rintro rfl
  exact hd h

theorem IsFormatChar.isSpace {c : UInt8} (h : IsFormatChar c) : isSpace c = false := by
  rcases h with hdigit | hletter
  · exact isSpace_of_isDigit hdigit
  · have hall : (text "+-.einfa").all (fun c => ! MagiStack.isSpace c) = true := by decide
    simpa using List.all_eq_true.mp hall c hletter

theorem jsonWriteNumber_chars (hformat : FormatsNumbers A) (n : A.Double) :
    jsonWriteNumber A n ≠ [] ∧ ∀ c ∈ jsonWriteNumber A n, IsFormatChar c := by
  rw [jsonWriteNumber]
  split_ifs
  · cases A.toLongLong n with
    | ofNat m => exact ⟨printNat_ne_nil m, fun c hc => Or.inl (printNat_isDigit m c hc)⟩
    | negSucc m =>
        refine ⟨List.cons_ne_nil _ _, fun c hc => ?_⟩
        rcases List.mem_cons.mp hc with rfl | hc
        · decide
        · exact Or.inl (printNat_isDigit (m + 1) c hc)
  · exact hformat n

/-- No keyword begins with what is printed of a number. -/
theorem jsonParseKeyword_number {keyword t rest : Text} {value : JsonValue A.Double}
    (hletter : ∃ c ∈ keyword, ¬ IsFormatChar c) (hline : 10 ∉ keyword ∧ 44 ∉ keyword)
    (ht : ∀ c ∈ t, IsFormatChar c) (hrest : LineEnds rest) :
    jsonParseKeyword keyword value (t ++ rest) = none := by
  rcases hletter with ⟨c, hc, hnot⟩
  refine if_neg fun hstart => ?_
  have hstart := List.isPrefixOf_iff_prefix.mp hstart
  -- The keyword lies within the number, or it goes on behind it.
  rcases List.prefix_or_prefix_of_prefix hstart (List.prefix_append t rest) with hshort | hlong
  · exact hnot (ht c (hshort.subset hc))
  · rcases hlong with ⟨left, rfl⟩
    have hleft := List.prefix_append_right_inj t |>.mp hstart
    cases left with
    | nil =>
        rw [List.append_nil] at hc
        exact hnot (ht c hc)
    | cons d left =>
        -- The keyword would go on over the end of the line.
        rcases hrest with ⟨next, rfl | rfl⟩
        · rcases List.cons_prefix_cons.mp hleft with ⟨rfl, -⟩
          exact hline.1 (List.mem_append_right t List.mem_cons_self)
        · rcases List.cons_prefix_cons.mp hleft with ⟨rfl, -⟩
          exact hline.2 (List.mem_append_right t List.mem_cons_self)

/-- A number of which not all digits are read stops the parser. -/
theorem unreadable_number (hformat : FormatsNumbers A) {n : A.Double}
    (hread : ∀ m, jsonParseNumber A (jsonWriteNumber A n) ≠ some (m, [])) :
    Unreadable A depth (.number n) := by
  rcases jsonWriteNumber_chars hformat n with ⟨hne, hchars⟩
  refine ⟨fun indent fuel rest w left hrest hfuel hparse => ?_, fun indent rest => ?_,
    fun indent => ?_⟩
  · rcases fuel with _ | fuel
    · exact absurd hfuel (Nat.not_lt_zero _)
    have happend := @jsonParseNumber_append A _ rest hne hrest.jsonEnds
    rw [jsonWrite] at hparse
    generalize jsonWriteNumber A n = t at hne hchars hread happend hparse
    cases t with
    | nil => exact absurd rfl hne
    | cons c t =>
        have hc := hchars c List.mem_cons_self
        -- `inf` and `nan` begin like no keyword, and all other numbers with a sign or a digit.
        have hfalse := @jsonParseKeyword_number A (text "false") (c :: t) rest (.bool false) (by decide)
          (by decide) hchars hrest
        have hnull := @jsonParseKeyword_number A (text "null") (c :: t) rest .null (by decide)
          (by decide) hchars hrest
        rw [List.cons_append] at happend hfalse hnull hparse
        rw [jsonParseValue, List.dropWhile_cons, if_neg (by simp [hc.isSpace])] at hparse
        simp only [hc.ne (d := 123) (by decide), hc.ne (d := 91) (by decide),
          hc.ne (d := 34) (by decide), hc.ne (d := 116) (by decide), if_false, happend, hfalse, hnull]
          at hparse
        split_ifs at hparse
        · rw [Option.map_map] at hparse
          rcases Option.map_eq_some_iff.mp hparse with ⟨⟨m, more⟩, hmore, heq⟩
          cases heq
          -- What is left of the number comes next.
          cases more with
          | nil => exact absurd hmore (hread m)
          | cons d more =>
              rcases jsonParseNumber_consumes hmore with ⟨before, -, hsplit⟩
              have hd : IsFormatChar d := by
                refine hchars d ?_
                rw [hsplit]
                exact List.mem_append_right before List.mem_cons_self
              exact ⟨d, more ++ rest, rfl, hd.isSpace, hd.ne (by decide), hd.ne (by decide),
                hd.ne (by decide)⟩
  · rw [jsonWrite]
    generalize jsonWriteNumber A n = t at hne hchars
    cases t with
    | nil => exact absurd rfl hne
    | cons c t =>
        have hc := hchars c List.mem_cons_self
        exact jsonParseChar_other hc.isSpace (hc.ne (by decide)) _
  · rw [jsonWrite]
    exact fun hmem => (hchars 0 hmem).ne (d := 0) (by decide) rfl

/-- What is written of a number is read back, or it stops the parser. -/
theorem readsBack_or_unreadable_number (hformat : FormatsNumbers A) (n : A.Double) :
    (∃ m, jsonParseNumber A (jsonWriteNumber A n) = some (m, [])) ∨
      Unreadable A depth (.number n) := by
  by_cases hread : ∃ m, jsonParseNumber A (jsonWriteNumber A n) = some (m, [])
  · exact Or.inl hread
  · exact Or.inr (unreadable_number hformat (not_exists.mp hread))

/-! ## `%g` without rounding -/

namespace ExactFloat

theorem fraction_chars {digits : Text} (h : ∀ c ∈ digits, isDigit c = true) :
    ∀ c ∈ fraction digits, IsFormatChar c := by
  intro c hc
  rw [fraction] at hc
  split at hc
  · cases hc
  · rename_i rest hrest
    rcases List.mem_cons.mp hc with rfl | hc
    · decide
    · have hmem : c ∈ digits.reverse.dropWhile (· == 48) := List.mem_reverse.mp hc
      exact Or.inl (h c (List.mem_reverse.mp ((List.dropWhile_sublist _).mem hmem)))

theorem formatPositive_chars (x : ℚ) :
    formatPositive x ≠ [] ∧ ∀ c ∈ formatPositive x, IsFormatChar c := by
  rcases significant_digits x with ⟨hne, hdigits⟩
  have htake : ∀ k, ∀ c ∈ (significant x).1.take k, IsFormatChar c := fun k c hc =>
    Or.inl (hdigits c (List.mem_of_mem_take hc))
  have hdrop : ∀ k, ∀ c ∈ fraction ((significant x).1.drop k), IsFormatChar c := fun k =>
    fraction_chars fun c hc => hdigits c (List.mem_of_mem_drop hc)
  have hexponent : ∀ c ∈ [101, if (significant x).2 < 0 then (45 : UInt8) else 43],
      IsFormatChar c := by
    rw [List.forall_mem_cons, List.forall_mem_singleton]
    split_ifs
    · decide
    · decide
  rw [formatPositive]
  simp only
  by_cases hsmall : -4 ≤ (significant x).2 ∧ (significant x).2 < 0
  · rw [if_pos hsmall]
    refine ⟨List.cons_ne_nil _ _, fun c hc => ?_⟩
    rcases List.mem_cons.mp hc with rfl | hc
    · decide
    · refine fraction_chars (fun d hd => ?_) c hc
      rcases List.mem_append.mp hd with hzero | hd
      · rw [List.eq_of_mem_replicate hzero]
        decide
      · exact hdigits d hd
  rw [if_neg hsmall]
  by_cases hplain : 0 ≤ (significant x).2 ∧ (significant x).2 < 6
  · rw [if_pos hplain]
    refine ⟨fun hempty => ?_, fun c hc => ?_⟩
    · rcases List.append_eq_nil_iff.mp hempty with ⟨hnone, -⟩
      rcases List.take_eq_nil_iff.mp hnone with hzero | hnil
      · exact absurd hzero (Nat.succ_ne_zero _)
      · exact hne hnil
    · rcases List.mem_append.mp hc with hc | hc
      · exact htake _ c hc
      · exact hdrop _ c hc
  rw [if_neg hplain]
  refine ⟨fun hempty => ?_, fun c hc => ?_⟩
  · rcases List.append_eq_nil_iff.mp hempty with ⟨hletter, -⟩
    rcases List.append_eq_nil_iff.mp hletter with ⟨-, hletter⟩
    cases hletter
  rcases List.mem_append.mp hc with hc | hc
  · rcases List.mem_append.mp hc with hc | hc
    · rcases List.mem_append.mp hc with hc | hc
      · exact htake 1 c hc
      · exact hdrop 1 c hc
    · exact hexponent c hc
  -- An exponent has two digits at least.
  · split_ifs at hc
    · rcases List.mem_cons.mp hc with rfl | hc
      · decide
      · exact Or.inl (printNat_isDigit _ c hc)
    · exact Or.inl (printNat_isDigit _ c hc)

theorem formatG_chars (x : ℚ) : formatG x ≠ [] ∧ ∀ c ∈ formatG x, IsFormatChar c := by
  rw [formatG]
  split_ifs
  · exact ⟨List.cons_ne_nil _ _, List.forall_mem_singleton.mpr (by decide)⟩
  · refine ⟨List.cons_ne_nil _ _, fun c hc => ?_⟩
    rcases List.mem_cons.mp hc with rfl | hc
    · decide
    · exact (formatPositive_chars (-x)).2 c hc
  · exact formatPositive_chars x

end ExactFloat

/-- The exact numbers are printed as `printf` does. -/
theorem formatsNumbers_exactFloat : FormatsNumbers exactFloat :=
  ExactFloat.formatG_chars

end MagiStack
