import MagiStack.Core.FormatG
import MagiStack.Utils.LoaderRoundTrip

/-!
# JsonNumbers — which printed numbers are read again

Numbers are exact here, and `%g` prints six digits of those that no `long long` is equal to.  The parser
reads no exponent, so that exactly the numbers printed without one are read, as the decimal number that was
printed; one other number is enough for a text not to be parsed, and for a saved topology not to be loaded.
-/

namespace MagiStack

open ExactFloat

/-! ## Exact numbers -/

/-- A value of `long long`. -/
def IsLongLong (x : ℚ) : Prop :=
  x.den = 1 ∧ -2 ^ 63 ≤ x.num ∧ x.num < 2 ^ 63

instance (x : ℚ) : Decidable (IsLongLong x) :=
  inferInstanceAs (Decidable (_ ∧ _))

theorem if_tdiv_ofInt {a : Int} (h : ExactInt a) (other : Int) :
    (if -2 ^ 63 ≤ (a : ℚ).num.tdiv (a : ℚ).den ∧ (a : ℚ).num.tdiv (a : ℚ).den < 2 ^ 63 then
      (a : ℚ).num.tdiv (a : ℚ).den else other) = a := by
  obtain ⟨hlow, hhigh⟩ := h
  simp only [Rat.num_intCast, Rat.den_intCast, Nat.cast_one, Int.tdiv_one]
  rw [if_pos ⟨by omega, by omega⟩]

/-- Arithmetic on rationals.  The conversion to `long long` of a number outside its range is not defined: it
may give any value of that type. -/
def rationalFloat (outside : ℚ → BitVec 64) : CFloat :=
  { exactFloat with
    toLongLong := fun x : ℚ =>
      if -2 ^ 63 ≤ x.num.tdiv x.den ∧ x.num.tdiv x.den < 2 ^ 63 then x.num.tdiv x.den
      else (outside x).toInt
    toLongLong_ofInt := fun ha => if_tdiv_ofInt ha _ }

/-- The decimal number that `json_write` prints. -/
def printedValue (x : ℚ) : ℚ :=
  if IsLongLong x then x
  else if x < 0 then -decimalValue (significant (-x))
  else decimalValue (significant x)

/-- The number is printed without an exponent. -/
def PrintsPlain (x : ℚ) : Prop :=
  IsLongLong x ∨ IsPlain |x|

instance (x : ℚ) : Decidable (PrintsPlain x) :=
  inferInstanceAs (Decidable (_ ∨ _))

section Numbers

variable {outside : ℚ → BitVec 64}

/-- `%lld` is used for values of `long long` only, whatever the conversion gives outside. -/
theorem jsonWriteNumber_rational (outside : ℚ → BitVec 64) (x : ℚ) :
    jsonWriteNumber (rationalFloat outside) x = if IsLongLong x then printInt x.num else formatG x := by
  have hrange : -2 ^ 63 ≤ (rationalFloat outside).toLongLong x ∧
      (rationalFloat outside).toLongLong x < 2 ^ 63 := by
    simp only [rationalFloat]
    split_ifs with h
    · exact h
    · exact ⟨(outside x).le_toInt, (outside x).toInt_lt⟩
  unfold jsonWriteNumber
  by_cases hx : IsLongLong x
  · have hconverted : (rationalFloat outside).toLongLong x = x.num := by
      obtain ⟨hden, hnum⟩ := hx
      simp only [rationalFloat, hden, Nat.cast_one, Int.tdiv_one, hnum, and_self, if_true]
    have hequal : (rationalFloat outside).equal x
        ((rationalFloat outside).ofInt ((rationalFloat outside).toLongLong x)) = true := by
      rw [hconverted]
      exact beq_iff_eq.mpr (Rat.coe_int_num_of_den_eq_one hx.1).symm
    rw [if_pos hequal, if_pos hx, hconverted]
  · have hequal : ¬ (rationalFloat outside).equal x
        ((rationalFloat outside).ofInt ((rationalFloat outside).toLongLong x)) = true := by
      intro heq
      have hint : x = ((rationalFloat outside).toLongLong x : ℤ) := beq_iff_eq.mp heq
      refine hx ?_
      rw [hint]
      exact ⟨Rat.den_intCast _, by rw [Rat.num_intCast]; exact hrange⟩
    rw [if_neg hequal, if_neg hx]
    rfl

/-! ## Reading -/

theorem jsonDigits_rational (digits : Text) :
    jsonDigits (rationalFloat outside) digits = (digitsValue digits : ℚ) := by
  have hsum : digits.foldl (fun (num : ℚ) c => num * ((10 : ℤ) : ℚ) + ((digitValue c : ℤ) : ℚ))
      ((0 : ℤ) : ℚ) = digitsValue digits := by
    induction digits using List.reverseRecOn with
    | nil => rfl
    | append_singleton digits c ih =>
        rw [List.foldl_append, ih, digitsValue_append]
        push_cast
        rfl
  exact hsum

theorem jsonDivisor_rational (digits : Text) :
    jsonDivisor (rationalFloat outside) digits = (10 : ℚ) ^ digits.length := by
  have hproduct : digits.foldl (fun (div : ℚ) _ => div * ((10 : ℤ) : ℚ)) ((1 : ℤ) : ℚ) =
      (10 : ℚ) ^ digits.length := by
    induction digits using List.reverseRecOn with
    | nil => rfl
    | append_singleton digits c ih =>
        rw [List.foldl_append, ih, List.length_append, List.length_singleton, pow_succ]
        rfl
  exact hproduct

/-- A whole part, and a fraction part where there is one. -/
theorem jsonParseUnsigned_plain {whole frac : Text} (hne : whole ≠ [])
    (hwhole : ∀ c ∈ whole, isDigit c = true) (hfrac : ∀ c ∈ frac, isDigit c = true) :
    jsonParseUnsigned (rationalFloat outside) (whole ++ fraction frac) =
      some (((digitsValue whole : ℚ) + fractionValue frac : ℚ), []) := by
  obtain ⟨hnone, hzero⟩ | ⟨kept, hkept, hdigits, hvalue⟩ := fraction_spec frac hfrac
  · have hread := @jsonParseUnsigned_whole (rationalFloat outside) whole [] hne hwhole fun _ hc => nomatch hc
    rw [hnone, hzero, add_zero, hread, jsonDigits_rational]
    rfl
  · have hend : DigitsEnd (46 :: kept) := DigitsEnd.cons (by decide) kept
    obtain ⟨htake, hdrop⟩ := hend.span hwhole
    rw [hkept, ← hvalue, jsonParseUnsigned, htake, hdrop]
    cases whole with
    | nil => exact absurd rfl hne
    | cons digit whole =>
        simp only [List.takeWhile_eq_self_iff.mpr hdigits, List.dropWhile_eq_nil_iff.mpr hdigits,
          jsonDigits_rational, jsonDivisor_rational]
        rfl

/-- A number that is not zero starts with a digit, or with a minus before one. -/
theorem jsonParseNumber_signed {t : Text} {x : ℚ}
    (hread : jsonParseUnsigned (rationalFloat outside) t = some (x, [])) :
    jsonParseNumber (rationalFloat outside) t = some (x, []) ∧
      jsonParseNumber (rationalFloat outside) (45 :: t) = some ((-x : ℚ), []) := by
  constructor
  · rw [jsonParseNumber_unsigned, hread]
    rintro rest rfl
    obtain ⟨⟨c, hc, hdigit⟩, -⟩ := jsonParseUnsigned_chars hread
    cases hc
    exact absurd hdigit (by decide)
  · rw [jsonParseNumber_negative, hread]
    rfl

/-- What is printed without an exponent is read as the decimal number it is. -/
theorem jsonParseNumber_plain {x : ℚ} (h : PrintsPlain x) :
    jsonParseNumber (rationalFloat outside) (jsonWriteNumber (rationalFloat outside) x) =
      some (printedValue x, []) := by
  rw [jsonWriteNumber_rational, printedValue]
  -- Integers are printed by `%lld`, all other numbers by `%g`; either way the sign is read first.
  by_cases hx : IsLongLong x
  · rw [if_pos hx, if_pos hx]
    have hvalue : (x.num : ℚ) = x := Rat.coe_int_num_of_den_eq_one hx.1
    have hnat : ∀ n : ℕ, jsonParseUnsigned (rationalFloat outside) (printNat n) = some ((n : ℚ), []) := by
      intro n
      have hread := @jsonParseUnsigned_whole (rationalFloat outside) (printNat n) [] (printNat_ne_nil n)
        (printNat_isDigit n) fun _ hc => nomatch hc
      rw [List.append_nil] at hread
      rw [hread, jsonDigits_rational, digitsValue_printNat]
      rfl
    cases hnum : x.num with
    | ofNat n =>
        refine (jsonParseNumber_signed (hnat n)).1.trans ?_
        rw [← hvalue, hnum]
        rfl
    | negSucc n =>
        refine (jsonParseNumber_signed (hnat (n + 1))).2.trans ?_
        rw [← hvalue, hnum, Int.cast_negSucc]
  · have hplain := h.resolve_left hx
    have hne : x ≠ 0 := by
      rintro rfl
      exact hx ⟨rfl, by decide, by decide⟩
    rw [if_neg hx, if_neg hx, formatG, if_neg hne]
    by_cases hneg : x < 0
    · rw [if_pos hneg, if_pos hneg]
      rw [abs_of_neg hneg] at hplain
      obtain ⟨whole, frac, htext, hwhole, hdigits, hfrac, hvalue⟩ :=
        formatPositive_plain (neg_pos.mpr hneg) hplain
      rw [htext, ← hvalue]
      exact (jsonParseNumber_signed (jsonParseUnsigned_plain hwhole hdigits hfrac)).2
    · have hpos : 0 < x := lt_of_le_of_ne (not_lt.mp hneg) hne.symm
      rw [if_neg hneg, if_neg hneg]
      rw [abs_of_pos hpos] at hplain
      obtain ⟨whole, frac, htext, hwhole, hdigits, hfrac, hvalue⟩ := formatPositive_plain hpos hplain
      rw [htext, ← hvalue]
      exact (jsonParseNumber_signed (jsonParseUnsigned_plain hwhole hdigits hfrac)).1

/-- The letter of an exponent is not read. -/
theorem jsonParseNumber_exponent {x : ℚ} (h : ¬ PrintsPlain x) (y : ℚ) :
    jsonParseNumber (rationalFloat outside) (jsonWriteNumber (rationalFloat outside) x) ≠ some (y, []) := by
  intro hread
  have hletter : (101 : UInt8) ∈ jsonWriteNumber (rationalFloat outside) x := by
    have hx : ¬ IsLongLong x := fun hx => h (Or.inl hx)
    have hplain : ¬ IsPlain |x| := fun hx => h (Or.inr hx)
    rw [jsonWriteNumber_rational, if_neg hx, formatG]
    split_ifs with hzero hneg
    · rw [hzero] at hx
      exact absurd ⟨rfl, by decide, by decide⟩ hx
    · rw [abs_of_neg hneg] at hplain
      exact List.mem_cons_of_mem 45 (formatPositive_exponent hplain)
    · rw [abs_of_nonneg (not_lt.mp hneg)] at hplain
      exact formatPositive_exponent hplain
  exact absurd ((jsonParseNumber_chars hread).2 101 hletter) (by unfold IsNumberChar; decide)

/-- A number starts with a minus or a digit. -/
theorem jsonWriteNumber_start (outside : ℚ → BitVec 64) (x : ℚ) :
    ∃ c t, jsonWriteNumber (rationalFloat outside) x = c :: t ∧ (c = 45 ∨ isDigit c = true) := by
  have hnat : ∀ n : ℕ, ∃ c t, printNat n = c :: t ∧ isDigit c = true := by
    intro n
    obtain ⟨c, t, htext⟩ := List.exists_cons_of_ne_nil (printNat_ne_nil n)
    exact ⟨c, t, htext, printNat_isDigit n c (htext ▸ List.mem_cons_self)⟩
  rw [jsonWriteNumber_rational, formatG]
  split_ifs
  · cases x.num with
    | ofNat n =>
        obtain ⟨c, t, htext, hdigit⟩ := hnat n
        exact ⟨c, t, htext, Or.inr hdigit⟩
    | negSucc n => exact ⟨45, _, rfl, Or.inl rfl⟩
  · exact ⟨48, [], rfl, Or.inr (by decide)⟩
  · exact ⟨45, _, rfl, Or.inl rfl⟩
  · obtain ⟨c, t, htext, hdigit⟩ := formatPositive_start x
    exact ⟨c, t, htext, Or.inr hdigit⟩

theorem formatsNumbers_rational (outside : ℚ → BitVec 64) : FormatsNumbers (rationalFloat outside) :=
  formatG_chars

end Numbers

/-! ## Trees -/

section Trees

variable {A : CFloat}

/-- A tree that the constructors make: strings and keys within their arrays, and items with room for them. -/
inductive JsonFormed {Double : Type} : JsonValue Double → Prop
  | object {members : List (Text × JsonValue Double)}
      (hkeys : ∀ member ∈ members, member.1.length < jsonMaxString ∧ 0 ∉ member.1)
      (hvalues : ∀ member ∈ members, JsonFormed member.2) : JsonFormed (.object members)
  | array {items : List (JsonValue Double)} (hlength : items.length ≤ jsonMaxArray)
      (hitems : ∀ item ∈ items, JsonFormed item) : JsonFormed (.array items)
  | string {s : Text} (hlength : s.length < jsonMaxString) (hclean : 0 ∉ s) : JsonFormed (.string s)
  | number (n : Double) : JsonFormed (.number n)
  | bool (b : Bool) : JsonFormed (.bool b)
  | null : JsonFormed .null

/-- All numbers of the tree are such, and it is nested at most so many levels deep. -/
inductive JsonReadable {Double : Type} (plain : Double → Prop) : Nat → JsonValue Double → Prop
  | object {levels : Nat} {members : List (Text × JsonValue Double)}
      (hvalues : ∀ member ∈ members, JsonReadable plain levels member.2) :
      JsonReadable plain (levels + 1) (.object members)
  | array {levels : Nat} {items : List (JsonValue Double)}
      (hitems : ∀ item ∈ items, JsonReadable plain levels item) :
      JsonReadable plain (levels + 1) (.array items)
  | string {levels : Nat} (s : Text) : JsonReadable plain levels (.string s)
  | number {levels : Nat} {n : Double} (hn : plain n) : JsonReadable plain levels (.number n)
  | bool {levels : Nat} (b : Bool) : JsonReadable plain levels (.bool b)
  | null {levels : Nat} : JsonReadable plain levels .null

/-- The same tree, with what was printed of each number. -/
inductive JsonPrinted {Double : Type} (printed : Double → Double) : JsonValue Double → JsonValue Double → Prop
  | object {members members' : List (Text × JsonValue Double)}
      (hkeys : members.map Prod.fst = members'.map Prod.fst)
      (hvalues : List.Forall₂ (JsonPrinted printed) (members.map Prod.snd) (members'.map Prod.snd)) :
      JsonPrinted printed (.object members) (.object members')
  | array {items items' : List (JsonValue Double)}
      (hitems : List.Forall₂ (JsonPrinted printed) items items') :
      JsonPrinted printed (.array items) (.array items')
  | string (s : Text) : JsonPrinted printed (.string s) (.string s)
  | number (n : Double) : JsonPrinted printed (.number n) (.number (printed n))
  | bool (b : Bool) : JsonPrinted printed (.bool b) (.bool b)
  | null : JsonPrinted printed .null .null

/-- What is written is a C string. -/
theorem JsonFormed.clean (hformat : FormatsNumbers A) {v : JsonValue A.Double} (h : JsonFormed v) :
    ∀ indent, 0 ∉ jsonWrite A v indent := by
  induction h with
  | object hkeys _ ih => exact zero_notMem_object fun m hm => ⟨(hkeys m hm).2, ih m hm⟩
  | array _ _ ih => exact zero_notMem_array ih
  | string hlength hclean => exact (readsBack_string hlength hclean : ReadsBack A 0 _ _).clean
  | number n =>
      intro indent hmem
      rw [jsonWrite] at hmem
      exact ((jsonWriteNumber_chars hformat n).2 0 hmem).ne (d := 0) (by decide) rfl
  | bool b => exact (readsBack_bool b : ReadsBack A 0 _ _).clean
  | null => exact (readsBack_null : ReadsBack A 0 _ _).clean

/-- As `Unreadable`, also where nothing follows. -/
structure Stops (A : CFloat) (depth : Nat) (v : JsonValue A.Double) : Prop extends Unreadable A depth v where
  alone : ∀ indent fuel w left, 2 * (jsonWrite A v indent).length < fuel →
    jsonParseValue A fuel depth (jsonWrite A v indent) = some (w, left) →
    left.dropWhile isSpace ≠ []

/-- At the deepest level the parser reads no array and no object. -/
theorem stops_deep (hformat : FormatsNumbers A) {v : JsonValue A.Double} (h : JsonFormed v)
    (hnested : (∃ items, v = .array items) ∨ ∃ members, v = .object members) :
    Stops A jsonMaxDepth v := by
  -- The text opens with a bracket or a brace, which the parser refuses at this depth.
  have htext : ∀ indent, ∃ c t, jsonWrite A v indent = c :: t ∧ (c = 91 ∨ c = 123) := by
    intro indent
    rcases hnested with ⟨items, rfl⟩ | ⟨members, rfl⟩
    · cases items with
      | nil => exact ⟨91, _, by rw [jsonWrite], Or.inl rfl⟩
      | cons item items => exact ⟨91, _, by rw [jsonWrite]; rfl, Or.inl rfl⟩
    · exact ⟨123, _, by rw [jsonWrite]; rfl, Or.inr rfl⟩
  have hparse : ∀ indent fuel rest,
      jsonParseValue A fuel jsonMaxDepth (jsonWrite A v indent ++ rest) = none := by
    intro indent fuel rest
    obtain ⟨c, t, hwrite, hopen⟩ := htext indent
    rcases fuel with _ | fuel
    · rfl
    rw [hwrite, List.cons_append, jsonParseValue, List.dropWhile_cons]
    rcases hopen with rfl | rfl
    · simp [isSpace]
    · simp [isSpace]
  refine { stuck := ?_, not_closing := ?_, clean := h.clean hformat, alone := ?_ }
  · intro indent fuel rest w left _ _ hsome
    cases (hparse indent fuel rest).symm.trans hsome
  · intro indent rest
    obtain ⟨c, t, hwrite, hopen⟩ := htext indent
    rw [hwrite, List.cons_append]
    rcases hopen with rfl | rfl
    · exact jsonParseChar_other (by decide) (by decide) _
    · exact jsonParseChar_other (by decide) (by decide) _
  · intro indent fuel w left _ hsome
    rw [← List.append_nil (jsonWrite A v indent)] at hsome
    cases (hparse indent fuel []).symm.trans hsome

/-- Which numbers are read, and as what. -/
structure NumbersRead (A : CFloat) (plain : A.Double → Prop) (printed : A.Double → A.Double) : Prop where
  format : FormatsNumbers A
  start : ∀ n, ∃ c t, jsonWriteNumber A n = c :: t ∧ (c = 45 ∨ isDigit c = true)
  read : ∀ n, plain n → jsonParseNumber A (jsonWriteNumber A n) = some (printed n, [])
  stuck : ∀ n, ¬ plain n → ∀ m, jsonParseNumber A (jsonWriteNumber A n) ≠ some (m, [])

variable {plain : A.Double → Prop} {printed : A.Double → A.Double}

theorem stops_number (hread : NumbersRead A plain printed) {n : A.Double} (hn : ¬ plain n) (depth : Nat) :
    Stops A depth (.number n) := by
  refine { unreadable_number hread.format (hread.stuck n hn) with alone := ?_ }
  intro indent fuel w left hfuel hparse
  rcases fuel with _ | fuel
  · exact absurd hfuel (Nat.not_lt_zero _)
  obtain ⟨c, t, htext, hstart⟩ := hread.start n
  obtain ⟨hspace, hobject, harray, hstring⟩ := numberStart hstart
  have hstuck := hread.stuck n hn
  have hchars := (jsonWriteNumber_chars hread.format n).2
  rw [jsonWrite] at hparse
  rw [htext] at hparse hstuck hchars
  rw [jsonParseValue, List.dropWhile_cons, if_neg (by simp [hspace])] at hparse
  simp only [hobject, harray, hstring, hstart, if_false, if_true] at hparse
  obtain ⟨⟨m, more⟩, hmore, heq⟩ := Option.map_eq_some_iff.mp hparse
  cases heq
  -- Something of the number is left.
  cases more with
  | nil => exact absurd hmore (hstuck m)
  | cons d more =>
      obtain ⟨before, -, hsplit⟩ := jsonParseNumber_consumes hmore
      have hd : IsFormatChar d := hchars d (hsplit ▸ List.mem_append_right before List.mem_cons_self)
      rw [List.dropWhile_cons, if_neg (by simp [hd.isSpace])]
      exact List.cons_ne_nil d more

theorem stops_array {depth : Nat} {items : List (JsonValue A.Double)} (hlength : items.length ≤ jsonMaxArray)
    (h : ∀ item ∈ items, (∃ w, ReadsBack A (depth + 1) item w) ∨ Unreadable A (depth + 1) item)
    (hbad : ∃ item ∈ items, Unreadable A (depth + 1) item) : Stops A depth (.array items) := by
  refine { unreadable_array hlength h hbad with alone := fun indent fuel w left hfuel hparse => ?_ }
  rw [← List.append_nil (jsonWrite A (.array items) indent)] at hfuel hparse
  rw [jsonParseValue_array_unreadable hlength h hbad indent hfuel] at hparse
  cases hparse

theorem stops_object {depth : Nat} {members : List (Text × JsonValue A.Double)}
    (h : ∀ m ∈ members, (∃ m', MemberReadsBack A (depth + 1) m m') ∨ MemberUnreadable A (depth + 1) m)
    (hbad : ∃ m ∈ members, MemberUnreadable A (depth + 1) m) : Stops A depth (.object members) := by
  refine { unreadable_object h hbad with alone := fun indent fuel w left hfuel hparse => ?_ }
  rw [← List.append_nil (jsonWrite A (.object members) indent)] at hfuel hparse
  rw [jsonParseValue_object_unreadable h hbad indent hfuel] at hparse
  cases hparse

/-- A tree is read back, or it stops the parser, by induction on the tree. -/
theorem JsonFormed.readsBack_or_unreadable (hread : NumbersRead A plain printed) {v : JsonValue A.Double}
    (h : JsonFormed v) {depth levels : Nat} (hdepth : depth + levels = jsonMaxDepth) :
    (JsonReadable plain levels v → ∃ w, ReadsBack A depth v w ∧ JsonPrinted printed v w) ∧
      (¬ JsonReadable plain levels v → Stops A depth v) := by
  induction h generalizing depth levels with
  | @object members hkeys hvalues ih =>
      rcases levels with _ | levels
      · -- The parser is as deep as it goes.
        refine ⟨fun h => (nomatch h), fun _ => ?_⟩
        rw [Nat.add_zero] at hdepth
        rw [hdepth]
        exact stops_deep hread.format (.object hkeys hvalues) (Or.inr ⟨members, rfl⟩)
      have hnext : depth + 1 + levels = jsonMaxDepth := by omega
      have hmember : ∀ m ∈ members, JsonReadable plain levels m.2 →
          ∃ m', MemberReadsBack A (depth + 1) m m' ∧ m.1 = m'.1 ∧ JsonPrinted printed m.2 m'.2 := by
        intro m hm hvalue
        obtain ⟨w, hback, hprinted⟩ := (ih m hm hnext).1 hvalue
        exact ⟨(m.1, w), ⟨rfl, (hkeys m hm).1, (hkeys m hm).2, hback⟩, rfl, hprinted⟩
      constructor
      · rintro (⟨hall⟩ | _)
        obtain ⟨members', hback⟩ := exists_forall₂ fun m hm => hmember m hm (hall m hm)
        refine ⟨.object members', readsBack_object (by omega) (hback.imp fun _ _ h => h.1), .object ?_ ?_⟩
        · rw [← List.forall₂_eq_eq_eq, List.forall₂_map_left_iff, List.forall₂_map_right_iff]
          exact hback.imp fun _ _ h => h.2.1
        · rw [List.forall₂_map_left_iff, List.forall₂_map_right_iff]
          exact hback.imp fun _ _ h => h.2.2
      · intro hnot
        -- The members before the first that is not read are passed over.
        have hbad : ∃ m ∈ members, ¬ JsonReadable plain levels m.2 := by
          by_contra hnone
          exact hnot (.object fun m hm => by_contra fun hm' => hnone ⟨m, hm, hm'⟩)
        refine stops_object (fun m hm => ?_) ?_
        · by_cases hvalue : JsonReadable plain levels m.2
          · obtain ⟨m', hback, -⟩ := hmember m hm hvalue
            exact Or.inl ⟨m', hback⟩
          · exact Or.inr ⟨(hkeys m hm).1, (hkeys m hm).2, ((ih m hm hnext).2 hvalue).toUnreadable⟩
        · obtain ⟨m, hm, hvalue⟩ := hbad
          exact ⟨m, hm, (hkeys m hm).1, (hkeys m hm).2, ((ih m hm hnext).2 hvalue).toUnreadable⟩
  | @array items hlength hitems ih =>
      rcases levels with _ | levels
      · refine ⟨fun h => (nomatch h), fun _ => ?_⟩
        rw [Nat.add_zero] at hdepth
        rw [hdepth]
        exact stops_deep hread.format (.array hlength hitems) (Or.inl ⟨items, rfl⟩)
      have hnext : depth + 1 + levels = jsonMaxDepth := by omega
      constructor
      · rintro (_ | ⟨hall⟩)
        obtain ⟨items', hback⟩ := exists_forall₂ fun item hitem => (ih item hitem hnext).1 (hall item hitem)
        exact ⟨.array items', readsBack_array (by omega) hlength (hback.imp fun _ _ h => h.1),
          .array (hback.imp fun _ _ h => h.2)⟩
      · intro hnot
        have hbad : ∃ item ∈ items, ¬ JsonReadable plain levels item := by
          by_contra hnone
          exact hnot (.array fun item hitem => by_contra fun hitem' => hnone ⟨item, hitem, hitem'⟩)
        refine stops_array hlength (fun item hitem => ?_) ?_
        · by_cases hitem' : JsonReadable plain levels item
          · obtain ⟨w, hback, -⟩ := (ih item hitem hnext).1 hitem'
            exact Or.inl ⟨w, hback⟩
          · exact Or.inr ((ih item hitem hnext).2 hitem').toUnreadable
        · obtain ⟨item, hitem, hitem'⟩ := hbad
          exact ⟨item, hitem, ((ih item hitem hnext).2 hitem').toUnreadable⟩
  | string hlength hclean =>
      exact ⟨fun _ => ⟨_, readsBack_string hlength hclean, .string _⟩, fun hnot => absurd (.string _) hnot⟩
  | number n =>
      constructor
      · rintro (_ | _ | _ | hn)
        exact ⟨_, readsBack_number (hread.read n hn), .number n⟩
      · intro hnot
        exact stops_number hread (fun hn => hnot (.number hn)) depth
  | bool b => exact ⟨fun _ => ⟨_, readsBack_bool b, .bool b⟩, fun hnot => absurd (.bool b) hnot⟩
  | null => exact ⟨fun _ => ⟨_, readsBack_null, .null⟩, fun hnot => absurd .null hnot⟩

/-- One number that is not read, and none of the text is parsed. -/
theorem JsonFormed.jsonParse_eq_none (hread : NumbersRead A plain printed) {v : JsonValue A.Double}
    (h : JsonFormed v) (hnot : ¬ JsonReadable plain jsonMaxDepth v) (indent : Int) :
    jsonParse A (jsonWrite A v indent) = none := by
  have hstops := (h.readsBack_or_unreadable hread (Nat.zero_add jsonMaxDepth)).2 hnot
  rw [jsonParse]
  split
  · rfl
  · -- Should a value have been read, there is text left behind it.
    rename_i value rest hvalue
    exact if_neg (hstops.alone indent _ value rest (Nat.lt_succ_self _) hvalue)

/-- The text of a tree is parsed to what was printed exactly when all its numbers are read. -/
theorem JsonFormed.jsonParse_iff (hread : NumbersRead A plain printed) {v : JsonValue A.Double}
    (h : JsonFormed v) (indent : Int) :
    (∃ w, jsonParse A (jsonWrite A v indent) = some w ∧ JsonPrinted printed v w) ↔
      JsonReadable plain jsonMaxDepth v := by
  constructor
  · rintro ⟨w, hparse, -⟩
    by_contra hnot
    rw [h.jsonParse_eq_none hread hnot] at hparse
    cases hparse
  · intro hreadable
    obtain ⟨w, hback, hprinted⟩ := (h.readsBack_or_unreadable hread (Nat.zero_add jsonMaxDepth)).1 hreadable
    have hparse : jsonParse A (jsonWrite A v indent ++ []) = some _ :=
      jsonParse_write hback indent fun c hc => by cases hc
    rw [List.append_nil] at hparse
    exact ⟨w, hparse, hprinted⟩

end Trees

/-! ## Saved topologies -/

theorem numbersRead_rational (outside : ℚ → BitVec 64) :
    NumbersRead (rationalFloat outside) PrintsPlain printedValue where
  format := formatsNumbers_rational outside
  start := jsonWriteNumber_start outside
  read := fun _ => jsonParseNumber_plain
  stuck := fun _ => jsonParseNumber_exponent

/-- A saved topology is loaded exactly when its names differ and all its delays are printed plainly. -/
theorem simulatorLoad_saved_iff {outside : ℚ → BitVec 64} {s : Simulator (rationalFloat outside)}
    (hok : TopologyOk s) {alloc : Nat → Option Nat} (hmemory : EnoughMemory alloc)
    (before : Simulator (rationalFloat outside)) :
    (∃ s', simulatorLoad alloc before (simulatorSave s) = .ok s') ↔
      (s.nodes.map SimulatorNodeEntry.name).Nodup ∧ ∀ i, i < s.linkCount → PrintsPlain (s.links i).delay := by
  have hread := numbersRead_rational outside
  have hloaded : (∀ i, i < s.linkCount → PrintsPlain (s.links i).delay) →
      simulatorLoad alloc before (simulatorSave s) =
        loadRoot alloc before (savedRoot s fun i => printedValue (s.links i).delay) :=
    fun hplain => simulatorLoad_read hok (fun i hi => hread.read _ (hplain i hi)) alloc before
  constructor
  · rintro ⟨s', hload⟩
    have hplain : ∀ i, i < s.linkCount → PrintsPlain (s.links i).delay := by
      intro i hi
      by_contra hnot
      rw [simulatorLoad_unreadable hok hread.format hi (hread.stuck _ hnot)] at hload
      cases hload
    rw [hloaded hplain] at hload
    exact ⟨names_nodup_of_loaded hok hload, hplain⟩
  · rintro ⟨hnames, hplain⟩
    obtain ⟨loaded, -, hroot⟩ := loadRoot_saved hmemory hok hnames before
      (linksInFile_length hok fun i => printedValue (s.links i).delay)
    exact ⟨_, (hloaded hplain).trans hroot⟩

/-- The text of a tree is parsed, to the decimal numbers that were printed, exactly when the tree is not
nested too deep and none of its numbers is printed with an exponent.  A saved topology is loaded exactly
when its names differ and none of its delays is. -/
theorem json_numbersReadable_iff (outside : ℚ → BitVec 64) :
    (∀ v : JsonValue (rationalFloat outside).Double, JsonFormed v → ∀ indent,
      ((∃ w, jsonParse (rationalFloat outside) (jsonWrite (rationalFloat outside) v indent) = some w ∧
          JsonPrinted printedValue v w) ↔ JsonReadable PrintsPlain jsonMaxDepth v)) ∧
    ∀ heap links (actions : List (TopologyAction (rationalFloat outside))) alloc
      (before : Simulator (rationalFloat outside)), EnoughMemory alloc →
      let s := (simulatorInit heap links).topologyRun actions
      ((∃ s', simulatorLoad alloc before (simulatorSave s) = .ok s') ↔
        (s.nodes.map SimulatorNodeEntry.name).Nodup ∧
          ∀ i, i < s.linkCount → PrintsPlain (s.links i).delay) :=
  ⟨fun _ h indent => h.jsonParse_iff (numbersRead_rational outside) indent,
    fun heap links actions _ before hmemory =>
      simulatorLoad_saved_iff (topologyOk_run heap links actions) hmemory before⟩

/-- A delay in an object, as in a saved link. -/
def delayObject (delay : ℚ) : JsonValue ℚ :=
  .object [(text "delay", .number delay)]

theorem delayObject_formed (delay : ℚ) : JsonFormed (delayObject delay) := by
  have hkey : (text "delay").length < jsonMaxString ∧ 0 ∉ text "delay" := by decide
  refine .object (List.forall_mem_singleton.mpr hkey) (List.forall_mem_singleton.mpr ?_)
  exact .number delay

theorem json_numbersReadable_iff_plain :
    ∃ w, jsonParse (rationalFloat fun _ => 0) (jsonWrite (rationalFloat fun _ => 0) (delayObject (5 / 2)) 0) =
      some w ∧ JsonPrinted printedValue (delayObject (5 / 2)) w := by
  refine ((json_numbersReadable_iff fun _ => 0).1 _ (delayObject_formed (5 / 2)) 0).mpr ?_
  refine .object (List.forall_mem_singleton.mpr (.number ?_))
  exact of_decide_eq_true (by decide +kernel)

/-- A hundredth of a microsecond is printed as `1e-05`, of which the parser reads the `1`. -/
theorem json_numbersReadable_iff_small :
    jsonParse (rationalFloat fun _ => 0) (jsonWrite (rationalFloat fun _ => 0) (delayObject (1 / 100000)) 0) =
      none := by
  have hexponent : ¬ PrintsPlain (1 / 100000) := of_decide_eq_true (by decide +kernel)
  refine (delayObject_formed (1 / 100000)).jsonParse_eq_none (numbersRead_rational fun _ => 0) ?_ 0
  rintro (⟨hvalues⟩ | _)
  rcases hvalues _ (List.mem_singleton_self _) with _ | _ | _ | hplain
  exact hexponent hplain

end MagiStack
