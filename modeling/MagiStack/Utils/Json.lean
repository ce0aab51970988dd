import MagiStack.Core.CFloat
import Mathlib.Data.List.TakeWhile

/-!
# Json — the writer and the parser of topology files

Embedding of `utils/json.c`.  The parser's position is the text that is left.  Its recursion is on fuel:
two for each character of the text and one more never run out.
-/

namespace MagiStack

def jsonMaxString : Nat := 2048
def jsonMaxArray : Nat := 256
def jsonMaxDepth : Nat := 32

/-- `JsonValue`. -/
inductive JsonValue (Double : Type)
  | object (members : List (Text × JsonValue Double))
  | array (items : List (JsonValue Double))
  | string (s : Text)
  | number (n : Double)
  | bool (b : Bool)
  | null

/-! ## Building and looking up -/

section Values

variable {Double : Type}

/-- `json_create_string`. -/
def jsonCreateString (s : Text) : JsonValue Double :=
  .string (strncpyTerminated s jsonMaxString)

/-- `json_object_add`. -/
def jsonObjectAdd (obj : JsonValue Double) (key : Text) (value : JsonValue Double) :
    JsonValue Double :=
  match obj with
  | .object members => .object (members ++ [(strncpyTerminated key jsonMaxString, value)])
  | other => other

/-- `json_array_add`. -/
def jsonArrayAdd (arr value : JsonValue Double) : JsonValue Double :=
  match arr with
  | .array items => if jsonMaxArray ≤ items.length then .array items else .array (items ++ [value])
  | other => other

/-- `json_create_object`, with members added in turn. -/
def jsonObjectOf (members : List (Text × JsonValue Double)) : JsonValue Double :=
  members.foldl (fun obj member => jsonObjectAdd obj member.1 member.2) (.object [])

/-- `json_create_array`, with items added in turn. -/
def jsonArrayOf (items : List (JsonValue Double)) : JsonValue Double :=
  items.foldl jsonArrayAdd (.array [])

/-- `json_object_get`. -/
def jsonObjectGet (obj : JsonValue Double) (key : Text) : Option (JsonValue Double) :=
  match obj with
  | .object members => (members.find? fun member => member.1 == key).map Prod.snd
  | _ => none

/-- The members have short keys, so adding them copies them. -/
theorem jsonObjectOf_eq {members : List (Text × JsonValue Double)}
    (h : ∀ member ∈ members, member.1.length < jsonMaxString) :
    jsonObjectOf members = .object members := by
  have hfold : ∀ rest before : List (Text × JsonValue Double),
      (∀ member ∈ rest, member.1.length < jsonMaxString) →
        rest.foldl (fun obj member => jsonObjectAdd obj member.1 member.2) (.object before) =
          .object (before ++ rest) := by
    intro rest
    induction rest with
    | nil =>
        intro before _
        rw [List.append_nil]
        rfl
    | cons member rest ih =>
        intro before hrest
        have hkey : strncpyTerminated member.1 jsonMaxString = member.1 :=
          List.take_of_length_le (Nat.le_pred_of_lt (hrest member List.mem_cons_self))
        rw [List.foldl_cons, jsonObjectAdd, hkey,
          ih _ fun m hm => hrest m (List.mem_cons_of_mem member hm), List.append_assoc]
        rfl
  exact hfold members [] h

/-- The items fit into an array. -/
theorem jsonArrayOf_eq {items : List (JsonValue Double)} (h : items.length ≤ jsonMaxArray) :
    jsonArrayOf items = .array items := by
  have hfold : ∀ rest before : List (JsonValue Double),
      (before ++ rest).length ≤ jsonMaxArray →
        rest.foldl jsonArrayAdd (.array before) = .array (before ++ rest) := by
    intro rest
    induction rest with
    | nil =>
        intro before _
        rw [List.append_nil]
        rfl
    | cons value rest ih =>
        intro before hlength
        have hroom : ¬ jsonMaxArray ≤ before.length := by
          rw [List.length_append, List.length_cons] at hlength
          omega
        have hnext : ((before ++ [value]) ++ rest).length ≤ jsonMaxArray := by
          rwa [List.append_assoc]
        rw [List.foldl_cons, jsonArrayAdd, if_neg hroom, ih _ hnext, List.append_assoc]
        rfl
  exact hfold items [] h

end Values

/-! ## The writer -/

/-- `json_write_string` writes a character. -/
def jsonEscape (c : UInt8) : Text :=
  if c = 34 then [92, 34]
  else if c = 92 then [92, 92]
  else if c = 10 then [92, 110]
  else if c = 9 then [92, 116]
  else if c = 13 then [92, 114]
  else [c]

/-- `json_write_string`. -/
def jsonWriteString (s : Text) : Text :=
  34 :: s.flatMap jsonEscape ++ [34]

/-- `json_write_indent`. -/
def jsonWriteIndent (indent : Int) : Text :=
  List.replicate indent.toNat 32

/-- `json_write` of a number. -/
def jsonWriteNumber (A : CFloat) (n : A.Double) : Text :=
  if A.equal n (A.ofInt (A.toLongLong n)) then printInt (A.toLongLong n) else A.formatG n

mutual

/-- `json_write`. -/
def jsonWrite (A : CFloat) : JsonValue A.Double → Int → Text
  | .string s, _ => jsonWriteString s
  | .number n, _ => jsonWriteNumber A n
  | .bool b, _ => if b then text "true" else text "false"
  | .null, _ => text "null"
  | .object members, indent =>
      [123, 10] ++ jsonWriteMembers A members (indent + 2) ++ jsonWriteIndent indent ++ [125]
  | .array [], _ => [91, 93]
  | .array (item :: items), indent =>
      [91, 10] ++ jsonWriteItems A (item :: items) (indent + 2) ++ jsonWriteIndent indent ++ [93]
termination_by structural value => value

/-- The members of an object, each on a line, with commas between them. -/
def jsonWriteMembers (A : CFloat) : List (Text × JsonValue A.Double) → Int → Text
  | [], _ => []
  | (key, value) :: rest, indent =>
      jsonWriteIndent indent ++ jsonWriteString key ++ [58, 32] ++ jsonWrite A value indent ++
        (if rest.isEmpty then [10] else [44, 10]) ++ jsonWriteMembers A rest indent
termination_by structural members => members

/-- The items of an array, each on a line, with commas between them. -/
def jsonWriteItems (A : CFloat) : List (JsonValue A.Double) → Int → Text
  | [], _ => []
  | value :: rest, indent =>
      jsonWriteIndent indent ++ jsonWrite A value indent ++
        (if rest.isEmpty then [10] else [44, 10]) ++ jsonWriteItems A rest indent
termination_by structural items => items

end

/-! ## The parser -/

/-- `json_parse_char`: the text after the character, which whitespace may come before. -/
def jsonParseChar (c : UInt8) (t : Text) : Option Text :=
  match t.dropWhile isSpace with
  | [] => none
  | d :: rest => if d = c then some rest else none

/-- What `json_parse_string_raw` stores for an escaped character. -/
def jsonUnescape (c : UInt8) : UInt8 :=
  if c = 110 then 10 else if c = 116 then 9 else if c = 114 then 13 else c

/-- The loop of `json_parse_string_raw`, with room for so many characters. -/
def jsonStringLoop : Nat → Text → Option (Text × Text)
  | 0, t => some ([], t)
  | _ + 1, [] => some ([], [])
  | room + 1, c :: rest =>
      if c = 34 then
        some ([], c :: rest)
      else if c = 92 then
        match rest with
        | [] => none
        | d :: rest => (jsonStringLoop room rest).map fun p => (jsonUnescape d :: p.1, p.2)
      else
        (jsonStringLoop room rest).map fun p => (c :: p.1, p.2)

/-- `json_parse_string_raw` into `JSON_MAX_STRING` bytes. -/
def jsonParseStringRaw (t : Text) : Option (Text × Text) := do
  let rest ← jsonParseChar 34 t
  let (s, rest) ← jsonStringLoop (jsonMaxString - 1) rest
  let rest ← jsonParseChar 34 rest
  some (s, rest)

/-- The value of digits, with the rounding of the additions and multiplications that make it. -/
def jsonDigits (A : CFloat) (digits : Text) : A.Double :=
  digits.foldl
    (fun num c => A.add (A.mul num (A.ofInt 10)) (A.ofInt (digitValue c))) (A.ofInt 0)

/-- The loop that multiplies the divisor of the fraction. -/
def jsonDivisor (A : CFloat) (digits : Text) : A.Double :=
  digits.foldl (fun div _ => A.mul div (A.ofInt 10)) (A.ofInt 1)

/-- `json_parse_number` after the sign. -/
def jsonParseUnsigned (A : CFloat) (t : Text) : Option (A.Double × Text) :=
  match t.takeWhile isDigit, t.dropWhile isDigit with
  | [], _ => none
  | digit :: digits, 46 :: rest =>
      let fraction := rest.takeWhile isDigit
      some (A.add (jsonDigits A (digit :: digits))
        (A.div (jsonDigits A fraction) (jsonDivisor A fraction)), rest.dropWhile isDigit)
  | digit :: digits, rest => some (jsonDigits A (digit :: digits), rest)

/-- `json_parse_number`. -/
def jsonParseNumber (A : CFloat) : Text → Option (A.Double × Text)
  | 45 :: rest => (jsonParseUnsigned A rest).map fun p => (A.neg p.1, p.2)
  | t => jsonParseUnsigned A t

/-- `json_parse_keyword`. -/
def jsonParseKeyword {Double : Type} (keyword : Text) (value : JsonValue Double) (t : Text) :
    Option (JsonValue Double × Text) :=
  if keyword.isPrefixOf t then some (value, t.drop keyword.length) else none

mutual

/-- `json_parse_value`. -/
def jsonParseValue (A : CFloat) : Nat → Nat → Text → Option (JsonValue A.Double × Text)
  | 0, _, _ => none
  | fuel + 1, depth, t =>
      match t.dropWhile isSpace with
      | [] => none
      | c :: rest =>
          if c = 123 then
            if jsonMaxDepth < depth + 1 then
              none
            else
              match jsonParseChar 125 rest with
              | some rest => some (.object [], rest)
              | none =>
                  (jsonParseMembers A fuel (depth + 1) rest).map fun p => (.object p.1, p.2)
          else if c = 91 then
            if jsonMaxDepth < depth + 1 then
              none
            else
              match jsonParseChar 93 rest with
              | some rest => some (.array [], rest)
              | none =>
                  (jsonParseItems A fuel (depth + 1) 0 rest).map fun p => (.array p.1, p.2)
          else if c = 34 then
            (jsonParseStringRaw (c :: rest)).map fun p => (.string p.1, p.2)
          else if c = 45 ∨ isDigit c then
            (jsonParseNumber A (c :: rest)).map fun p => (.number p.1, p.2)
          else if c = 116 then
            jsonParseKeyword (text "true") (.bool true) (c :: rest)
          else if c = 102 then
            jsonParseKeyword (text "false") (.bool false) (c :: rest)
          else if c = 110 then
            jsonParseKeyword (text "null") .null (c :: rest)
          else
            none
termination_by structural fuel => fuel

/-- The loop of `json_parse_object`. -/
def jsonParseMembers (A : CFloat) :
    Nat → Nat → Text → Option (List (Text × JsonValue A.Double) × Text)
  | 0, _, _ => none
  | fuel + 1, depth, t => do
      let (key, t) ← jsonParseStringRaw t
      let t ← jsonParseChar 58 t
      let (value, t) ← jsonParseValue A fuel depth t
      match jsonParseChar 125 t with
      | some t => some ([(key, value)], t)
      | none =>
          let t ← jsonParseChar 44 t
          let (members, t) ← jsonParseMembers A fuel depth t
          some ((key, value) :: members, t)
termination_by structural fuel => fuel

/-- The loop of `json_parse_array`, with `count` items before. -/
def jsonParseItems (A : CFloat) :
    Nat → Nat → Nat → Text → Option (List (JsonValue A.Double) × Text)
  | 0, _, _, _ => none
  | fuel + 1, depth, count, t => do
      let (value, t) ← jsonParseValue A fuel depth t
      if jsonMaxArray ≤ count then
        none
      else
        match jsonParseChar 93 t with
        | some t => some ([value], t)
        | none =>
            let t ← jsonParseChar 44 t
            let (items, t) ← jsonParseItems A fuel depth (count + 1) t
            some (value :: items, t)
termination_by structural fuel => fuel

end

/-- `json_parse`. -/
def jsonParse (A : CFloat) (input : Text) : Option (JsonValue A.Double) :=
  match jsonParseValue A (2 * input.length + 1) 0 input with
  | none => none
  | some (value, rest) => if rest.dropWhile isSpace = [] then some value else none

/-! ## Whitespace and characters -/

variable {A : CFloat}

theorem dropWhile_indent (indent : Int) (t : Text) :
    (jsonWriteIndent indent ++ t).dropWhile isSpace = t.dropWhile isSpace := by
  rw [jsonWriteIndent]
  induction indent.toNat with
  | zero => rfl
  | succ spaces ih =>
      rw [List.replicate_succ, List.cons_append, List.dropWhile_cons, if_pos (by decide)]
      exact ih

theorem jsonParseChar_space (c : UInt8) {d : UInt8} (hd : isSpace d = true) (t : Text) :
    jsonParseChar c (d :: t) = jsonParseChar c t := by
  rw [jsonParseChar, jsonParseChar, List.dropWhile_cons, if_pos hd]

theorem jsonParseChar_indent (c : UInt8) (indent : Int) (t : Text) :
    jsonParseChar c (jsonWriteIndent indent ++ t) = jsonParseChar c t := by
  rw [jsonParseChar, jsonParseChar, dropWhile_indent]

theorem jsonParseChar_self {c : UInt8} (hc : isSpace c = false) (t : Text) :
    jsonParseChar c (c :: t) = some t := by
  simp [jsonParseChar, hc]

theorem jsonParseChar_other {c d : UInt8} (hd : isSpace d = false) (hne : d ≠ c) (t : Text) :
    jsonParseChar c (d :: t) = none := by
  simp [jsonParseChar, hd, hne]

theorem jsonParseValue_dropWhile (fuel depth : Nat) {t t' : Text}
    (h : t.dropWhile isSpace = t'.dropWhile isSpace) :
    jsonParseValue A fuel depth t = jsonParseValue A fuel depth t' := by
  cases fuel with
  | zero => rfl
  | succ fuel => rw [jsonParseValue, jsonParseValue, h]

/-! ## Strings -/

/-- The loop undoes the escapes and stops at the closing quote. -/
theorem jsonStringLoop_escape (s rest : Text) {room : Nat} (h : s.length ≤ room) :
    jsonStringLoop room (s.flatMap jsonEscape ++ 34 :: rest) = some (s, 34 :: rest) := by
  induction s generalizing room with
  | nil => cases room <;> simp [jsonStringLoop]
  | cons c s ih =>
      rw [List.length_cons] at h
      rcases room with _ | room
      · omega
      · have hrest := ih (Nat.le_of_succ_le_succ h)
        rw [List.flatMap_cons, List.append_assoc, jsonEscape]
        split_ifs with hquote hslash hline htab hreturn
        all_goals simp [jsonStringLoop, jsonUnescape, *]

theorem jsonParseStringRaw_write {s : Text} (h : s.length < jsonMaxString) (rest : Text) :
    jsonParseStringRaw (jsonWriteString s ++ rest) = some (s, rest) := by
  have hopen : jsonParseChar 34 (34 :: (s.flatMap jsonEscape ++ 34 :: rest)) =
      some (s.flatMap jsonEscape ++ 34 :: rest) := jsonParseChar_self (by decide) _
  have hclose : jsonParseChar 34 (34 :: rest) = some rest := jsonParseChar_self (by decide) _
  have hloop : jsonStringLoop (jsonMaxString - 1) (s.flatMap jsonEscape ++ 34 :: rest) =
      some (s, 34 :: rest) := jsonStringLoop_escape s rest (Nat.le_pred_of_lt h)
  have htext : jsonWriteString s ++ rest = 34 :: (s.flatMap jsonEscape ++ 34 :: rest) := by
    simp [jsonWriteString]
  rw [htext, jsonParseStringRaw, hopen, Option.bind_eq_bind, Option.bind_some, hloop]
  change (jsonParseChar 34 (34 :: rest)).bind (fun rest => some (s, rest)) = some (s, rest)
  rw [hclose, Option.bind_some]

theorem zero_notMem_writeString {s : Text} (h : 0 ∉ s) : 0 ∉ jsonWriteString s := by
  intro hmem
  rw [jsonWriteString, List.mem_append, List.mem_cons, List.mem_flatMap, List.mem_singleton] at hmem
  rcases hmem with (hquote | ⟨c, hc, hescape⟩) | hquote
  · exact absurd hquote (by decide)
  · rw [jsonEscape] at hescape
    split_ifs at hescape
    all_goals simp at hescape
    exact h (hescape ▸ hc)
  · exact absurd hquote (by decide)

/-! ## Numbers -/

/-- Text that does not go on with a number before it. -/
def JsonEnds (rest : Text) : Prop :=
  ∀ c ∈ rest.head?, isDigit c = false ∧ c ≠ 46

theorem JsonEnds.cons {c : UInt8} (h : isDigit c = false) (hdot : c ≠ 46) (rest : Text) :
    JsonEnds (c :: rest) := by
  intro d hd
  cases hd
  exact ⟨h, hdot⟩

theorem JsonEnds.digitsEnd {rest : Text} (h : JsonEnds rest) : DigitsEnd rest :=
  fun c hc => (h c hc).1

/-- Whole numbers end where their digits end. -/
theorem jsonParseUnsigned_whole {digits rest : Text} (hne : digits ≠ [])
    (hdigits : ∀ c ∈ digits, isDigit c = true) (hrest : JsonEnds rest) :
    jsonParseUnsigned A (digits ++ rest) = some (jsonDigits A digits, rest) := by
  rcases hrest.digitsEnd.span hdigits with ⟨htake, hdrop⟩
  rw [jsonParseUnsigned, htake, hdrop]
  split
  · exact absurd rfl hne
  · exact absurd rfl (hrest 46 rfl).2
  · rfl

/-- What a number's text is made of, when all of it is read. -/
theorem jsonParseUnsigned_eq_some {t : Text} {n : A.Double}
    (h : jsonParseUnsigned A t = some (n, [])) :
    ∃ digits, digits ≠ [] ∧ (∀ c ∈ digits, isDigit c = true) ∧
      (t = digits ∧ n = jsonDigits A digits ∨
        ∃ fraction, (∀ c ∈ fraction, isDigit c = true) ∧ t = digits ++ 46 :: fraction ∧
          n = A.add (jsonDigits A digits)
            (A.div (jsonDigits A fraction) (jsonDivisor A fraction))) := by
  have hsplit := @List.takeWhile_append_dropWhile _ isDigit t
  have hdigits : ∀ c ∈ t.takeWhile isDigit, isDigit c = true := fun c hc =>
    List.mem_takeWhile_imp hc
  rw [jsonParseUnsigned] at h
  split at h
  · cases h
  · rename_i digit digits rest htake hdrop
    rw [htake] at hdigits
    rw [htake, hdrop] at hsplit
    simp only [Option.some.injEq, Prod.mk.injEq] at h
    rcases h with ⟨hn, hrest⟩
    have hfraction := List.dropWhile_eq_nil_iff.mp hrest
    rw [List.takeWhile_eq_self_iff.mpr hfraction] at hn
    exact ⟨digit :: digits, List.cons_ne_nil _ _, hdigits,
      Or.inr ⟨rest, hfraction, hsplit.symm, hn.symm⟩⟩
  · rename_i digit digits htake hdot
    rw [htake] at hdigits
    simp only [Option.some.injEq, Prod.mk.injEq] at h
    rcases h with ⟨hn, hrest⟩
    rw [htake, hrest, List.append_nil] at hsplit
    exact ⟨digit :: digits, List.cons_ne_nil _ _, hdigits, Or.inl ⟨hsplit.symm, hn.symm⟩⟩

/-- A number is read in the same way when something follows it. -/
theorem jsonParseUnsigned_append {rest : Text} (hrest : JsonEnds rest) (t : Text) :
    jsonParseUnsigned A (t ++ rest) =
      (jsonParseUnsigned A t).map fun p => (p.1, p.2 ++ rest) := by
  rcases hrest.digitsEnd.append t with ⟨htake, hdrop⟩
  rw [jsonParseUnsigned, jsonParseUnsigned, htake, hdrop]
  cases t.takeWhile isDigit with
  | nil => rfl
  | cons digit digits =>
      cases t.dropWhile isDigit with
      | nil =>
          cases rest with
          | nil => rfl
          | cons c rest =>
              have hdot : c ≠ 46 := (hrest c rfl).2
              simp [hdot]
      | cons c left =>
          by_cases hdot : c = 46
          · subst hdot
            -- What follows the fraction part does not go on with its digits either.
            rcases hrest.digitsEnd.append left with ⟨htakeLeft, hdropLeft⟩
            simp [htakeLeft, hdropLeft]
          · simp [hdot]

/-- A character of a number's text. -/
def IsNumberChar (c : UInt8) : Prop :=
  c = 45 ∨ c = 46 ∨ isDigit c = true

theorem jsonParseUnsigned_chars {t : Text} {n : A.Double}
    (h : jsonParseUnsigned A t = some (n, [])) :
    (∃ c ∈ t.head?, isDigit c = true) ∧ ∀ c ∈ t, IsNumberChar c := by
  rcases jsonParseUnsigned_eq_some h with ⟨digits, hne, hdigits, hcase⟩
  cases digits with
  | nil => exact absurd rfl hne
  | cons digit digits =>
      have hdigit := hdigits digit List.mem_cons_self
      rcases hcase with ⟨rfl, -⟩ | ⟨fraction, hfraction, rfl, -⟩
      · exact ⟨⟨digit, rfl, hdigit⟩, fun c hc => Or.inr (Or.inr (hdigits c hc))⟩
      · refine ⟨⟨digit, rfl, hdigit⟩, fun c hc => ?_⟩
        rcases List.mem_append.mp hc with hc | hc
        · exact Or.inr (Or.inr (hdigits c hc))
        · rcases List.mem_cons.mp hc with rfl | hc
          · exact Or.inr (Or.inl rfl)
          · exact Or.inr (Or.inr (hfraction c hc))

theorem jsonParseNumber_negative (t : Text) :
    jsonParseNumber A (45 :: t) = (jsonParseUnsigned A t).map fun p => (A.neg p.1, p.2) := rfl

theorem jsonParseNumber_unsigned {t : Text} (h : ∀ rest, t ≠ 45 :: rest) :
    jsonParseNumber A t = jsonParseUnsigned A t := by
  rw [jsonParseNumber]
  intro rest hrest
  exact h rest hrest

/-- A number that is all read: unsigned, or unsigned after a minus. -/
theorem jsonParseNumber_cases {t : Text} {n : A.Double}
    (h : jsonParseNumber A t = some (n, [])) :
    jsonParseUnsigned A t = some (n, []) ∨
      ∃ rest m, t = 45 :: rest ∧ jsonParseUnsigned A rest = some (m, []) ∧ n = A.neg m := by
  by_cases hminus : ∃ rest, t = 45 :: rest
  · rcases hminus with ⟨rest, rfl⟩
    rw [jsonParseNumber_negative, Option.map_eq_some_iff] at h
    rcases h with ⟨⟨m, left⟩, hm, heq⟩
    simp only [Prod.mk.injEq] at heq
    rw [heq.2] at hm
    exact Or.inr ⟨rest, m, rfl, hm, heq.1.symm⟩
  · rw [jsonParseNumber_unsigned fun rest hrest => hminus ⟨rest, hrest⟩] at h
    exact Or.inl h

/-- The text of a number starts with a minus or a digit. -/
theorem jsonParseNumber_chars {t : Text} {n : A.Double}
    (h : jsonParseNumber A t = some (n, [])) :
    (∃ c ∈ t.head?, c = 45 ∨ isDigit c = true) ∧ ∀ c ∈ t, IsNumberChar c := by
  rcases jsonParseNumber_cases h with hu | ⟨rest, m, rfl, hu, -⟩
  · rcases jsonParseUnsigned_chars hu with ⟨⟨c, hc, hdigit⟩, hall⟩
    exact ⟨⟨c, hc, Or.inr hdigit⟩, hall⟩
  · refine ⟨⟨45, rfl, Or.inl rfl⟩, fun c hc => ?_⟩
    rcases List.mem_cons.mp hc with rfl | hc
    · exact Or.inl rfl
    · exact (jsonParseUnsigned_chars hu).2 c hc

theorem jsonParseNumber_append {t rest : Text} (hne : t ≠ []) (hrest : JsonEnds rest) :
    jsonParseNumber A (t ++ rest) = (jsonParseNumber A t).map fun p => (p.1, p.2 ++ rest) := by
  by_cases hminus : ∃ left, t = 45 :: left
  · rcases hminus with ⟨left, rfl⟩
    rw [List.cons_append, jsonParseNumber_negative, jsonParseNumber_negative,
      jsonParseUnsigned_append hrest, Option.map_map, Option.map_map]
    rfl
  · have hstart : ∀ left, t ++ rest ≠ 45 :: left := by
      intro left heq
      cases t with
      | nil => exact hne rfl
      | cons d t =>
          cases heq
          exact hminus ⟨t, rfl⟩
    rw [jsonParseNumber_unsigned hstart, jsonParseNumber_unsigned fun left heq => hminus ⟨left, heq⟩,
      jsonParseUnsigned_append hrest]

/-- Digits of a number that a `double` represents are read without rounding. -/
theorem jsonDigits_eq {digits : Text} (h : digitsValue digits ≤ 2 ^ 53) :
    jsonDigits A digits = A.ofInt (digitsValue digits) := by
  induction digits using List.reverseRecOn with
  | nil => rfl
  | append_singleton digits c ih =>
      rw [digitsValue_append] at h
      have hdigits : jsonDigits A digits = A.ofInt (digitsValue digits) := ih (by omega)
      have hmul : A.mul (A.ofInt (digitsValue digits)) (A.ofInt 10) =
          A.ofInt (digitsValue digits * 10) :=
        A.mul_ofInt (by omega) (by omega) ⟨by omega, by omega⟩ ⟨by omega, by omega⟩ ⟨by omega, by omega⟩
      have hadd : A.add (A.ofInt (digitsValue digits * 10)) (A.ofInt (digitValue c)) =
          A.ofInt (digitsValue digits * 10 + digitValue c) :=
        A.add_ofInt ⟨by omega, by omega⟩ ⟨by omega, by omega⟩ ⟨by omega, by omega⟩
      have hlast : jsonDigits A (digits ++ [c]) =
          A.add (A.mul (jsonDigits A digits) (A.ofInt 10)) (A.ofInt (digitValue c)) := by
        rw [jsonDigits, List.foldl_append]
        rfl
      rw [hlast, hdigits, hmul, hadd, digitsValue_append]
      push_cast
      rfl

/-- Whole numbers are written and read without rounding. -/
theorem jsonParseNumber_printInt {n : Int} (h : ExactInt n) :
    jsonParseNumber A (printInt n) = some (A.ofInt n, []) := by
  have hends : JsonEnds [] := fun c hc => nomatch hc
  have hnat : ∀ m : Nat, m ≤ 2 ^ 53 →
      jsonParseUnsigned A (printNat m) = some (A.ofInt m, []) := by
    intro m hm
    have hwhole := @jsonParseUnsigned_whole A _ _ (printNat_ne_nil m) (printNat_isDigit m) hends
    rwa [List.append_nil, jsonDigits_eq (by rwa [digitsValue_printNat]), digitsValue_printNat]
      at hwhole
  rcases n with m | m
  · have hm : m ≤ 2 ^ 53 := by
      have hle : (m : Int) ≤ 2 ^ 53 := h.2
      omega
    have hstart : ∀ rest, printNat m ≠ 45 :: rest := by
      intro rest heq
      exact absurd (printNat_isDigit m 45 (heq ▸ List.mem_cons_self)) (by decide)
    exact (jsonParseNumber_unsigned hstart).trans (hnat m hm)
  · have hm : m + 1 ≤ 2 ^ 53 := by
      have := h.1
      omega
    have hneg : A.neg (A.ofInt ((m + 1 : Nat) : Int)) = A.ofInt (Int.negSucc m) :=
      A.neg_ofInt ⟨by omega, by omega⟩ (by omega)
    rw [printInt, jsonParseNumber_negative, hnat _ hm, Option.map_some, hneg]

theorem jsonWriteNumber_ofInt {n : Int} (h : ExactInt n) :
    jsonWriteNumber A (A.ofInt n) = printInt n := by
  rw [jsonWriteNumber, A.toLongLong_ofInt h, if_pos (A.equal_ofInt h)]

/-! ## What the parser leaves and returns -/

/-- Something was read, and `rest` is left. -/
def Consumes (t rest : Text) : Prop :=
  ∃ before, before ≠ [] ∧ t = before ++ rest

theorem Consumes.length_lt {t rest : Text} (h : Consumes t rest) : rest.length < t.length := by
  rcases h with ⟨before, hne, rfl⟩
  have hpos := List.length_pos_of_ne_nil hne
  rw [List.length_append]
  omega

theorem Consumes.clean {t rest : Text} (h : Consumes t rest) (ht : 0 ∉ t) : 0 ∉ rest := by
  rcases h with ⟨before, -, rfl⟩
  exact fun hmem => ht (List.mem_append_right before hmem)

theorem Consumes.trans {t t' t'' : Text} (h : Consumes t t') (h' : Consumes t' t'') :
    Consumes t t'' := by
  rcases h with ⟨before, hne, rfl⟩
  rcases h' with ⟨next, -, rfl⟩
  exact ⟨before ++ next, List.append_ne_nil_of_left_ne_nil hne next, (List.append_assoc _ _ _).symm⟩

/-- Whitespace before what was read is read with it. -/
theorem Consumes.of_dropWhile {t rest : Text} (h : Consumes (t.dropWhile isSpace) rest) :
    Consumes t rest := by
  rcases h with ⟨before, hne, heq⟩
  refine ⟨t.takeWhile isSpace ++ before, List.append_ne_nil_of_right_ne_nil _ hne, ?_⟩
  rw [List.append_assoc, ← heq, List.takeWhile_append_dropWhile]

theorem consumes_cons (c : UInt8) (t : Text) : Consumes (c :: t) t :=
  ⟨[c], List.cons_ne_nil c [], rfl⟩

theorem jsonParseChar_consumes {c : UInt8} {t rest : Text} (h : jsonParseChar c t = some rest) :
    Consumes t rest := by
  rw [jsonParseChar] at h
  split at h
  · cases h
  · rename_i d left htext
    split_ifs at h
    cases h
    refine Consumes.of_dropWhile ?_
    rw [htext]
    exact consumes_cons d rest

theorem jsonUnescape_ne_zero {c : UInt8} (h : c ≠ 0) : jsonUnescape c ≠ 0 := by
  rw [jsonUnescape]
  split_ifs
  · decide
  · decide
  · decide
  · exact h

theorem jsonStringLoop_eq_some {room : Nat} {t s rest : Text}
    (h : jsonStringLoop room t = some (s, rest)) :
    (∃ before, t = before ++ rest) ∧ (0 ∉ t → 0 ∉ s) := by
  fun_induction jsonStringLoop room t generalizing s rest with
  | case1 t =>
      cases h
      exact ⟨⟨[], rfl⟩, fun _ => List.not_mem_nil⟩
  | case2 room =>
      cases h
      exact ⟨⟨[], rfl⟩, fun _ => List.not_mem_nil⟩
  | case3 room rest' =>
      cases h
      exact ⟨⟨[], rfl⟩, fun _ => List.not_mem_nil⟩
  | case4 room h' => cases h
  | case5 room d rest' hslash ih =>
      rcases Option.map_eq_some_iff.mp h with ⟨⟨s', left⟩, hloop, heq⟩
      cases heq
      rcases ih hloop with ⟨⟨before, rfl⟩, hclean⟩
      -- No escape stands for the byte zero.
      refine ⟨⟨92 :: d :: before, rfl⟩, fun ht hmem => ?_⟩
      rw [List.mem_cons, List.mem_cons, not_or, not_or] at ht
      rcases List.mem_cons.mp hmem with hzero | hmem
      · exact jsonUnescape_ne_zero (Ne.symm ht.2.1) hzero.symm
      · exact hclean ht.2.2 hmem
  | case6 room c rest' hquote hslash ih =>
      rcases Option.map_eq_some_iff.mp h with ⟨⟨s', left⟩, hloop, heq⟩
      cases heq
      rcases ih hloop with ⟨⟨before, rfl⟩, hclean⟩
      refine ⟨⟨c :: before, rfl⟩, fun ht hmem => ?_⟩
      rw [List.mem_cons, not_or] at ht
      rcases List.mem_cons.mp hmem with hzero | hmem
      · exact ht.1 hzero
      · exact hclean ht.2 hmem

theorem jsonParseStringRaw_eq_some {t s rest : Text} (h : jsonParseStringRaw t = some (s, rest)) :
    Consumes t rest ∧ (0 ∉ t → 0 ∉ s) := by
  rw [jsonParseStringRaw, Option.bind_eq_bind, Option.bind_eq_some_iff] at h
  rcases h with ⟨inner, hopen, h⟩
  rw [Option.bind_eq_bind, Option.bind_eq_some_iff] at h
  rcases h with ⟨⟨s', left⟩, hloop, h⟩
  change (jsonParseChar 34 left).bind (fun rest => some (s', rest)) = some (s, rest) at h
  rcases Option.bind_eq_some_iff.mp h with ⟨rest', hclose, heq⟩
  cases heq
  have hinner := jsonParseChar_consumes hopen
  have hleft := jsonParseChar_consumes hclose
  rcases jsonStringLoop_eq_some hloop with ⟨⟨before, hbefore⟩, hclean⟩
  refine ⟨?_, fun ht => hclean (hinner.clean ht)⟩
  rcases hleft with ⟨closing, hne, hclosing⟩
  refine hinner.trans ⟨before ++ closing, List.append_ne_nil_of_right_ne_nil _ hne, ?_⟩
  rw [hbefore, hclosing, List.append_assoc]

theorem jsonParseUnsigned_consumes {t rest : Text} {n : A.Double}
    (h : jsonParseUnsigned A t = some (n, rest)) : Consumes t rest := by
  have hsplit := @List.takeWhile_append_dropWhile _ isDigit t
  rw [jsonParseUnsigned] at h
  split at h
  · cases h
  · rename_i digit digits left htake hdrop
    cases h
    rw [htake, hdrop] at hsplit
    refine ⟨digit :: digits ++ 46 :: left.takeWhile isDigit, List.cons_ne_nil _ _, ?_⟩
    simp only [List.append_assoc, List.cons_append, List.takeWhile_append_dropWhile]
    exact hsplit.symm
  · rename_i digit digits htake hdot
    cases h
    rw [htake] at hsplit
    exact ⟨digit :: digits, List.cons_ne_nil _ _, hsplit.symm⟩

theorem jsonParseNumber_consumes {t rest : Text} {n : A.Double}
    (h : jsonParseNumber A t = some (n, rest)) : Consumes t rest := by
  by_cases hminus : ∃ unsigned, t = 45 :: unsigned
  · rcases hminus with ⟨unsigned, rfl⟩
    rw [jsonParseNumber_negative, Option.map_eq_some_iff] at h
    rcases h with ⟨⟨m, left⟩, hm, heq⟩
    cases heq
    exact (consumes_cons 45 unsigned).trans (jsonParseUnsigned_consumes hm)
  · rw [jsonParseNumber_unsigned fun unsigned ht => hminus ⟨unsigned, ht⟩] at h
    exact jsonParseUnsigned_consumes h

theorem jsonParseKeyword_eq_some {Double : Type} {keyword t rest : Text}
    {value v : JsonValue Double} (hne : keyword ≠ [])
    (h : jsonParseKeyword keyword value t = some (v, rest)) : v = value ∧ Consumes t rest := by
  rw [jsonParseKeyword] at h
  split_ifs at h with hprefix
  cases h
  rcases List.isPrefixOf_iff_prefix.mp hprefix with ⟨left, rfl⟩
  rw [List.drop_left]
  exact ⟨rfl, keyword, hne, rfl⟩

/-- The strings of a value have no zero byte. -/
inductive JsonValue.NulFree {Double : Type} : JsonValue Double → Prop
  | object {members : List (Text × JsonValue Double)} (h : ∀ member ∈ members, member.2.NulFree) :
      NulFree (.object members)
  | array {items : List (JsonValue Double)} (h : ∀ item ∈ items, item.NulFree) :
      NulFree (.array items)
  | string {s : Text} (h : 0 ∉ s) : NulFree (.string s)
  | number (n : Double) : NulFree (.number n)
  | bool (b : Bool) : NulFree (.bool b)
  | null : NulFree .null

/-- What the three parsing functions leave and return, for all fuel up to some. -/
structure ParserSpec (A : CFloat) (fuel : Nat) : Prop where
  value : ∀ depth t v rest, jsonParseValue A fuel depth t = some (v, rest) →
    Consumes t rest ∧ (0 ∉ t → v.NulFree)
  members : ∀ depth t ms rest, jsonParseMembers A fuel depth t = some (ms, rest) →
    Consumes t rest ∧ (0 ∉ t → ∀ m ∈ ms, m.2.NulFree)
  items : ∀ depth count t vs rest, jsonParseItems A fuel depth count t = some (vs, rest) →
    Consumes t rest ∧ (0 ∉ t → ∀ v ∈ vs, v.NulFree)

theorem ParserSpec.value_succ {fuel : Nat} (ih : ParserSpec A fuel) {depth : Nat} {t rest : Text}
    {v : JsonValue A.Double} (h : jsonParseValue A (fuel + 1) depth t = some (v, rest)) :
    Consumes t rest ∧ (0 ∉ t → v.NulFree) := by
  rw [jsonParseValue] at h
  split at h
  · cases h
  · rename_i c left htext
    have hspace : ∀ ht : 0 ∉ t, 0 ∉ c :: left := fun ht hmem =>
      ht ((List.dropWhile_sublist isSpace).mem (htext ▸ hmem))
    have hstart : ∀ {rest : Text}, Consumes (c :: left) rest → Consumes t rest :=
      fun hconsumes => Consumes.of_dropWhile (htext ▸ hconsumes)
    -- The first character that is no space says what kind of value follows.
    split_ifs at h with hobject hdeep harray hdeep' hstring hnumber htrue hfalse hnull
    · split at h
      · rename_i closed hclose
        cases h
        refine ⟨hstart ((consumes_cons c left).trans (jsonParseChar_consumes hclose)),
          fun _ => .object fun m hm => (nomatch hm)⟩
      · rcases Option.map_eq_some_iff.mp h with ⟨⟨ms, left'⟩, hmembers, heq⟩
        cases heq
        rcases ih.members _ _ _ _ hmembers with ⟨hread, hfree⟩
        refine ⟨hstart ((consumes_cons c left).trans hread), fun ht => .object fun m hm => ?_⟩
        exact hfree (fun hmem => hspace ht (List.mem_cons_of_mem c hmem)) m hm
    · split at h
      · rename_i closed hclose
        cases h
        refine ⟨hstart ((consumes_cons c left).trans (jsonParseChar_consumes hclose)),
          fun _ => .array fun v hv => (nomatch hv)⟩
      · rcases Option.map_eq_some_iff.mp h with ⟨⟨vs, left'⟩, hitems, heq⟩
        cases heq
        rcases ih.items _ _ _ _ _ hitems with ⟨hread, hfree⟩
        refine ⟨hstart ((consumes_cons c left).trans hread), fun ht => .array fun v hv => ?_⟩
        exact hfree (fun hmem => hspace ht (List.mem_cons_of_mem c hmem)) v hv
    · rcases Option.map_eq_some_iff.mp h with ⟨⟨s, left'⟩, hraw, heq⟩
      cases heq
      rcases jsonParseStringRaw_eq_some hraw with ⟨hread, hfree⟩
      exact ⟨hstart hread, fun ht => .string (hfree (hspace ht))⟩
    · rcases Option.map_eq_some_iff.mp h with ⟨⟨n, left'⟩, hread, heq⟩
      cases heq
      exact ⟨hstart (jsonParseNumber_consumes hread), fun _ => .number n⟩
    · rcases jsonParseKeyword_eq_some (by decide) h with ⟨rfl, hread⟩
      exact ⟨hstart hread, fun _ => .bool true⟩
    · rcases jsonParseKeyword_eq_some (by decide) h with ⟨rfl, hread⟩
      exact ⟨hstart hread, fun _ => .bool false⟩
    · rcases jsonParseKeyword_eq_some (by decide) h with ⟨rfl, hread⟩
      exact ⟨hstart hread, fun _ => .null⟩

theorem ParserSpec.members_succ {fuel : Nat} (ih : ParserSpec A fuel) {depth : Nat} {t rest : Text}
    {ms : List (Text × JsonValue A.Double)}
    (h : jsonParseMembers A (fuel + 1) depth t = some (ms, rest)) :
    Consumes t rest ∧ (0 ∉ t → ∀ m ∈ ms, m.2.NulFree) := by
  rw [jsonParseMembers, Option.bind_eq_bind, Option.bind_eq_some_iff] at h
  rcases h with ⟨⟨key, afterKey⟩, hkey, h⟩
  rcases Option.bind_eq_some_iff.mp h with ⟨afterColon, hcolon, h⟩
  rcases Option.bind_eq_some_iff.mp h with ⟨⟨value, afterValue⟩, hvalue, h⟩
  have hconsumed := (jsonParseStringRaw_eq_some hkey).1.trans (jsonParseChar_consumes hcolon)
  rcases ih.value depth _ _ _ hvalue with ⟨hconsumesValue, hfree⟩
  have hread := hconsumed.trans hconsumesValue
  change (match jsonParseChar 125 afterValue with
    | some t => some ([(key, value)], t)
    | none => _) = _ at h
  -- A closing brace ends the object; after a comma stands another member.
  split at h
  · rename_i closed hclose
    cases h
    refine ⟨hread.trans (jsonParseChar_consumes hclose), fun ht m hm => ?_⟩
    rw [List.mem_singleton.mp hm]
    exact hfree (hconsumed.clean ht)
  · rcases Option.bind_eq_some_iff.mp h with ⟨afterComma, hcomma, h⟩
    rcases Option.bind_eq_some_iff.mp h with ⟨⟨members, left⟩, hmembers, h⟩
    cases h
    have hbefore := hread.trans (jsonParseChar_consumes hcomma)
    rcases ih.members depth _ _ _ hmembers with ⟨hconsumesRest, hfreeRest⟩
    refine ⟨hbefore.trans hconsumesRest, fun ht m hm => ?_⟩
    rcases List.mem_cons.mp hm with rfl | hm
    · exact hfree (hconsumed.clean ht)
    · exact hfreeRest (hbefore.clean ht) m hm

theorem ParserSpec.items_succ {fuel : Nat} (ih : ParserSpec A fuel) {depth count : Nat}
    {t rest : Text} {vs : List (JsonValue A.Double)}
    (h : jsonParseItems A (fuel + 1) depth count t = some (vs, rest)) :
    Consumes t rest ∧ (0 ∉ t → ∀ v ∈ vs, v.NulFree) := by
  rw [jsonParseItems, Option.bind_eq_bind, Option.bind_eq_some_iff] at h
  rcases h with ⟨⟨value, afterValue⟩, hvalue, h⟩
  rcases ih.value depth _ _ _ hvalue with ⟨hread, hfree⟩
  change (if jsonMaxArray ≤ count then none
    else match jsonParseChar 93 afterValue with
      | some t => some ([value], t)
      | none => _) = _ at h
  -- An array that is full ends the parser before it looks at the next character.
  split_ifs at h
  split at h
  · rename_i closed hclose
    cases h
    refine ⟨hread.trans (jsonParseChar_consumes hclose), fun ht v hv => ?_⟩
    rw [List.mem_singleton.mp hv]
    exact hfree ht
  · rcases Option.bind_eq_some_iff.mp h with ⟨afterComma, hcomma, h⟩
    rcases Option.bind_eq_some_iff.mp h with ⟨⟨items, left⟩, hitems, h⟩
    cases h
    have hbefore := hread.trans (jsonParseChar_consumes hcomma)
    rcases ih.items depth _ _ _ _ hitems with ⟨hconsumesRest, hfreeRest⟩
    refine ⟨hbefore.trans hconsumesRest, fun ht v hv => ?_⟩
    rcases List.mem_cons.mp hv with rfl | hv
    · exact hfree ht
    · exact hfreeRest (hbefore.clean ht) v hv

theorem parserSpec (A : CFloat) (fuel : Nat) : ParserSpec A fuel := by
  induction fuel with
  | zero =>
      exact ⟨fun _ _ _ _ h => (nomatch h), fun _ _ _ _ h => (nomatch h),
        fun _ _ _ _ _ h => (nomatch h)⟩
  | succ fuel ih =>
      exact ⟨fun _ _ _ _ h => ih.value_succ h, fun _ _ _ _ h => ih.members_succ h,
        fun _ _ _ _ _ h => ih.items_succ h⟩

/-- A parsed file without a zero byte gives strings without one. -/
theorem jsonParse_nulFree {input : Text} {v : JsonValue A.Double} (h : jsonParse A input = some v)
    (hinput : 0 ∉ input) : v.NulFree := by
  rw [jsonParse] at h
  split at h
  · cases h
  · rename_i value rest hvalue
    split_ifs at h
    cases h
    exact ((parserSpec A _).value 0 input v rest hvalue).2 hinput

/-- One more step of fuel changes nothing, when there are two for each character. -/
structure FuelSuffices (A : CFloat) (fuel : Nat) : Prop where
  value : ∀ depth (t : Text), 2 * t.length < fuel →
    jsonParseValue A (fuel + 1) depth t = jsonParseValue A fuel depth t
  members : ∀ depth (t : Text), 2 * t.length < fuel →
    jsonParseMembers A (fuel + 1) depth t = jsonParseMembers A fuel depth t
  items : ∀ depth count (t : Text), 2 * t.length + 1 < fuel →
    jsonParseItems A (fuel + 1) depth count t = jsonParseItems A fuel depth count t

theorem FuelSuffices.value_succ {fuel : Nat} (ih : FuelSuffices A fuel) (depth : Nat) {t : Text}
    (ht : 2 * t.length < fuel + 1) :
    jsonParseValue A (fuel + 1 + 1) depth t = jsonParseValue A (fuel + 1) depth t := by
  rw [jsonParseValue, jsonParseValue]
  cases htext : t.dropWhile isSpace with
  | nil => rfl
  | cons c left =>
      -- The contents of an object or array begin behind its first character.
      have hlength : left.length < t.length := by
        have hle := (List.dropWhile_sublist isSpace (l := t)).length_le
        rw [htext, List.length_cons] at hle
        exact hle
      simp only [ih.members (depth + 1) left (by omega),
        ih.items (depth + 1) 0 left (by omega)]

theorem FuelSuffices.members_succ {fuel : Nat} (ih : FuelSuffices A fuel) (depth : Nat) {t : Text}
    (ht : 2 * t.length < fuel + 1) :
    jsonParseMembers A (fuel + 1 + 1) depth t = jsonParseMembers A (fuel + 1) depth t := by
  rw [jsonParseMembers, jsonParseMembers]
  cases hkey : jsonParseStringRaw t with
  | none => rfl
  | some p =>
      cases hcolon : jsonParseChar 58 p.2 with
      | none => simp only [Option.bind_eq_bind, Option.bind_some, hcolon, Option.bind_none]
      | some afterColon =>
          -- Key and colon were read, so that the value begins further on.
          have hread := (jsonParseStringRaw_eq_some hkey).1.trans
            (jsonParseChar_consumes hcolon)
          have hlength := hread.length_lt
          simp only [Option.bind_eq_bind, Option.bind_some, hcolon,
            ih.value depth afterColon (by omega)]
          cases hvalue : jsonParseValue A fuel depth afterColon with
          | none => rfl
          | some q =>
              have hnext := hread.trans ((parserSpec A fuel).value _ _ _ _ hvalue).1
              simp only [Option.bind_some]
              cases jsonParseChar 125 q.2 with
              | some closed => rfl
              | none =>
                  cases hcomma : jsonParseChar 44 q.2 with
                  | none => rfl
                  | some afterComma =>
                      have hshort := (hnext.trans (jsonParseChar_consumes hcomma)).length_lt
                      simp only [Option.bind_some, ih.members depth afterComma (by omega)]

theorem FuelSuffices.items_succ {fuel : Nat} (ih : FuelSuffices A fuel) (depth count : Nat) {t : Text}
    (ht : 2 * t.length + 1 < fuel + 1) :
    jsonParseItems A (fuel + 1 + 1) depth count t = jsonParseItems A (fuel + 1) depth count t := by
  rw [jsonParseItems, jsonParseItems, ih.value depth t (by omega)]
  cases hvalue : jsonParseValue A fuel depth t with
  | none => rfl
  | some q =>
      have hread := ((parserSpec A fuel).value _ _ _ _ hvalue).1
      simp only [Option.bind_eq_bind, Option.bind_some]
      split_ifs
      · rfl
      · cases jsonParseChar 93 q.2 with
        | some closed => rfl
        | none =>
            cases hcomma : jsonParseChar 44 q.2 with
            | none => rfl
            | some afterComma =>
                have hshort := (hread.trans (jsonParseChar_consumes hcomma)).length_lt
                simp only [Option.bind_some, ih.items depth (count + 1) afterComma (by omega)]

theorem fuelSuffices (A : CFloat) (fuel : Nat) : FuelSuffices A fuel := by
  induction fuel with
  | zero =>
      exact ⟨fun _ _ h => absurd h (Nat.not_lt_zero _), fun _ _ h => absurd h (Nat.not_lt_zero _),
        fun _ _ _ h => absurd h (Nat.not_lt_zero _)⟩
  | succ fuel ih =>
      exact ⟨fun depth _ => ih.value_succ depth, fun depth _ => ih.members_succ depth,
        fun depth count _ => ih.items_succ depth count⟩

/-- The parser never runs out of fuel: more of it gives the same. -/
theorem jsonParseValue_fuel (input : Text) {fuel : Nat} (h : 2 * input.length < fuel) :
    jsonParseValue A fuel 0 input = jsonParseValue A (2 * input.length + 1) 0 input := by
  induction fuel, h using Nat.le_induction with
  | base => rfl
  | succ fuel hle ih => exact ((fuelSuffices A fuel).value 0 input hle).trans ih

/-- What `json_parse` returns, with any fuel that is enough. -/
theorem jsonParse_eq_some_iff {input : Text} {fuel : Nat} (h : 2 * input.length < fuel)
    {value : JsonValue A.Double} :
    jsonParse A input = some value ↔
      ∃ rest, jsonParseValue A fuel 0 input = some (value, rest) ∧ rest.dropWhile isSpace = [] := by
  rw [jsonParse, jsonParseValue_fuel input h]
  cases jsonParseValue A (2 * input.length + 1) 0 input with
  | none => simp
  | some parsed =>
      obtain ⟨read, rest⟩ := parsed
      dsimp only
      constructor
      · intro hparse
        obtain ⟨hrest, hread⟩ := Option.ite_none_right_eq_some.mp hparse
        exact ⟨rest, congrArg (fun v => some (v, rest)) (Option.some.inj hread), hrest⟩
      · rintro ⟨left, hleft, hrest⟩
        cases hleft
        exact if_pos hrest

end MagiStack
