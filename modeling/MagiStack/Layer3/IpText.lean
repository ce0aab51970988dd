import MagiStack.Core.Text
import MagiStack.Layer3.Ipv4
import Mathlib.Data.List.TakeWhile
import Mathlib.Data.Nat.Digits.Lemmas

/-!
# IpText — addresses as text

Embedding of `ip_parse` and `ip_to_string` of `layer3/ipv4.c`, and of the conversions of `sscanf` and
`snprintf` they are written with.  A number that `sscanf` reads is digits, with whitespace and a sign before
them, and its value is cut to 32 bits.  What is printed is parsed again, up to network bits that were not
printed.
-/

namespace MagiStack

/-! ## Scanning -/

/-- The sign and the digits that `%u` and `%d` match, after whitespace, and the text after them. -/
def scanDigits (t : Text) : Option (Bool × Nat × Text) :=
  let signed := match t.dropWhile isSpace with
    | 45 :: rest => (true, rest)
    | 43 :: rest => (false, rest)
    | rest => (false, rest)
  match signed.2.takeWhile isDigit with
  | [] => none
  | digits => some (signed.1, digitsValue digits, signed.2.dropWhile isDigit)

/-- `%u`: `strtoul` with an `unsigned long` of 64 bits, stored into 32. -/
def scanUnsigned (t : Text) : Option (Nat × Text) :=
  (scanDigits t).map fun p =>
    let value : Int := if 2 ^ 64 ≤ p.2.1 then 2 ^ 64 - 1 else if p.1 then -p.2.1 else p.2.1
    ((value % 2 ^ 32).toNat, p.2.2)

/-- `%d`: `strtol` with a `long` of 64 bits, stored into 32. -/
def scanInt (t : Text) : Option (Int × Text) :=
  (scanDigits t).map fun p =>
    let value : Int := if p.1 then -p.2.1 else p.2.1
    ((max (-2 ^ 63) (min (2 ^ 63 - 1) value)).bmod (2 ^ 32), p.2.2)

/-- A character of the format that has to be there. -/
def scanChar (c : UInt8) : Text → Option Text
  | [] => none
  | d :: rest => if d = c then some rest else none

/-- `%u.%u.%u.%u`. -/
def scanOctets (t : Text) : Option (Nat × Nat × Nat × Nat × Text) := do
  let (a, t) ← scanUnsigned t
  let t ← scanChar 46 t
  let (b, t) ← scanUnsigned t
  let t ← scanChar 46 t
  let (c, t) ← scanUnsigned t
  let t ← scanChar 46 t
  let (d, t) ← scanUnsigned t
  some (a, b, c, d, t)

/-- `/%d` after the octets; a string without it is scanned again with no network bits. -/
def scanPrefix (t : Text) : Int :=
  (((scanChar 47 t).bind scanInt).map Prod.fst).getD 0

/-! ## The two functions -/

/-- `ip_parse`, and what it leaves in `out_ip`: octets before one that is too large are stored. -/
def ipParse (str : Text) (outIp : IpAddress) : Bool × IpAddress :=
  match scanOctets str with
  | none => (false, outIp)
  | some (a, b, c, d, rest) =>
      let prefixLen := scanPrefix rest
      if prefixLen < 0 ∨ 32 < prefixLen then
        (false, outIp)
      else if 255 < a then
        (false, outIp)
      else if 255 < b then
        (false, { outIp with octet0 := UInt8.ofNat a })
      else if 255 < c then
        (false, { outIp with octet0 := UInt8.ofNat a, octet1 := UInt8.ofNat b })
      else if 255 < d then
        (false,
          { outIp with
            octet0 := UInt8.ofNat a, octet1 := UInt8.ofNat b, octet2 := UInt8.ofNat c })
      else
        (true,
          { octet0 := UInt8.ofNat a, octet1 := UInt8.ofNat b, octet2 := UInt8.ofNat c
            octet3 := UInt8.ofNat d, prefixLen := UInt8.ofNat prefixLen.toNat })

/-- `ip_to_string` into an array that holds it. -/
def ipToString (ip : IpAddress) (includePrefix : Bool) : Text :=
  printNat ip.octet0.toNat ++ 46 :: (printNat ip.octet1.toNat ++ 46 ::
    (printNat ip.octet2.toNat ++ 46 :: (printNat ip.octet3.toNat ++
      if includePrefix then 47 :: printNat ip.prefixLen.toNat else [])))

/-! ## Numbers -/

/-- A number as `%u` and `%d` read it. -/
structure Numeral where
  blanks : Text
  sign : Option Bool
  digits : Text
  blanks_isSpace : ∀ c ∈ blanks, isSpace c = true
  digits_ne_nil : digits ≠ []
  digits_isDigit : ∀ c ∈ digits, isDigit c = true

namespace Numeral

/-- A minus, a plus, or nothing. -/
def signText : Option Bool → Text
  | some true => [45]
  | some false => [43]
  | none => []

def text (n : Numeral) : Text :=
  n.blanks ++ (signText n.sign ++ n.digits)

def negative (n : Numeral) : Bool :=
  n.sign == some true

def value (n : Numeral) : Nat :=
  digitsValue n.digits

/-- What `%u` stores: `strtoul` of the number, cut to 32 bits. -/
def unsigned (n : Numeral) : Nat :=
  ((if 2 ^ 64 ≤ n.value then 2 ^ 64 - 1 else if n.negative then -(n.value : Int) else n.value) %
    (2 ^ 32 : Int)).toNat

/-- What `%d` stores: `strtol` of the number, cut to 32 bits. -/
def int (n : Numeral) : Int :=
  (max (-2 ^ 63) (min (2 ^ 63 - 1) (if n.negative then -(n.value : Int) else n.value))).bmod (2 ^ 32)

/-- Digits and nothing else. -/
def Plain (n : Numeral) : Prop :=
  n.blanks = [] ∧ n.sign = none

theorem Plain.text_eq {n : Numeral} (h : n.Plain) : n.text = n.digits := by
  rw [text, h.1, h.2]
  rfl

theorem Plain.not_negative {n : Numeral} (h : n.Plain) : n.negative = false := by
  rw [negative, h.2]
  rfl

/-- A number of digits in range is stored as it is. -/
theorem Plain.unsigned_eq {n : Numeral} (h : n.Plain) (hrange : n.value ≤ 255) : n.unsigned = n.value := by
  rw [unsigned, if_neg (by omega), h.not_negative, if_neg Bool.false_ne_true]
  omega

theorem Plain.int_eq {n : Numeral} (h : n.Plain) (hrange : n.value ≤ 32) : n.int = n.value := by
  rw [int, h.not_negative, if_neg Bool.false_ne_true, max_eq_right (by omega), min_eq_right (by omega),
    Int.bmod_eq_of_le (by omega) (by omega)]

/-- Digits as a number. -/
def ofDigits (digits : Text) (hne : digits ≠ []) (h : ∀ c ∈ digits, isDigit c = true) : Numeral :=
  { blanks := []
    sign := none
    digits := digits
    blanks_isSpace := fun _ hc => nomatch hc
    digits_ne_nil := hne
    digits_isDigit := h }

theorem ofDigits_plain (digits : Text) (hne : digits ≠ []) (h : ∀ c ∈ digits, isDigit c = true) :
    (ofDigits digits hne h).Plain :=
  ⟨rfl, rfl⟩

/-! ## Scanning a number -/

theorem digit_ne {c : UInt8} (h : isDigit c = true) : c ≠ 45 ∧ c ≠ 43 ∧ isSpace c = false := by
  refine ⟨?_, ?_, isSpace_of_isDigit h⟩
  · rintro rfl
    exact absurd h (by decide)
  · rintro rfl
    exact absurd h (by decide)

/-- A sign, and the text after it. -/
def splitSign : Text → Option Bool × Text
  | [] => (none, [])
  | c :: rest =>
      if c = 45 then (some true, rest) else if c = 43 then (some false, rest) else (none, c :: rest)

theorem splitSign_spec (t : Text) : t = signText (splitSign t).1 ++ (splitSign t).2 := by
  cases t with
  | nil => rfl
  | cons c rest =>
      rw [splitSign]
      split_ifs with hminus hplus
      · rw [hminus]
        rfl
      · rw [hplus]
        rfl
      · rfl

/-- Digits have no sign before them. -/
theorem splitSign_signText (sign : Option Bool) {digit : UInt8} (h : isDigit digit = true) (rest : Text) :
    splitSign (signText sign ++ digit :: rest) = (sign, digit :: rest) := by
  obtain ⟨hminus, hplus, -⟩ := digit_ne h
  rcases sign with _ | _ | _
  · exact (if_neg hminus).trans (if_neg hplus)
  · rfl
  · rfl

/-- The conversion in steps: whitespace, a sign, digits. -/
theorem scanDigits_eq (t : Text) :
    scanDigits t =
      if (splitSign (t.dropWhile isSpace)).2.takeWhile isDigit = [] then none
      else some ((splitSign (t.dropWhile isSpace)).1 == some true,
        digitsValue ((splitSign (t.dropWhile isSpace)).2.takeWhile isDigit),
        (splitSign (t.dropWhile isSpace)).2.dropWhile isDigit) := by
  have hdigits : ∀ (negative : Bool) (left : Text),
      (match left.takeWhile isDigit with
        | [] => none
        | digits => some (negative, digitsValue digits, left.dropWhile isDigit)) =
      if left.takeWhile isDigit = [] then none
      else some (negative, digitsValue (left.takeWhile isDigit), left.dropWhile isDigit) := by
    intro negative left
    cases left.takeWhile isDigit with
    | nil => rfl
    | cons digit digits => rw [if_neg (List.cons_ne_nil _ _)]
  rw [scanDigits]
  generalize t.dropWhile isSpace = left
  rcases left with _ | ⟨c, left⟩
  · rfl
  -- a minus, a plus, or no sign
  · by_cases hminus : c = 45
    · subst hminus
      exact hdigits true left
    · by_cases hplus : c = 43
      · subst hplus
        exact hdigits false left
      · have hnone : splitSign (c :: left) = (none, c :: left) := (if_neg hminus).trans (if_neg hplus)
        have hsigned : (match (c :: left : List UInt8) with
            | 45 :: rest => (true, rest)
            | 43 :: rest => (false, rest)
            | rest => (false, rest)) = (false, c :: left) := by
          split
          · rename_i heq
            exact absurd (List.cons.inj heq).1 hminus
          · rename_i heq
            exact absurd (List.cons.inj heq).1 hplus
          · rfl
        rw [hnone]
        exact (congrArg (fun signed : Bool × Text =>
          match signed.2.takeWhile isDigit with
          | [] => none
          | digits => some (signed.1, digitsValue digits, signed.2.dropWhile isDigit)) hsigned).trans
            (hdigits false (c :: left))

/-- A number is scanned, up to where its digits end. -/
theorem scanDigits_text (n : Numeral) {rest : Text} (hrest : DigitsEnd rest) :
    scanDigits (n.text ++ rest) = some (n.negative, n.value, rest) := by
  obtain ⟨digit, more, hdigits⟩ := List.exists_cons_of_ne_nil n.digits_ne_nil
  have hdigit : isDigit digit = true := n.digits_isDigit digit (hdigits ▸ List.mem_cons_self)
  obtain ⟨htake, hdrop⟩ := hrest.span n.digits_isDigit
  have hblanks : (n.text ++ rest).dropWhile isSpace = signText n.sign ++ (n.digits ++ rest) := by
    rw [text, List.append_assoc, List.append_assoc, List.dropWhile_append_of_pos n.blanks_isSpace, hdigits]
    rcases n.sign with _ | _ | _
    · exact List.dropWhile_cons_of_neg (by simp [(digit_ne hdigit).2.2])
    · exact List.dropWhile_cons_of_neg (by decide)
    · exact List.dropWhile_cons_of_neg (by decide)
  have hsign : splitSign ((n.text ++ rest).dropWhile isSpace) = (n.sign, n.digits ++ rest) := by
    rw [hblanks, hdigits, List.cons_append]
    exact splitSign_signText n.sign hdigit _
  rw [scanDigits_eq, hsign]
  dsimp only
  rw [htake, hdrop, if_neg n.digits_ne_nil]
  rfl

/-- What is scanned is a number. -/
theorem exists_of_scanDigits {t rest : Text} {negative : Bool} {value : Nat}
    (h : scanDigits t = some (negative, value, rest)) :
    ∃ n : Numeral, t = n.text ++ rest ∧ DigitsEnd rest ∧ n.negative = negative ∧ n.value = value := by
  have hsign := splitSign_spec (t.dropWhile isSpace)
  rw [scanDigits_eq] at h
  generalize splitSign (t.dropWhile isSpace) = p at h hsign
  split at h
  · cases h
  · rename_i hne
    cases h
    refine ⟨⟨t.takeWhile isSpace, p.1, p.2.takeWhile isDigit, fun c hc => List.mem_takeWhile_imp hc, hne,
      fun c hc => List.mem_takeWhile_imp hc⟩, ?_, ?_, rfl, rfl⟩
    · rw [text, List.append_assoc, List.append_assoc, List.takeWhile_append_dropWhile, ← hsign,
        List.takeWhile_append_dropWhile]
    · intro c hc
      have hhead := List.head?_dropWhile_not isDigit p.2
      rw [Option.mem_def.mp hc] at hhead
      simpa using hhead

theorem scanUnsigned_text (n : Numeral) {rest : Text} (hrest : DigitsEnd rest) :
    scanUnsigned (n.text ++ rest) = some (n.unsigned, rest) := by
  rw [scanUnsigned, n.scanDigits_text hrest]
  rfl

theorem scanInt_text (n : Numeral) {rest : Text} (hrest : DigitsEnd rest) :
    scanInt (n.text ++ rest) = some (n.int, rest) := by
  rw [scanInt, n.scanDigits_text hrest]
  rfl

theorem exists_of_scanUnsigned {t rest : Text} {value : Nat} (h : scanUnsigned t = some (value, rest)) :
    ∃ n : Numeral, t = n.text ++ rest ∧ DigitsEnd rest ∧ n.unsigned = value := by
  obtain ⟨⟨negative, digits, left⟩, hscan, heq⟩ := Option.map_eq_some_iff.mp h
  obtain ⟨n, rfl, hrest, rfl, rfl⟩ := exists_of_scanDigits hscan
  cases heq
  exact ⟨n, rfl, hrest, rfl⟩

theorem exists_of_scanInt {t rest : Text} {value : Int} (h : scanInt t = some (value, rest)) :
    ∃ n : Numeral, t = n.text ++ rest ∧ DigitsEnd rest ∧ n.int = value := by
  obtain ⟨⟨negative, digits, left⟩, hscan, heq⟩ := Option.map_eq_some_iff.mp h
  obtain ⟨n, rfl, hrest, rfl, rfl⟩ := exists_of_scanDigits hscan
  cases heq
  exact ⟨n, rfl, hrest, rfl⟩

/-- A text that begins with a plain number begins with no other number. -/
theorem Plain.unique {n n' : Numeral} (h : n.Plain) {rest rest' : Text} (hrest : DigitsEnd rest)
    (hrest' : DigitsEnd rest') (heq : n.text ++ rest = n'.text ++ rest') :
    n'.Plain ∧ n'.value = n.value ∧ rest' = rest := by
  have hscan := n.scanDigits_text hrest
  rw [heq, n'.scanDigits_text hrest'] at hscan
  simp only [Option.some.injEq, Prod.mk.injEq] at hscan
  refine ⟨?_, hscan.2⟩
  -- The first character is a digit.
  obtain ⟨digit, more, hdigits⟩ := List.exists_cons_of_ne_nil n.digits_ne_nil
  have hdigit : isDigit digit = true := n.digits_isDigit digit (hdigits ▸ List.mem_cons_self)
  obtain ⟨hminus, hplus, hspace⟩ := digit_ne hdigit
  rw [h.text_eq, hdigits, List.cons_append] at heq
  have hblanks : n'.blanks = [] := by
    cases hblanks : n'.blanks with
    | nil => rfl
    | cons c blanks =>
        rw [text, hblanks] at heq
        have hc := n'.blanks_isSpace c (hblanks ▸ List.mem_cons_self)
        rw [← (List.cons.inj heq).1, hspace] at hc
        cases hc
  refine ⟨hblanks, ?_⟩
  rw [text, hblanks, List.nil_append] at heq
  rcases hsign : n'.sign with _ | _ | _
  · rfl
  · rw [hsign] at heq
    exact absurd (List.cons.inj heq).1 hplus
  · rw [hsign] at heq
    exact absurd (List.cons.inj heq).1 hminus

end Numeral

/-! ## What is printed is parsed -/

/-- What `%u` prints is a plain number. -/
def Numeral.printed (n : Nat) : Numeral :=
  .ofDigits (printNat n) (printNat_ne_nil n) (printNat_isDigit n)

theorem Numeral.printed_plain (n : Nat) : (printed n).Plain :=
  ofDigits_plain _ _ _

theorem Numeral.printed_value (n : Nat) : (printed n).value = n :=
  digitsValue_printNat n

theorem scanUnsigned_printNat {n : Nat} (hn : n ≤ 255) {rest : Text} (hrest : DigitsEnd rest) :
    scanUnsigned (printNat n ++ rest) = some (n, rest) := by
  have hscan := (Numeral.printed n).scanUnsigned_text hrest
  rw [(Numeral.printed_plain n).unsigned_eq ((Numeral.printed_value n).le.trans hn),
    (Numeral.printed_plain n).text_eq, Numeral.printed_value] at hscan
  exact hscan

theorem scanInt_printNat {n : Nat} (hn : n ≤ 32) {rest : Text} (hrest : DigitsEnd rest) :
    scanInt (printNat n ++ rest) = some ((n : Int), rest) := by
  have hscan := (Numeral.printed n).scanInt_text hrest
  rw [(Numeral.printed_plain n).int_eq ((Numeral.printed_value n).le.trans hn),
    (Numeral.printed_plain n).text_eq, Numeral.printed_value] at hscan
  exact hscan

/-- Printed octets are scanned, whatever follows them. -/
theorem scanOctets_print (a b c d : UInt8) {rest : Text} (hrest : DigitsEnd rest) :
    scanOctets (printNat a.toNat ++ 46 :: (printNat b.toNat ++ 46 :: (printNat c.toNat ++ 46 ::
        (printNat d.toNat ++ rest)))) =
      some (a.toNat, b.toNat, c.toNat, d.toNat, rest) := by
  have hsmall : ∀ octet : UInt8, octet.toNat ≤ 255 := fun octet => Nat.le_of_lt_succ octet.toNat_lt
  have hdot : ∀ t : Text, DigitsEnd (46 :: t) := DigitsEnd.cons (by decide)
  rw [scanOctets, scanUnsigned_printNat (hsmall a) (hdot _)]
  simp only [Option.bind_eq_bind, Option.bind_some, scanChar, if_true,
    scanUnsigned_printNat (hsmall b) (hdot _), scanUnsigned_printNat (hsmall c) (hdot _),
    scanUnsigned_printNat (hsmall d) hrest]

/-- An address is parsed from what it is printed as, with its network bits when they are printed. -/
theorem ipParse_ipToString (ip outIp : IpAddress) (includePrefix : Bool)
    (h : ip.prefixLen.toNat ≤ 32) :
    ipParse (ipToString ip includePrefix) outIp =
      (true, { ip with prefixLen := if includePrefix then ip.prefixLen else 0 }) := by
  have hoctet : ∀ octet : UInt8, ¬ 255 < octet.toNat := fun octet => by
    have := octet.toNat_lt
    omega
  cases includePrefix with
  | true =>
      have hscan := scanOctets_print ip.octet0 ip.octet1 ip.octet2 ip.octet3
        (@DigitsEnd.cons 47 (by decide) (printNat ip.prefixLen.toNat))
      have hint := @scanInt_printNat ip.prefixLen.toNat h [] DigitsEnd.nil
      rw [List.append_nil] at hint
      have hprefix : scanPrefix (47 :: printNat ip.prefixLen.toNat) = ip.prefixLen.toNat := by
        rw [scanPrefix, scanChar, if_pos rfl, Option.bind_some, hint]
        rfl
      rw [ipParse, ipToString]
      simp only [if_true, hscan, hprefix, hoctet, if_false]
      rw [if_neg (by omega)]
      simp
  | false =>
      have hscan := scanOctets_print ip.octet0 ip.octet1 ip.octet2 ip.octet3 DigitsEnd.nil
      rw [ipParse, ipToString]
      simp only [Bool.false_eq_true, if_false, hscan, hoctet]
      rw [if_neg (by decide)]
      simp [scanPrefix, scanChar]

/-! ## What is parsed -/

/-- The network bits of what `ip_parse` leaves are at most 32. -/
theorem ipParse_prefixLen (str : Text) {outIp : IpAddress} (h : outIp.prefixLen.toNat ≤ 32) :
    (ipParse str outIp).2.prefixLen.toNat ≤ 32 := by
  rw [ipParse]
  split
  · exact h
  · rename_i a b c d rest hscan
    simp only
    split_ifs with hprefix
    · exact h
    · exact h
    · exact h
    · exact h
    · exact h
    · rw [UInt8.toNat_ofNat']
      omega

/-! ## The text -/

/-- A number below a power of ten has no more digits than the exponent says. -/
theorem printNat_length {n k : Nat} (hk : 0 < k) (h : n < 10 ^ k) : (printNat n).length ≤ k := by
  rw [printNat]
  split
  · exact hk
  · rw [List.length_reverse, List.length_map]
    exact Nat.digits_length_le_iff (by decide) n |>.mpr h

theorem printNat_octet_length (octet : UInt8) : (printNat octet.toNat).length ≤ 3 := by
  have hlt := octet.toNat_lt
  exact printNat_length (by decide) (by omega)

/-- Four octets take fifteen bytes, and the network bits one more than their digits. -/
theorem ipToString_length_of {ip : IpAddress} {k : Nat} (h : (printNat ip.prefixLen.toNat).length ≤ k)
    (includePrefix : Bool) : (ipToString ip includePrefix).length ≤ 16 + k := by
  have h0 := printNat_octet_length ip.octet0
  have h1 := printNat_octet_length ip.octet1
  have h2 := printNat_octet_length ip.octet2
  have h3 := printNat_octet_length ip.octet3
  rw [ipToString]
  split_ifs
  · simp only [List.length_append, List.length_cons]
    omega
  · simp only [List.length_append, List.length_cons, List.length_nil]
    omega

theorem ipToString_length (ip : IpAddress) (includePrefix : Bool) :
    (ipToString ip includePrefix).length ≤ 19 :=
  ipToString_length_of (printNat_octet_length ip.prefixLen) includePrefix

theorem zero_notMem_printNat (n : Nat) : 0 ∉ printNat n := fun h =>
  absurd (printNat_isDigit n 0 h) (by decide)

theorem zero_notMem_ipToString (ip : IpAddress) (includePrefix : Bool) :
    0 ∉ ipToString ip includePrefix := by
  rw [ipToString]
  split_ifs
  · simp [zero_notMem_printNat]
  · simp [zero_notMem_printNat]

end MagiStack
