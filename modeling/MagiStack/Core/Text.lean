import Mathlib.Data.Nat.Digits.Defs
import Mathlib.Data.UInt
import Mathlib.Tactic.IntervalCases

/-!
# Text — C strings

A C string is the list of its bytes before the terminating zero.  Here are the library functions the
program uses on them: `isspace`, `isdigit`, `atoi`, `strncpy` into a sized array, and the decimal
conversions of `printf`.
-/

namespace MagiStack

/-- The bytes of a C string, without the terminating zero. -/
abbrev Text : Type := List UInt8

/-- A literal of the source as bytes. -/
def text (s : String) : Text :=
  s.toList.map fun c => UInt8.ofNat c.toNat

/-- A literal is the text of its characters. -/
theorem text_ofList (l : List Char) : text (String.ofList l) = l.map fun c => UInt8.ofNat c.toNat := by
  rw [text, String.toList_ofList]

/-- `isspace`. -/
def isSpace (c : UInt8) : Bool :=
  c == 32 || (9 ≤ c && c ≤ 13)

/-- `isdigit`. -/
def isDigit (c : UInt8) : Bool :=
  48 ≤ c && c ≤ 57

/-- `c - '0'`. -/
def digitValue (c : UInt8) : Nat :=
  c.toNat - 48

/-- The value of decimal digits. -/
def digitsValue (digits : Text) : Nat :=
  digits.foldl (fun value c => value * 10 + digitValue c) 0

/-- `strncpy` of a string into an array of `size` bytes, terminated. -/
def strncpyTerminated (s : Text) (size : Nat) : Text :=
  s.take (size - 1)

/-- `(int)strtol(s, NULL, 10)` with a `long` of 64 bits. -/
def atoi (s : Text) : Int :=
  let rest := s.dropWhile isSpace
  let magnitude := fun digits : Text => (digitsValue (digits.takeWhile isDigit) : Int)
  let value :=
    match rest with
    | 45 :: digits => -magnitude digits
    | 43 :: digits => magnitude digits
    | digits => magnitude digits
  (max (-2 ^ 63) (min (2 ^ 63 - 1) value)).bmod (2 ^ 32)

/-- `%u` of a number. -/
def printNat (n : Nat) : Text :=
  if n = 0 then [48] else ((Nat.digits 10 n).map fun digit => UInt8.ofNat (48 + digit)).reverse

/-- `%d` of a number. -/
def printInt : Int → Text
  | .ofNat n => printNat n
  | .negSucc n => 45 :: printNat (n + 1)

/-! ## Digits -/

theorem digitsValue_append (digits : Text) (c : UInt8) :
    digitsValue (digits ++ [c]) = digitsValue digits * 10 + digitValue c := by
  simp [digitsValue]

theorem digit_spec {digit : Nat} (h : digit < 10) :
    isDigit (UInt8.ofNat (48 + digit)) = true ∧ digitValue (UInt8.ofNat (48 + digit)) = digit := by
  interval_cases digit
  all_goals decide

theorem printNat_isDigit (n : Nat) : ∀ c ∈ printNat n, isDigit c = true := by
  intro c hc
  rw [printNat] at hc
  split at hc
  · rw [List.mem_singleton.mp hc]
    decide
  · rcases List.mem_map.mp (List.mem_reverse.mp hc) with ⟨digit, hdigit, rfl⟩
    exact (digit_spec (Nat.digits_lt_base (by decide) hdigit)).1

theorem printNat_ne_nil (n : Nat) : printNat n ≠ [] := by
  rw [printNat]
  split
  · exact List.cons_ne_nil _ _
  · rename_i hn
    simpa [Nat.digits_eq_nil_iff_eq_zero] using hn

/-- Reading the digits that `printf` wrote. -/
theorem digitsValue_printNat (n : Nat) : digitsValue (printNat n) = n := by
  have hdigits : ∀ digits : List Nat, (∀ digit ∈ digits, digit < 10) →
      digitsValue ((digits.map fun digit => UInt8.ofNat (48 + digit)).reverse) =
        Nat.ofDigits 10 digits := by
    intro digits hlt
    induction digits with
    | nil => rfl
    | cons digit rest ih =>
        have hrest := ih fun d hd => hlt d (List.mem_cons_of_mem digit hd)
        rw [List.map_cons, List.reverse_cons, digitsValue_append, hrest, Nat.ofDigits_cons,
          (digit_spec (hlt digit List.mem_cons_self)).2]
        omega
  rw [printNat]
  split
  · rename_i hn
    rw [hn]
    rfl
  · rw [hdigits _ fun digit hdigit => Nat.digits_lt_base (by decide) hdigit, Nat.ofDigits_digits]

theorem isSpace_of_isDigit {c : UInt8} (h : isDigit c = true) : isSpace c = false := by
  simp only [isDigit, Bool.and_eq_true, decide_eq_true_eq, UInt8.le_iff_toNat_le] at h
  have hlow : ¬ c.toNat ≤ 13 := by
    have := h.1
    simp only [UInt8.toNat_ofNat] at this
    omega
  have hspace : c ≠ 32 := by
    rintro rfl
    exact absurd h.1 (by decide)
  simp [isSpace, hspace, UInt8.le_iff_toNat_le, hlow]

/-- Text that does not go on with digits before it. -/
def DigitsEnd (rest : Text) : Prop :=
  ∀ c ∈ rest.head?, isDigit c = false

theorem DigitsEnd.nil : DigitsEnd [] := fun _ h => nomatch h

theorem DigitsEnd.cons {c : UInt8} (h : isDigit c = false) (rest : Text) : DigitsEnd (c :: rest) := by
  intro d hd
  cases hd
  exact h

/-- Digits are taken up to their end. -/
theorem DigitsEnd.span {digits rest : Text} (h : DigitsEnd rest)
    (hdigits : ∀ c ∈ digits, isDigit c = true) :
    (digits ++ rest).takeWhile isDigit = digits ∧ (digits ++ rest).dropWhile isDigit = rest := by
  have hrest : rest.takeWhile isDigit = [] ∧ rest.dropWhile isDigit = rest := by
    cases rest with
    | nil => exact ⟨rfl, rfl⟩
    | cons c rest => simp [h c rfl]
  rw [List.takeWhile_append_of_pos hdigits, List.dropWhile_append_of_pos hdigits, hrest.1, hrest.2]
  exact ⟨List.append_nil _, rfl⟩

/-- The digits at the start of a text stay the same when no digit follows it. -/
theorem DigitsEnd.append {rest : Text} (h : DigitsEnd rest) (t : Text) :
    (t ++ rest).takeWhile isDigit = t.takeWhile isDigit ∧
      (t ++ rest).dropWhile isDigit = t.dropWhile isDigit ++ rest := by
  induction t with
  | nil => exact @DigitsEnd.span [] rest h fun c hc => (nomatch hc)
  | cons c t ih =>
      rw [List.cons_append, List.takeWhile_cons, List.takeWhile_cons, List.dropWhile_cons,
        List.dropWhile_cons, ih.1, ih.2]
      split_ifs
      · exact ⟨rfl, rfl⟩
      · exact ⟨rfl, rfl⟩

/-- Reading an `int` that `printf` wrote. -/
theorem atoi_printNat {n : Nat} (h : n < 2 ^ 31) : atoi (printNat n) = n := by
  have hspan := DigitsEnd.nil.span (printNat_isDigit n)
  rw [List.append_nil] at hspan
  have hvalue := digitsValue_printNat n
  have hdigits := printNat_isDigit n
  rw [atoi]
  cases htext : printNat n with
  | nil => exact absurd htext (printNat_ne_nil n)
  | cons digit digits =>
      rw [htext] at hspan hvalue hdigits
      have hdigit := hdigits digit List.mem_cons_self
      have hspace : (digit :: digits).dropWhile isSpace = digit :: digits := by
        rw [List.dropWhile_cons, if_neg (by simp [isSpace_of_isDigit hdigit])]
      have hminus : digit ≠ 45 := by
        rintro rfl
        exact absurd hdigit (by decide)
      have hplus : digit ≠ 43 := by
        rintro rfl
        exact absurd hdigit (by decide)
      simp only [hspace]
      split
      · rename_i heq
        exact absurd (List.cons.inj heq).1 hminus
      · rename_i heq
        exact absurd (List.cons.inj heq).1 hplus
      · rw [hspan.1, hvalue, max_eq_right (by omega), min_eq_right (by omega),
          Int.bmod_eq_of_le (by omega) (by omega)]

end MagiStack
