import MagiStack.Core.Text
import Mathlib.Data.Rat.Floor

/-!
# CFloat — the floating-point arithmetic of the C implementation

Link delays are `float`s and JSON numbers `double`s.  Their arithmetic is a parameter: the two types
with the operations the program uses, and the laws that hold of integers a `double` represents exactly.
-/

namespace MagiStack

/-- Integers that a `double` represents exactly, with all that lies between them and zero. -/
def ExactInt (n : Int) : Prop :=
  -2 ^ 53 ≤ n ∧ n ≤ 2 ^ 53

/-- `double` and `float`.  Integer operations whose operands and result are exact give that result; `0` times
a negative number and the negative of `0` are `-0.0`, which no integer is converted to, and are left out. -/
structure CFloat where
  Double : Type
  Single : Type
  ofInt : Int → Double
  add : Double → Double → Double
  mul : Double → Double → Double
  div : Double → Double → Double
  neg : Double → Double
  equal : Double → Double → Bool
  toInt : Double → Int
  toLongLong : Double → Int
  formatG : Double → Text
  toSingle : Double → Single
  toDouble : Single → Double
  isNegative : Single → Bool
  zero : Single
  add_ofInt : ∀ {a b}, ExactInt a → ExactInt b → ExactInt (a + b) →
    add (ofInt a) (ofInt b) = ofInt (a + b)
  mul_ofInt : ∀ {a b}, 0 ≤ a → 0 ≤ b → ExactInt a → ExactInt b → ExactInt (a * b) →
    mul (ofInt a) (ofInt b) = ofInt (a * b)
  neg_ofInt : ∀ {a}, ExactInt a → a ≠ 0 → neg (ofInt a) = ofInt (-a)
  equal_ofInt : ∀ {a}, ExactInt a → equal (ofInt a) (ofInt a) = true
  toInt_ofInt : ∀ {a}, -2 ^ 31 ≤ a → a < 2 ^ 31 → toInt (ofInt a) = a
  toLongLong_ofInt : ∀ {a}, ExactInt a → toLongLong (ofInt a) = a

/-! ## Arithmetic without rounding -/

namespace ExactFloat

/-- The power of ten of the first digit of a positive number. -/
def exponent (x : ℚ) : Int :=
  if 1 ≤ x then (printNat ⌊x⌋.toNat).length - 1 else -(printNat (⌈1 / x⌉.toNat - 1)).length

/-- To the nearest integer, halves to the even one. -/
def roundHalfEven (x : ℚ) : Nat :=
  let floor := ⌊x⌋.toNat
  let rest := x - floor
  if rest < 1 / 2 ∨ (rest = 1 / 2 ∧ floor % 2 = 0) then floor else floor + 1

/-- The six significant digits `%g` prints of a positive number, and their exponent. -/
def significant (x : ℚ) : Text × Int :=
  let e := exponent x
  let digits := roundHalfEven (x * (10 : ℚ) ^ (5 - e))
  if 1000000 ≤ digits then (printNat (digits / 10), e + 1) else (printNat digits, e)

/-- A fraction part without its trailing zeros, and without the point when nothing is left of it. -/
def fraction (digits : Text) : Text :=
  match digits.reverse.dropWhile (· == 48) with
  | [] => []
  | rest => 46 :: rest.reverse

/-- `%g` of a positive number. -/
def formatPositive (x : ℚ) : Text :=
  let (digits, e) := significant x
  if -4 ≤ e ∧ e < 0 then
    48 :: fraction (List.replicate (-e - 1).toNat 48 ++ digits)
  else if 0 ≤ e ∧ e < 6 then
    digits.take (e.toNat + 1) ++ fraction (digits.drop (e.toNat + 1))
  else
    digits.take 1 ++ fraction (digits.drop 1) ++ [101, if e < 0 then 45 else 43] ++
      (if e.natAbs < 10 then 48 :: printNat e.natAbs else printNat e.natAbs)

/-- `%g`. -/
def formatG (x : ℚ) : Text :=
  if x = 0 then [48] else if x < 0 then 45 :: formatPositive (-x) else formatPositive x

end ExactFloat

/-- Arithmetic on rationals: the program's, wherever no operation rounds. -/
def exactFloat : CFloat where
  Double := ℚ
  Single := ℚ
  ofInt n := n
  add x y := x + y
  mul x y := x * y
  div x y := x / y
  neg x := -x
  equal x y := x == y
  toInt x := x.num.tdiv x.den
  toLongLong x := x.num.tdiv x.den
  formatG := ExactFloat.formatG
  toSingle x := x
  toDouble x := x
  isNegative x := decide (x < 0)
  zero := (0 : ℚ)
  add_ofInt _ _ _ := by
    push_cast
    rfl
  mul_ofInt _ _ _ _ _ := by
    push_cast
    rfl
  neg_ofInt _ _ := by
    push_cast
    rfl
  equal_ofInt _ := beq_self_eq_true _
  toInt_ofInt _ _ := by simp
  toLongLong_ofInt _ := by simp

/-! ## Times -/

/-- Times in milliseconds, with what the retry timers do with them.  No law of their arithmetic is used. -/
class SimTime (Ms : Type) where
  addMs : Ms → Nat → Ms
  leMs : Ms → Ms → Bool

instance : SimTime ℚ where
  addMs now ms := now + ms
  leMs a b := decide (a ≤ b)

end MagiStack
