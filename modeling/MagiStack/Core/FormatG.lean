import Mathlib.Data.Nat.Digits.Lemmas
import Mathlib.Tactic.FieldSimp
import Mathlib.Tactic.Linarith
import Mathlib.Data.List.TakeWhile
import MagiStack.Core.CFloat

/-!
# FormatG — what `%g` prints of an exact number

The digits `%g` prints are six, and they are the number rounded to six significant digits.  Where no
exponent is printed the text is a whole part and a fraction part, which together have the value of these
digits.
-/

namespace MagiStack

/-! ## Digits -/

/-- The value of digits in a row. -/
theorem digitsValue_append_digits (before after : Text) :
    digitsValue (before ++ after) = digitsValue before * 10 ^ after.length + digitsValue after := by
  induction after using List.reverseRecOn with
  | nil => simp [digitsValue]
  | append_singleton after c ih =>
      rw [← List.append_assoc, digitsValue_append, ih, digitsValue_append, List.length_append,
        List.length_singleton, pow_succ]
      ring

theorem digitsValue_zeros (count : Nat) : digitsValue (List.replicate count 48) = 0 := by
  induction count with
  | zero => rfl
  | succ count ih =>
      rw [List.replicate_succ', digitsValue_append, ih]
      rfl

theorem length_printNat {n : Nat} (hn : n ≠ 0) : (printNat n).length = (Nat.digits 10 n).length := by
  rw [printNat, if_neg hn, List.length_reverse, List.length_map]

/-- A number has its digits' powers of ten around it. -/
theorem printNat_bounds {n : Nat} (hn : n ≠ 0) :
    0 < (printNat n).length ∧ 10 ^ ((printNat n).length - 1) ≤ n ∧ n < 10 ^ (printNat n).length := by
  rw [length_printNat hn]
  have hpos : 0 < (Nat.digits 10 n).length := List.length_pos_iff.mpr (Nat.digits_ne_nil_iff_ne_zero.mpr hn)
  exact ⟨hpos, (Nat.lt_digits_length_iff (by decide) n).mp (by omega),
    Nat.lt_base_pow_length_digits (by decide)⟩

/-- Digits behind a point. -/
def fractionValue (digits : Text) : ℚ :=
  digitsValue digits / 10 ^ digits.length

namespace ExactFloat

/-! ## The digits and their exponent -/

/-- The exponent is that of the first digit. -/
theorem exponent_spec {x : ℚ} (hx : 0 < x) :
    (10 : ℚ) ^ exponent x ≤ x ∧ x < (10 : ℚ) ^ (exponent x + 1) := by
  rw [exponent]
  split_ifs with hone
  · -- The digits of the whole part.
    have hfloor : 1 ≤ ⌊x⌋ := Int.le_floor.mpr (by exact_mod_cast hone)
    obtain ⟨n, hn⟩ := Int.eq_ofNat_of_zero_le (Int.floor_nonneg.mpr hx.le)
    have hn' : ⌊x⌋.toNat = n := by omega
    rw [hn']
    obtain ⟨hpos, hlow, hhigh⟩ := printNat_bounds (n := n) (by omega)
    have hcast : ((printNat n).length : ℤ) - 1 = (((printNat n).length - 1 : ℕ) : ℤ) := by omega
    constructor
    · rw [hcast, zpow_natCast]
      calc
        (10 : ℚ) ^ ((printNat n).length - 1) ≤ n := by exact_mod_cast hlow
        _ = (⌊x⌋ : ℚ) := by rw [hn]; rfl
        _ ≤ x := Int.floor_le x
    · rw [sub_add_cancel, zpow_natCast]
      calc
        x < ⌊x⌋ + 1 := Int.lt_floor_add_one x
        _ = (n : ℚ) + 1 := by rw [hn]; rfl
        _ ≤ (10 : ℚ) ^ (printNat n).length := by exact_mod_cast hhigh
  · -- The digits of the inverse, less the one that would make it a power of ten.
    rw [not_le] at hone
    have hinv : 1 < 1 / x := by rw [lt_div_iff₀ hx, one_mul]; exact hone
    have hceil : 1 < ⌈1 / x⌉ := Int.lt_ceil.mpr (by exact_mod_cast hinv)
    obtain ⟨n, hn⟩ := Int.eq_ofNat_of_zero_le (show 0 ≤ ⌈1 / x⌉ - 1 by omega)
    have hn' : ⌈1 / x⌉.toNat - 1 = n := by omega
    rw [hn']
    obtain ⟨hpos, hlow, hhigh⟩ := printNat_bounds (n := n) (by omega)
    have hcast : ((⌈1 / x⌉ : ℤ) : ℚ) = n + 1 := by
      have hsucc : ⌈1 / x⌉ = (n : ℤ) + 1 := by omega
      rw [hsucc]
      push_cast
      rfl
    have hbelow : (n : ℚ) < 1 / x := by
      have hlt := Int.ceil_lt_add_one (1 / x)
      rw [hcast] at hlt
      linarith
    have habove : 1 / x ≤ (n : ℚ) + 1 := by
      have hle := Int.le_ceil (1 / x)
      rwa [hcast] at hle
    constructor
    · rw [zpow_neg, zpow_natCast, inv_le_comm₀ (by positivity) hx, inv_eq_one_div]
      exact habove.trans (by exact_mod_cast hhigh)
    · have hexponent : -((printNat n).length : ℤ) + 1 = -(((printNat n).length - 1 : ℕ) : ℤ) := by omega
      rw [hexponent, zpow_neg, zpow_natCast, lt_inv_comm₀ hx (by positivity), inv_eq_one_div]
      exact lt_of_le_of_lt (by exact_mod_cast hlow) hbelow

/-- Rounding moves by a half at most, and not over a whole number. -/
theorem roundHalfEven_spec {y : ℚ} (hy : 0 ≤ y) :
    |(roundHalfEven y : ℚ) - y| ≤ 1 / 2 ∧ (∀ n : ℕ, (n : ℚ) ≤ y → n ≤ roundHalfEven y) ∧
      ∀ n : ℕ, y < n → roundHalfEven y ≤ n := by
  obtain ⟨n, hn⟩ := Int.eq_ofNat_of_zero_le (Int.floor_nonneg.mpr hy)
  have hn' : ⌊y⌋.toNat = n := by omega
  have hfloor : ((⌊y⌋ : ℤ) : ℚ) = n := by rw [hn]; rfl
  have hlow : (n : ℚ) ≤ y := hfloor ▸ Int.floor_le y
  have hhigh : y < n + 1 := hfloor ▸ Int.lt_floor_add_one y
  have hbelow : ∀ m : ℕ, (m : ℚ) ≤ y → m ≤ n := by
    intro m hm
    have hlt : (m : ℚ) < (n + 1 : ℕ) := by push_cast; linarith
    exact Nat.lt_succ_iff.mp (by exact_mod_cast hlt)
  have habove : ∀ m : ℕ, y < m → n + 1 ≤ m := by
    intro m hm
    have hlt : (n : ℚ) < m := lt_of_le_of_lt hlow hm
    exact_mod_cast hlt
  rw [roundHalfEven, hn']
  -- The fraction is a half at most where the whole part is taken, and at least where the next is.
  split_ifs with hdown
  · have hhalf : y - n ≤ 1 / 2 := by
      rcases hdown with hlt | ⟨heq, -⟩
      · exact hlt.le
      · exact heq.le
    refine ⟨?_, hbelow, fun m hm => (Nat.le_succ n).trans (habove m hm)⟩
    rw [abs_of_nonpos (by linarith)]
    linarith
  · have hhalf : 1 / 2 ≤ y - n := not_lt.mp fun hlt => hdown (Or.inl hlt)
    refine ⟨?_, fun m hm => (hbelow m hm).trans (Nat.le_succ n), habove⟩
    push_cast
    rw [abs_of_nonneg (by linarith)]
    linarith

/-- The number that six digits and their exponent stand for. -/
def decimalValue (p : Text × Int) : ℚ :=
  digitsValue p.1 * (10 : ℚ) ^ (p.2 - 5)

/-- Six digits, and the number they stand for is as close as six digits get. -/
theorem significant_spec {x : ℚ} (hx : 0 < x) :
    (significant x).1.length = 6 ∧
      |decimalValue (significant x) - x| ≤ 1 / 2 * (10 : ℚ) ^ (exponent x - 5) := by
  obtain ⟨hlow, hhigh⟩ := exponent_spec hx
  have hten : (10 : ℚ) ≠ 0 := by norm_num
  have hscale : (0 : ℚ) < (10 : ℚ) ^ (exponent x - 5) := zpow_pos (by norm_num) _
  have hback : x * (10 : ℚ) ^ (5 - exponent x) * (10 : ℚ) ^ (exponent x - 5) = x := by
    rw [mul_assoc, ← zpow_add₀ hten, show 5 - exponent x + (exponent x - 5) = 0 by ring, zpow_zero,
      mul_one]
  -- Scaled, the number has six digits before the point.
  have hsmall : ((100000 : ℕ) : ℚ) ≤ x * (10 : ℚ) ^ (5 - exponent x) := by
    refine le_of_mul_le_mul_right ?_ hscale
    rw [hback]
    refine le_trans (le_of_eq ?_) hlow
    rw [show exponent x = 5 + (exponent x - 5) by ring, zpow_add₀ hten]
    norm_num
  have hlarge : x * (10 : ℚ) ^ (5 - exponent x) < (1000000 : ℕ) := by
    refine lt_of_mul_lt_mul_right ?_ hscale.le
    rw [hback]
    refine lt_of_lt_of_eq hhigh ?_
    rw [show exponent x + 1 = 6 + (exponent x - 5) by ring, zpow_add₀ hten]
    norm_num
  obtain ⟨hround, hle, hge⟩ := roundHalfEven_spec (y := x * (10 : ℚ) ^ (5 - exponent x))
    (mul_nonneg hx.le (zpow_nonneg (by norm_num) _))
  have hfrom := hle 100000 hsmall
  have hto := hge 1000000 hlarge
  have hclose : |(roundHalfEven (x * (10 : ℚ) ^ (5 - exponent x)) : ℚ) * (10 : ℚ) ^ (exponent x - 5) - x| ≤
      1 / 2 * (10 : ℚ) ^ (exponent x - 5) := by
    calc
      _ = |((roundHalfEven (x * (10 : ℚ) ^ (5 - exponent x)) : ℚ) - x * (10 : ℚ) ^ (5 - exponent x)) *
          (10 : ℚ) ^ (exponent x - 5)| := by rw [sub_mul, hback]
      _ = |(roundHalfEven (x * (10 : ℚ) ^ (5 - exponent x)) : ℚ) - x * (10 : ℚ) ^ (5 - exponent x)| *
          (10 : ℚ) ^ (exponent x - 5) := by rw [abs_mul, abs_of_pos hscale]
      _ ≤ 1 / 2 * (10 : ℚ) ^ (exponent x - 5) := mul_le_mul_of_nonneg_right hround hscale.le
  rw [significant, decimalValue]
  generalize roundHalfEven (x * (10 : ℚ) ^ (5 - exponent x)) = digits at hfrom hto hclose ⊢
  have hlength : ∀ n : ℕ, 100000 ≤ n → n < 1000000 → (printNat n).length = 6 := by
    intro n hn hn'
    rw [length_printNat (by omega)]
    exact le_antisymm ((Nat.digits_length_le_iff (by decide) n).mpr (by omega))
      ((Nat.lt_digits_length_iff (by decide) n).mpr (by omega))
  split_ifs with hcarry
  · -- Rounded up to the next power of ten.
    have hdigits : digits = 1000000 := le_antisymm hto hcarry
    subst hdigits
    refine ⟨hlength (1000000 / 10) (by norm_num) (by norm_num), ?_⟩
    rw [digitsValue_printNat]
    refine le_of_eq_of_le (congrArg (fun value => |value - x|) ?_) hclose
    rw [show exponent x + 1 - 5 = 1 + (exponent x - 5) by ring, zpow_add₀ hten, zpow_one, ← mul_assoc]
    norm_num
  · refine ⟨hlength digits hfrom (by omega), ?_⟩
    rwa [digitsValue_printNat]

/-! ## The text -/

/-- Trailing zeros are left out, and the point with them. -/
theorem fraction_spec (digits : Text) (h : ∀ c ∈ digits, isDigit c = true) :
    (fraction digits = [] ∧ fractionValue digits = 0) ∨
      ∃ kept, fraction digits = 46 :: kept ∧ (∀ c ∈ kept, isDigit c = true) ∧
        fractionValue kept = fractionValue digits := by
  have hsplit : digits = (digits.reverse.dropWhile (· == 48)).reverse ++
      List.replicate (digits.reverse.takeWhile (· == 48)).length 48 := by
    have hzeros : digits.reverse.takeWhile (· == 48) =
        List.replicate (digits.reverse.takeWhile (· == 48)).length 48 :=
      List.eq_replicate_iff.mpr ⟨rfl, fun c hc =>
        beq_iff_eq.mp (List.mem_takeWhile_imp (p := (· == 48)) hc)⟩
    have hjoin := congrArg List.reverse (List.takeWhile_append_dropWhile (p := (· == 48)) (l := digits.reverse))
    rw [List.reverse_append, List.reverse_reverse, hzeros, List.reverse_replicate] at hjoin
    exact hjoin.symm
  -- What is kept are digits, of the same value without the zeros behind them.
  have hkept : ∀ c ∈ (digits.reverse.dropWhile (· == 48)).reverse, isDigit c = true := by
    intro c hc
    rw [hsplit] at h
    exact h c (List.mem_append_left _ hc)
  generalize (digits.reverse.takeWhile (· == 48)).length = zeros at hsplit
  have hvalue : fractionValue digits = fractionValue (digits.reverse.dropWhile (· == 48)).reverse := by
    generalize (digits.reverse.dropWhile (· == 48)).reverse = kept at hsplit
    rw [hsplit, fractionValue, fractionValue, digitsValue_append_digits, digitsValue_zeros,
      List.length_append, List.length_replicate, pow_add]
    push_cast
    rw [add_zero, mul_div_mul_right _ _ (by positivity)]
  rw [fraction]
  split
  · rename_i hnone
    rw [hnone] at hvalue
    exact Or.inl ⟨rfl, hvalue.trans (by simp [fractionValue, digitsValue])⟩
  · exact Or.inr ⟨_, rfl, hkept, hvalue.symm⟩

/-- `%g` prints no exponent. -/
def IsPlain (x : ℚ) : Prop :=
  -4 ≤ (significant x).2 ∧ (significant x).2 < 6

instance (x : ℚ) : Decidable (IsPlain x) :=
  inferInstanceAs (Decidable (_ ∧ _))

theorem significant_digits (x : ℚ) :
    (significant x).1 ≠ [] ∧ ∀ c ∈ (significant x).1, isDigit c = true := by
  rw [significant]
  split_ifs
  · exact ⟨printNat_ne_nil _, printNat_isDigit _⟩
  · exact ⟨printNat_ne_nil _, printNat_isDigit _⟩

/-- Whole and fraction part have the value of the digits. -/
theorem formatPositive_plain {x : ℚ} (hx : 0 < x) (h : IsPlain x) :
    ∃ whole frac, formatPositive x = whole ++ fraction frac ∧ whole ≠ [] ∧
      (∀ c ∈ whole, isDigit c = true) ∧ (∀ c ∈ frac, isDigit c = true) ∧
      (digitsValue whole : ℚ) + fractionValue frac = decimalValue (significant x) := by
  have hten : (10 : ℚ) ≠ 0 := by norm_num
  have hlength := (significant_spec hx).1
  have hdigits := (significant_digits x).2
  rw [IsPlain] at h
  rw [formatPositive, decimalValue]
  generalize significant x = p at hlength hdigits h ⊢
  rcases p with ⟨digits, e⟩
  obtain ⟨hlow, hhigh⟩ := h
  dsimp only at hlength hdigits hlow hhigh ⊢
  by_cases hsmall : e < 0
  · -- `0.`, zeros and the digits.
    rw [if_pos ⟨hlow, hsmall⟩]
    refine ⟨[48], List.replicate (-e - 1).toNat 48 ++ digits, rfl, List.cons_ne_nil _ _,
      List.forall_mem_singleton.mpr (by decide), fun c hc => ?_, ?_⟩
    · rcases List.mem_append.mp hc with hzero | hc
      · rw [List.eq_of_mem_replicate hzero]
        decide
      · exact hdigits c hc
    · -- All digits stand behind the point, after the zeros.
      have hzero : digitsValue [48] = 0 := rfl
      rw [fractionValue, hzero, digitsValue_append_digits, digitsValue_zeros, List.length_append,
        List.length_replicate, hlength, show e - 5 = -(((-e - 1).toNat + 6 : ℕ) : ℤ) by omega, zpow_neg,
        zpow_natCast, div_eq_mul_inv]
      push_cast
      ring
  · have hwhole : 0 ≤ e ∧ e < 6 := ⟨not_lt.mp hsmall, hhigh⟩
    rw [if_neg (fun h => hsmall h.2), if_pos hwhole]
    refine ⟨digits.take (e.toNat + 1), digits.drop (e.toNat + 1), rfl, ?_,
      fun c hc => hdigits c (List.mem_of_mem_take hc), fun c hc => hdigits c (List.mem_of_mem_drop hc), ?_⟩
    · exact List.ne_nil_of_length_pos (by rw [List.length_take, hlength]; omega)
    · -- The point stands between the digits.
      have hdrop : (digits.drop (e.toNat + 1)).length = 5 - e.toNat := by
        rw [List.length_drop, hlength]
        omega
      have hsplit := digitsValue_append_digits (digits.take (e.toNat + 1)) (digits.drop (e.toNat + 1))
      rw [List.take_append_drop, hdrop] at hsplit
      rw [fractionValue, hdrop, hsplit, show e - 5 = -((5 - e.toNat : ℕ) : ℤ) by omega, zpow_neg,
        zpow_natCast]
      push_cast
      rw [add_mul, mul_assoc, mul_inv_cancel₀ (by positivity), mul_one, div_eq_mul_inv]

theorem formatPositive_exponent {x : ℚ} (h : ¬ IsPlain x) : 101 ∈ formatPositive x := by
  rw [formatPositive]
  dsimp only
  rw [if_neg fun hsmall => h ⟨hsmall.1, hsmall.2.trans (by decide)⟩,
    if_neg fun hwhole => h ⟨le_trans (by decide) hwhole.1, hwhole.2⟩]
  simp

/-- The first character is a digit. -/
theorem formatPositive_start (x : ℚ) : ∃ c t, formatPositive x = c :: t ∧ isDigit c = true := by
  obtain ⟨hne, hdigits⟩ := significant_digits x
  rw [formatPositive]
  generalize significant x = p at hne hdigits ⊢
  rcases p with ⟨_ | ⟨digit, digits⟩, e⟩
  · exact absurd rfl hne
  have hdigit := hdigits digit List.mem_cons_self
  dsimp only
  split
  · exact ⟨48, _, rfl, by decide⟩
  · split
    · exact ⟨digit, _, rfl, hdigit⟩
    · exact ⟨digit, _, rfl, hdigit⟩

end ExactFloat

end MagiStack
