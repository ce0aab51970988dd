import Mathlib.Data.Nat.ModEq
import Mathlib.Tactic.Linarith

/-!
# OnesComplement — 16-bit one's-complement sums of byte strings

Internet checksums add the 16-bit big-endian words of a byte string with end-around carry.  The
result depends only on the ordinary sum `n` of the words: it is `n` reduced modulo `2^16 - 1` into
`1 .. 2^16 - 1`, except that an all-zero input stays `0`.  This module develops that normal form
(`ocNorm`), the ordinary sum of the words of a byte string (`wordSum`), and the two facts every
checksum argument rests on:

* a string verifies iff its word sum is positive and divisible by `65535`;
* storing the complement of a sum into a zero word makes the string verify.
-/

namespace MagiStack
namespace OnesComplement

/-! ## The normal form of an end-around-carry sum -/

/-- The value an end-around-carry sum of total `n` settles at. -/
def ocNorm (n : Nat) : Nat :=
  if n = 0 then 0 else (n - 1) % 65535 + 1

@[simp] theorem ocNorm_zero : ocNorm 0 = 0 := rfl

theorem ocNorm_pos {n : Nat} (h : 0 < n) : 0 < ocNorm n := by
  have hn : n ≠ 0 := by omega
  simp [ocNorm, hn]

theorem ocNorm_le (n : Nat) : ocNorm n ≤ 65535 := by
  unfold ocNorm
  split <;> omega

theorem ocNorm_of_le {n : Nat} (h : n ≤ 65535) : ocNorm n = n := by
  unfold ocNorm
  split <;> omega

theorem ocNorm_mod (n : Nat) : ocNorm n % 65535 = n % 65535 := by
  unfold ocNorm
  split <;> omega

/-- Adding a further word to a normalized sum and normalizing again loses nothing. -/
theorem ocNorm_add (n w : Nat) : ocNorm (ocNorm n + w) = ocNorm (n + w) := by
  unfold ocNorm
  split <;> split <;> split <;> omega

/-- The sum settles at all ones exactly for the positive multiples of `65535`. -/
theorem ocNorm_eq_ones_iff {n : Nat} : ocNorm n = 65535 ↔ 0 < n ∧ n % 65535 = 0 := by
  unfold ocNorm
  split <;> omega

/-- One end-around fold of a value below `2^32` keeps the normal form. -/
theorem ocNorm_fold (n : Nat) : ocNorm (n % 65536 + n / 65536) = ocNorm n := by
  unfold ocNorm
  split <;> split <;> omega

/-! ## The word sum of a byte string -/

/-- The ordinary sum of the 16-bit big-endian words of a byte string, an odd last byte being
padded with a zero byte on its right. -/
def wordSum : List UInt8 → Nat
  | [] => 0
  | [a] => 256 * a.toNat
  | a :: b :: rest => 256 * a.toNat + b.toNat + wordSum rest

@[simp] theorem wordSum_nil : wordSum [] = 0 := rfl

@[simp] theorem wordSum_singleton (a : UInt8) : wordSum [a] = 256 * a.toNat := rfl

@[simp] theorem wordSum_cons_cons (a b : UInt8) (rest : List UInt8) :
    wordSum (a :: b :: rest) = 256 * a.toNat + b.toNat + wordSum rest := rfl

/-- Word sums add up over a split at an even offset. -/
theorem wordSum_append (xs ys : List UInt8) (h : xs.length % 2 = 0) :
    wordSum (xs ++ ys) = wordSum xs + wordSum ys := by
  induction xs using wordSum.induct with
  | case1 => simp
  | case2 a =>
      simp at h
  | case3 a b rest ih =>
      have hrest : rest.length % 2 = 0 := by
        simp only [List.length_cons] at h
        omega
      have hsum := ih hrest
      simp only [List.cons_append, wordSum_cons_cons, hsum]
      omega

/-! ## Verification -/

/-- A total `n` verifies when its end-around-carry sum is all ones. -/
def Verifies (n : Nat) : Prop := ocNorm n = 65535

instance (n : Nat) : Decidable (Verifies n) :=
  inferInstanceAs (Decidable (ocNorm n = 65535))

theorem verifies_iff {n : Nat} : Verifies n ↔ 0 < n ∧ n % 65535 = 0 :=
  ocNorm_eq_ones_iff

/-- Adding the complement of a normalized sum to the total makes it verify. -/
theorem verifies_add_complement (n : Nat) : Verifies (n + (65535 - ocNorm n)) := by
  have hle := ocNorm_le n
  have hmod := ocNorm_mod n
  rw [verifies_iff]
  by_cases hn : n = 0
  · subst hn
    simp
  · have hpos := ocNorm_pos (Nat.pos_of_ne_zero hn)
    omega

/-- Of two words that each complete the same total, one is the other, or they are the two zeros. -/
theorem Verifies.replace {n n' w w' : Nat} (hw : w ≤ 65535) (hw' : w' ≤ 65535)
    (hsum : n' + w = n + w') (h : Verifies n) (h' : Verifies n') :
    w = w' ∨ w = 0 ∧ w' = 65535 ∨ w = 65535 ∧ w' = 0 := by
  rw [verifies_iff] at h h'
  omega

/-! ## One's-complement addition -/

/-- The 16-bit big-endian words of a byte string, an odd last byte being padded with a zero byte on its
right. -/
def words : List UInt8 → List Nat
  | [] => []
  | [a] => [256 * a.toNat]
  | a :: b :: rest => (256 * a.toNat + b.toNat) :: words rest

theorem sum_words (bytes : List UInt8) : (words bytes).sum = wordSum bytes := by
  induction bytes using wordSum.induct with
  | case1 => rfl
  | case2 a => rfl
  | case3 a b rest ih => rw [words, List.sum_cons, ih, wordSum_cons_cons]

theorem words_le (bytes : List UInt8) : ∀ w ∈ words bytes, w ≤ 65535 := by
  induction bytes using wordSum.induct with
  | case1 => exact fun w hw => absurd hw List.not_mem_nil
  | case2 a =>
      have ha := a.toNat_lt
      intro w hw
      rw [words, List.mem_singleton] at hw
      omega
  | case3 a b rest ih =>
      have ha := a.toNat_lt
      have hb := b.toNat_lt
      intro w hw
      rw [words, List.mem_cons] at hw
      rcases hw with rfl | hrest
      · omega
      · exact ih w hrest

/-- The one's-complement sum of two words: a carry is added at the low end. -/
def ocAdd (a b : Nat) : Nat :=
  if a + b ≤ 65535 then a + b else a + b - 65535

theorem ocAdd_ocNorm (n : Nat) {w : Nat} (hw : w ≤ 65535) : ocAdd (ocNorm n) w = ocNorm (n + w) := by
  have hle := ocNorm_le n
  rw [← ocNorm_add]
  generalize ocNorm n = a at hle
  unfold ocAdd ocNorm
  split
  all_goals
    split
    all_goals omega

/-- The one's-complement sum of words, from the first to the last. -/
def ocSum (ws : List Nat) : Nat :=
  ws.foldl ocAdd 0

theorem foldl_ocAdd {ws : List Nat} (h : ∀ w ∈ ws, w ≤ 65535) (n : Nat) :
    ws.foldl ocAdd (ocNorm n) = ocNorm (n + ws.sum) := by
  induction ws generalizing n with
  | nil => rfl
  | cons w rest ih =>
      have hrest := ih (fun v hv => h v (List.mem_cons_of_mem w hv)) (n + w)
      rw [List.foldl_cons, ocAdd_ocNorm n (h w List.mem_cons_self), hrest, List.sum_cons, Nat.add_assoc]

/-- Only the ordinary sum of the words matters. -/
theorem ocSum_eq {ws : List Nat} (h : ∀ w ∈ ws, w ≤ 65535) : ocSum ws = ocNorm ws.sum := by
  have hsum := foldl_ocAdd h 0
  rwa [ocNorm_zero, Nat.zero_add] at hsum

end OnesComplement
end MagiStack
