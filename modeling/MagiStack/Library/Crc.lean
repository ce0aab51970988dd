import Mathlib.Data.BitVec
import Mathlib.Data.List.Basic
import Mathlib.Data.UInt

/-!
# Crc — reflected cyclic redundancy checks

A remainder of any width takes in a message bit by bit, the lowest bit of each byte first: it is shifted
down, and the polynomial is added when the bit that leaves it differs from the bit of the message.  A step
is linear, so eight of them are one look into a table at the low byte; and two pieces of a message, one
after the other, are the whole message.
-/

namespace Crc

variable {w : Nat} (poly : BitVec w)

/-! ## Bit by bit -/

/-- The remainder takes in one bit of the message. -/
def takeBit (x : BitVec w) (bit : Bool) : BitVec w :=
  if x.getLsbD 0 ^^ bit then (x >>> 1) ^^^ poly else x >>> 1

/-- The bits of a byte, the lowest first. -/
def byteBits (b : UInt8) : List Bool :=
  (List.range 8).map b.toNat.testBit

/-- The remainder after a whole message. -/
def takeBytes (x : BitVec w) (bytes : List UInt8) : BitVec w :=
  (bytes.flatMap byteBits).foldl (takeBit poly) x

/-- The check value: all ones at the start, and complemented at the end. -/
def check (bytes : List UInt8) : BitVec w :=
  ~~~ takeBytes poly (BitVec.allOnes w) bytes

/-! ## Steps without a message -/

/-- One shift of the remainder. -/
def step (x : BitVec w) : BitVec w :=
  if x.getLsbD 0 then (x >>> 1) ^^^ poly else x >>> 1

def steps : Nat → BitVec w → BitVec w
  | 0, x => x
  | n + 1, x => steps n (step poly x)

theorem step_xor (x y : BitVec w) : step poly (x ^^^ y) = step poly x ^^^ step poly y := by
  rw [step, step, step, BitVec.getLsbD_xor, BitVec.ushiftRight_xor_distrib]
  cases x.getLsbD 0 with
  | false =>
      cases y.getLsbD 0 with
      | false => simp
      | true => simp [BitVec.xor_assoc]
  | true =>
      cases y.getLsbD 0 with
      | false => simp [BitVec.xor_assoc, BitVec.xor_comm poly]
      | true =>
          -- the polynomial is added twice
          have htwice : x >>> 1 ^^^ poly ^^^ (y >>> 1 ^^^ poly) = x >>> 1 ^^^ y >>> 1 := by
            rw [BitVec.xor_comm (y >>> 1) poly, BitVec.xor_assoc, ← BitVec.xor_assoc poly, BitVec.xor_self,
              BitVec.zero_xor]
          simp [htwice]

theorem steps_xor (n : Nat) (x y : BitVec w) :
    steps poly n (x ^^^ y) = steps poly n x ^^^ steps poly n y := by
  induction n generalizing x y with
  | zero => rfl
  | succ n ih => rw [steps, step_xor, ih, steps, steps]

/-- Zeros at the low end are shifted out. -/
theorem steps_shift (n : Nat) {x : BitVec w} (h : ∀ i < n, x.getLsbD i = false) :
    steps poly n x = x >>> n := by
  induction n generalizing x with
  | zero => simp [steps]
  | succ n ih =>
      have hstep : step poly x = x >>> 1 := by simp [step, h 0 (Nat.succ_pos n)]
      rw [steps, hstep, ih, ← BitVec.shiftRight_add, Nat.add_comm 1 n]
      intro i hi
      rw [BitVec.getLsbD_ushiftRight]
      exact h (1 + i) (by omega)

/-- The bits of a number are taken in as if the number had been added before. -/
theorem foldl_takeBit (n : Nat) (x : BitVec w) {m : Nat} (hn : m < 2 ^ n) (hw : m < 2 ^ w) :
    ((List.range n).map m.testBit).foldl (takeBit poly) x = steps poly n (x ^^^ BitVec.ofNat w m) := by
  induction n generalizing x m with
  | zero =>
      obtain rfl : m = 0 := by omega
      simp [steps]
  | succ n ih =>
      have hhalf : m / 2 < 2 ^ w := (Nat.div_le_self m 2).trans_lt hw
      -- the bits above the lowest one are those of the half
      have hbits : (List.range (n + 1)).map m.testBit =
          m.testBit 0 :: (List.range n).map (m / 2).testBit := by
        rw [List.range_succ_eq_map, List.map_cons, List.map_map]
        congr 1
        exact List.map_congr_left fun i _ => Nat.testBit_succ m i
      have hstep : takeBit poly x (m.testBit 0) ^^^ BitVec.ofNat w (m / 2) =
          step poly (x ^^^ BitVec.ofNat w m) := by
        have hshift : BitVec.ofNat w m >>> 1 = BitVec.ofNat w (m / 2) := by
          apply BitVec.eq_of_toNat_eq
          rw [BitVec.toNat_ushiftRight, BitVec.toNat_ofNat, BitVec.toNat_ofNat, Nat.mod_eq_of_lt hw,
            Nat.mod_eq_of_lt hhalf, Nat.shiftRight_one]
        have hlow : (BitVec.ofNat w m).getLsbD 0 = m.testBit 0 := by
          rw [BitVec.getLsbD, BitVec.toNat_ofNat, Nat.mod_eq_of_lt hw]
        rw [takeBit, step, BitVec.getLsbD_xor, BitVec.ushiftRight_xor_distrib, hshift, hlow]
        split
        · rw [BitVec.xor_assoc, BitVec.xor_assoc, BitVec.xor_comm poly]
        · rfl
      rw [hbits, List.foldl_cons, ih _ (by omega) hhalf, hstep, steps]

/-! ## Byte by byte -/

section Table

variable {poly}

/-- The bits of one byte, in one look into the table of eight steps from each byte. -/
theorem steps_eight (x : BitVec w) : steps poly 8 x = steps poly 8 (x &&& 255#w) ^^^ (x >>> 8) := by
  -- the low byte and the rest are shifted on their own; the rest comes down unchanged
  have hsplit : x = (x &&& 255#w) ^^^ (x &&& ~~~ 255#w) := by
    ext i
    simp only [BitVec.getElem_xor, BitVec.getElem_and, BitVec.getElem_not]
    cases x[i] with
    | false => simp
    | true => simp
  have hmask : ∀ i, (255#w).getLsbD i = (decide (i < w) && decide (i < 8)) := fun i => by
    rw [BitVec.getLsbD_ofNat, show (255 : Nat) = 2 ^ 8 - 1 from rfl, Nat.testBit_two_pow_sub_one]
  have hclear : ∀ i < 8, (x &&& ~~~ 255#w).getLsbD i = false := fun i hi => by
    rw [BitVec.getLsbD_and, BitVec.getLsbD_not, hmask]
    cases hw : decide (i < w) with
    | false => simp
    | true => simp [hi]
  have hhigh : (x &&& ~~~ 255#w) >>> 8 = x >>> 8 := by
    apply BitVec.eq_of_getLsbD_eq
    intro i hi
    rw [BitVec.getLsbD_ushiftRight, BitVec.getLsbD_ushiftRight, BitVec.getLsbD_and, BitVec.getLsbD_not, hmask]
    by_cases hlt : 8 + i < w
    · simp [hlt]
    · simp [BitVec.getLsbD_of_ge x (8 + i) (by omega)]
  calc
    steps poly 8 x = steps poly 8 ((x &&& 255#w) ^^^ (x &&& ~~~ 255#w)) := by rw [← hsplit]
    _ = steps poly 8 (x &&& 255#w) ^^^ steps poly 8 (x &&& ~~~ 255#w) := steps_xor poly 8 _ _
    _ = steps poly 8 (x &&& 255#w) ^^^ (x >>> 8) := by rw [steps_shift poly 8 hclear, hhigh]

/-- A remainder of a byte or more takes in a byte by adding it to its low end. -/
theorem takeByte_eq (hw : 8 ≤ w) (x : BitVec w) (b : UInt8) :
    (byteBits b).foldl (takeBit poly) x =
      steps poly 8 ((x ^^^ BitVec.ofNat w b.toNat) &&& 255#w) ^^^ (x >>> 8) := by
  have hbyte : b.toNat < 2 ^ 8 := b.toNat_lt
  have hwide : b.toNat < 2 ^ w := hbyte.trans_le (Nat.pow_le_pow_right (by decide) hw)
  have hshift : BitVec.ofNat w b.toNat >>> 8 = 0#w := by
    apply BitVec.eq_of_toNat_eq
    rw [BitVec.toNat_ushiftRight, BitVec.toNat_ofNat, Nat.mod_eq_of_lt hwide, Nat.shiftRight_eq_div_pow,
      Nat.div_eq_of_lt hbyte, BitVec.toNat_ofNat, Nat.zero_mod]
  rw [byteBits, foldl_takeBit poly 8 x hbyte hwide, steps_eight, BitVec.ushiftRight_xor_distrib, hshift,
    BitVec.xor_zero]

end Table

end Crc
