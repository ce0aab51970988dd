import MagiStack.Layer3.IpText

/-!
# IpGrammar — the strings `ip_parse` accepts

An address is accepted where four numbers with points between them are in range, and so is the number behind
a slash after them if there is one.  What follows is not looked at.
-/

namespace MagiStack

/-! ## Addresses -/

/-- Four numbers with points between them, and what follows. -/
structure Quad where
  a : Numeral
  b : Numeral
  c : Numeral
  d : Numeral
  tail : Text
  tail_digitsEnd : DigitsEnd tail

/-- The prefix read from what follows the octets: the number behind a slash, or none. -/
inductive TailPrefix : Text → Int → Prop
  | number (n : Numeral) (rest : Text) (h : DigitsEnd rest) : TailPrefix (47 :: (n.text ++ rest)) n.int
  | none {tail : Text} (h : ∀ (n : Numeral) rest, DigitsEnd rest → tail ≠ 47 :: (n.text ++ rest)) :
      TailPrefix tail 0

namespace Quad

def text (q : Quad) : Text :=
  q.a.text ++ 46 :: (q.b.text ++ 46 :: (q.c.text ++ 46 :: (q.d.text ++ q.tail)))

/-- The numbers are in range. -/
def InRange (q : Quad) : Prop :=
  q.a.unsigned ≤ 255 ∧ q.b.unsigned ≤ 255 ∧ q.c.unsigned ≤ 255 ∧ q.d.unsigned ≤ 255

/-- The prefix is in range. -/
def PrefixInRange (q : Quad) : Prop :=
  ∃ prefixLen, TailPrefix q.tail prefixLen ∧ 0 ≤ prefixLen ∧ prefixLen ≤ 32

theorem digitsEnd_dot (t : Text) : DigitsEnd (46 :: t) :=
  DigitsEnd.cons (by decide) t

theorem scanOctets_text (q : Quad) :
    scanOctets q.text = some (q.a.unsigned, q.b.unsigned, q.c.unsigned, q.d.unsigned, q.tail) := by
  rw [scanOctets, text, q.a.scanUnsigned_text (digitsEnd_dot _)]
  simp only [Option.bind_eq_bind, Option.bind_some, scanChar, if_true,
    q.b.scanUnsigned_text (digitsEnd_dot _), q.c.scanUnsigned_text (digitsEnd_dot _),
    q.d.scanUnsigned_text q.tail_digitsEnd]

theorem scanChar_eq_some {c : UInt8} {t rest : Text} (h : scanChar c t = some rest) : t = c :: rest := by
  cases t with
  | nil => cases h
  | cons d left =>
      rw [scanChar] at h
      split_ifs at h with hd
      cases h
      rw [hd]

theorem exists_of_scanOctets {t : Text} {p : Nat × Nat × Nat × Nat × Text} (h : scanOctets t = some p) :
    ∃ q : Quad, q.text = t := by
  rw [scanOctets] at h
  simp only [Option.bind_eq_bind] at h
  obtain ⟨⟨_, t1⟩, ha, h⟩ := Option.bind_eq_some_iff.mp h
  obtain ⟨t2, hdot, h⟩ := Option.bind_eq_some_iff.mp h
  obtain ⟨⟨_, t3⟩, hb, h⟩ := Option.bind_eq_some_iff.mp h
  obtain ⟨t4, hdot', h⟩ := Option.bind_eq_some_iff.mp h
  obtain ⟨⟨_, t5⟩, hc, h⟩ := Option.bind_eq_some_iff.mp h
  obtain ⟨t6, hdot'', h⟩ := Option.bind_eq_some_iff.mp h
  obtain ⟨⟨_, t7⟩, hd, -⟩ := Option.bind_eq_some_iff.mp h
  dsimp only at hdot hdot' hdot''
  obtain ⟨a, rfl, -, -⟩ := Numeral.exists_of_scanUnsigned ha
  obtain rfl := scanChar_eq_some hdot
  obtain ⟨b, rfl, -, -⟩ := Numeral.exists_of_scanUnsigned hb
  obtain rfl := scanChar_eq_some hdot'
  obtain ⟨c, rfl, -, -⟩ := Numeral.exists_of_scanUnsigned hc
  obtain rfl := scanChar_eq_some hdot''
  obtain ⟨d, rfl, hend, -⟩ := Numeral.exists_of_scanUnsigned hd
  exact ⟨⟨a, b, c, d, t7, hend⟩, rfl⟩

end Quad

theorem scanPrefix_eq {tail : Text} {prefixLen : Int} (h : TailPrefix tail prefixLen) :
    scanPrefix tail = prefixLen := by
  cases h with
  | number n rest hrest =>
      rw [scanPrefix, scanChar, if_pos rfl, Option.bind_some, n.scanInt_text hrest]
      rfl
  | none h =>
      rw [scanPrefix]
      cases hslash : scanChar 47 tail with
      | none => rfl
      | some rest =>
          rw [Option.bind_some]
          cases hscan : scanInt rest with
          | none => rfl
          | some p =>
              obtain ⟨n, htext, hend, -⟩ := Numeral.exists_of_scanInt hscan
              exact absurd (htext ▸ Quad.scanChar_eq_some hslash) (h n p.2 hend)

theorem exists_tailPrefix (tail : Text) : ∃ prefixLen, TailPrefix tail prefixLen := by
  by_cases h : ∃ (n : Numeral) (rest : Text), DigitsEnd rest ∧ tail = 47 :: (n.text ++ rest)
  · obtain ⟨n, rest, hrest, rfl⟩ := h
    exact ⟨n.int, .number n rest hrest⟩
  · exact ⟨0, .none fun n rest hrest htail => h ⟨n, rest, hrest, htail⟩⟩

theorem Quad.prefixInRange_iff (q : Quad) :
    q.PrefixInRange ↔ 0 ≤ scanPrefix q.tail ∧ scanPrefix q.tail ≤ 32 := by
  constructor
  · rintro ⟨prefixLen, htail, hrange⟩
    rwa [scanPrefix_eq htail]
  · intro hrange
    obtain ⟨prefixLen, htail⟩ := exists_tailPrefix q.tail
    rw [scanPrefix_eq htail] at hrange
    exact ⟨prefixLen, htail, hrange⟩

/-! ## Acceptance -/

/-- Without four numbers and the points between them nothing is stored. -/
theorem ipParse_noQuad {s : Text} (h : ∀ q : Quad, q.text ≠ s) (outIp : IpAddress) :
    ipParse s outIp = (false, outIp) := by
  rw [ipParse]
  cases hscan : scanOctets s with
  | none => rfl
  | some p =>
      obtain ⟨q, hq⟩ := Quad.exists_of_scanOctets hscan
      exact absurd hq (h q)

/-- A string is accepted when it is four numbers in range and a prefix in range, whatever follows. -/
theorem ipParse_accepts_iff (s : Text) (outIp : IpAddress) :
    (ipParse s outIp).1 = true ↔ ∃ q : Quad, q.text = s ∧ q.InRange ∧ q.PrefixInRange := by
  have hquad : ∀ q : Quad, (ipParse q.text outIp).1 = true ↔ q.InRange ∧ q.PrefixInRange := by
    intro q
    rw [ipParse, q.scanOctets_text, q.prefixInRange_iff, Quad.InRange]
    dsimp only
    split_ifs
    all_goals simp only [false_iff, true_iff, not_and]
    all_goals omega
  constructor
  · intro h
    by_cases hnone : ∃ q : Quad, q.text = s
    · obtain ⟨q, rfl⟩ := hnone
      exact ⟨q, rfl, (hquad q).mp h⟩
    · rw [ipParse_noQuad fun q hq => hnone ⟨q, hq⟩] at h
      cases h
  · rintro ⟨q, rfl, h⟩
    exact (hquad q).mpr h

end MagiStack
