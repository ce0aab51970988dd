import MagiStack.Layer7.DnsServer
import MagiStack.Library.FiniteWalk

/-!
# DnsDecode — whether `dns_decode_name` returns

The loop of `dns_decode_name` follows labels and compression pointers wherever they lead.  Labels fill
the output, so only pointers can keep it going.  `raw` is the memory from the name on, of which the first
`max_len` bytes belong to the message.
-/

namespace MagiStack

open FiniteWalk Relation

/-! ## Labels and pointers -/

/-- The byte at a position is a compression pointer to the target; the low byte of its offset is read at
another position. -/
structure PointsTo (raw : List UInt8) (maxLen low position target : Nat) : Prop where
  inside : position + 2 ≤ maxLen
  tag : raw.getD position 0 &&& 0xC0 = 0xC0
  offset : target = ((raw.getD position 0 &&& 0x3F).toNat <<< 8) ||| (raw.getD low 0).toNat
  target_lt : target < maxLen

/-- A pointer that is not the first one on the way. -/
def Points (raw : List UInt8) (maxLen position target : Nat) : Prop :=
  PointsTo raw maxLen (position + 1) position target

/-- The byte at a position is the length of a label inside the message. -/
structure HasLabel (raw : List UInt8) (maxLen position len : Nat) : Prop where
  length : (raw.getD position 0).toNat = len
  tag : raw.getD position 0 &&& 0xC0 ≠ 0xC0
  positive : 0 < len
  inside : position + 1 + len ≤ maxLen

/-- The length of the output with the dot before the next label. -/
def dotted (outSize written : Nat) : Nat :=
  if 0 < written ∧ written < outSize - 1 then written + 1 else written

/-- The way through a name from its first byte: labels that fit into the output, and pointers, the first
of which has the low byte of its offset three bytes further. -/
inductive NamePath (raw : List UInt8) (maxLen outSize : Nat) : Nat → Nat → Bool → Prop
  | start : NamePath raw maxLen outSize 0 0 false
  | label {position written len : Nat} {jumped : Bool}
      (before : NamePath raw maxLen outSize position written jumped)
      (label : HasLabel raw maxLen position len) (fits : dotted outSize written + len < outSize) :
      NamePath raw maxLen outSize (position + 1 + len) (dotted outSize written + len) jumped
  | pointer {position written target : Nat} {jumped : Bool}
      (before : NamePath raw maxLen outSize position written jumped)
      (points : PointsTo raw maxLen (position + if jumped then 1 else 3) position target) :
      NamePath raw maxLen outSize target written true

/-! ## Rounds -/

/-- What a round of the loop depends on: the position, the length of the output and `jumped`. -/
abbrev NameCursor := Nat × Nat × Bool

/-- One round of the loop; `none` when it is the last. -/
def dnsDecodeStep (raw : List UInt8) (maxLen outSize : Nat) : NameCursor → Option NameCursor
  | (srcPos, written, jumped) =>
      if maxLen ≤ srcPos then
        none
      else
        let labelLen := raw.getD srcPos 0
        if labelLen &&& 0xC0 = 0xC0 then
          if maxLen < srcPos + 2 then
            none
          else
            let low := if jumped then srcPos else srcPos + 2
            let target := ((labelLen &&& 0x3F).toNat <<< 8) ||| (raw.getD (low + 1) 0).toNat
            if maxLen ≤ target then none else some (target, written, true)
        else if labelLen = 0 then
          none
        else if maxLen < srcPos + 1 + labelLen.toNat then
          none
        else if outSize ≤ dotted outSize written + labelLen.toNat then
          none
        else
          some (srcPos + 1 + labelLen.toNat, dotted outSize written + labelLen.toNat, jumped)

/-- The loop returns when its rounds end. -/
theorem dnsDecodeLoop_eq_none_iff {raw : List UInt8} {maxLen : Nat} (outSize : Nat)
    (hlen : maxLen ≤ raw.length) (fuel srcPos : Nat) (out : Text) (jumped : Bool) :
    dnsDecodeLoop raw maxLen outSize fuel srcPos out jumped = none ↔
      walk (dnsDecodeStep raw maxLen outSize) fuel (srcPos, out.length, jumped) ≠ none := by
  induction fuel generalizing srcPos out jumped with
  | zero => simp [dnsDecodeLoop, walk]
  | succ fuel ih =>
      rw [dnsDecodeLoop, walk, dnsDecodeStep]
      by_cases hend : maxLen ≤ srcPos
      · simp [hend]
      · simp only [hend, if_false]
        generalize raw.getD srcPos 0 = labelLen
        -- a pointer, or else a label, which the root ends
        by_cases htag : labelLen &&& 0xC0 = 0xC0
        · simp only [htag, if_true]
          by_cases hshort : maxLen < srcPos + 2
          · simp [hshort]
          · simp only [hshort, if_false]
            generalize ((labelLen &&& 0x3F).toNat <<< 8 |||
              (raw.getD ((if jumped = true then srcPos else srcPos + 2) + 1) 0).toNat) = target
            by_cases hbeyond : maxLen ≤ target
            · simp [hbeyond]
            · simp only [hbeyond, if_false, Option.bind_some]
              exact ih target out true
        · simp only [htag, if_false]
          by_cases hroot : labelLen = 0
          · simp [hroot]
          · simp only [hroot, if_false]
            by_cases hshort : maxLen < srcPos + 1 + (labelLen).toNat
            · simp [hshort]
            · simp only [hshort, if_false]
              have hdot : (if 0 < out.length ∧ out.length < outSize - 1 then out ++ [dnsDot]
                  else out).length = dotted outSize out.length := by
                rw [dotted]
                split <;> simp
              rw [hdot]
              by_cases hfull : outSize ≤ dotted outSize out.length + (labelLen).toNat
              · simp [hfull]
              · have hlabel : ((raw.drop (srcPos + 1)).take (labelLen).toNat).length =
                    (labelLen).toNat := by
                  rw [List.length_take, List.length_drop]
                  omega
                simp only [hfull, if_false, Option.bind_some]
                rw [ih, List.length_append, hdot, hlabel]

/-- What a round does: it passes a label that fits, or follows a pointer. -/
theorem dnsDecodeStep_eq_some_iff {raw : List UInt8} {maxLen outSize : Nat}
    {srcPos written : Nat} {jumped : Bool} {next : NameCursor} :
    dnsDecodeStep raw maxLen outSize (srcPos, written, jumped) = some next ↔
      (∃ len, HasLabel raw maxLen srcPos len ∧ dotted outSize written + len < outSize ∧
        next = (srcPos + 1 + len, dotted outSize written + len, jumped)) ∨
      (∃ target, PointsTo raw maxLen (srcPos + if jumped then 1 else 3) srcPos target ∧
        next = (target, written, true)) := by
  have hlow : (if jumped = true then srcPos else srcPos + 2) + 1 =
      srcPos + if jumped = true then 1 else 3 := by
    split <;> rfl
  rw [dnsDecodeStep]
  constructor
  · intro h
    split at h
    · cases h
    · simp only at h
      split at h
      · rename_i htag
        split at h
        · cases h
        · rename_i hinside
          -- A pointer that is inside the message: the target decides.
          rw [hlow] at h
          generalize hoffset : ((raw.getD srcPos 0 &&& 0x3F).toNat <<< 8 |||
            (raw.getD (srcPos + if jumped = true then 1 else 3) 0).toNat) = target at h
          by_cases hbeyond : maxLen ≤ target
          · rw [if_pos hbeyond] at h
            cases h
          · rw [if_neg hbeyond] at h
            exact Or.inr ⟨target, ⟨by omega, htag, hoffset.symm, Nat.lt_of_not_le hbeyond⟩,
              (Option.some.inj h).symm⟩
      · rename_i htag
        split at h
        · cases h
        · rename_i hroot
          split at h
          · cases h
          · rename_i hinside
            split at h
            · cases h
            · rename_i hfits
              obtain rfl := Option.some.inj h
              have hpositive : 0 < (raw.getD srcPos 0).toNat :=
                Nat.pos_of_ne_zero fun hzero => hroot (UInt8.toNat_inj.mp hzero)
              exact Or.inl ⟨_, ⟨rfl, htag, hpositive, Nat.le_of_not_lt hinside⟩,
                Nat.lt_of_not_le hfits, rfl⟩
  · rintro (⟨len, hlabel, hfits, rfl⟩ | ⟨target, hpoints, rfl⟩)
    · have hinside := hlabel.inside
      have hroot : raw.getD srcPos 0 ≠ 0 := fun hzero => by
        have hlength := hlabel.length
        have hpositive := hlabel.positive
        rw [hzero] at hlength
        exact absurd hlength (Nat.ne_of_lt hpositive)
      rw [if_neg (by omega)]
      simp only
      rw [if_neg hlabel.tag, if_neg hroot, hlabel.length, if_neg (by omega), if_neg (by omega)]
    · have hinside := hpoints.inside
      rw [if_neg (by omega)]
      simp only
      rw [if_pos hpoints.tag, if_neg (by omega), hlow, ← hpoints.offset,
        if_neg (Nat.not_le.mpr hpoints.target_lt)]

/-! ## The rounds of a run -/

section Rounds

variable {raw : List UInt8} {maxLen outSize : Nat}

/-- The way through the name is what the loop follows. -/
theorem namePath_iff {srcPos written : Nat} {jumped : Bool} :
    NamePath raw maxLen outSize srcPos written jumped ↔
      ReflTransGen (Next (dnsDecodeStep raw maxLen outSize)) (0, 0, false)
        (srcPos, written, jumped) := by
  constructor
  · intro h
    induction h with
    | start => exact ReflTransGen.refl
    | label _ hlabel hfits ih =>
        exact ih.tail (dnsDecodeStep_eq_some_iff.mpr (Or.inl ⟨_, hlabel, hfits, rfl⟩))
    | pointer _ hpoints ih =>
        exact ih.tail (dnsDecodeStep_eq_some_iff.mpr (Or.inr ⟨_, hpoints, rfl⟩))
  · intro h
    generalize hstart : ((0, 0, false) : NameCursor) = start at h
    generalize hend : ((srcPos, written, jumped) : NameCursor) = last at h
    induction h generalizing srcPos written jumped with
    | refl =>
        subst hstart
        cases hend
        exact NamePath.start
    | tail _ hnext ih =>
        subst hend
        rename_i before _
        obtain ⟨srcPos', written', jumped'⟩ := before
        have hbefore := ih rfl
        rcases dnsDecodeStep_eq_some_iff.mp hnext with ⟨len, hlabel, hfits, hlast⟩ | ⟨target, hpoints, hlast⟩
        · cases hlast
          exact hbefore.label hlabel hfits
        · cases hlast
          exact hbefore.pointer hpoints

/-- The states the loop can be in. -/
def nameCursors (maxLen outSize : Nat) : Finset NameCursor :=
  Finset.range (maxLen + 1) ×ˢ Finset.range (outSize + 1) ×ˢ Finset.univ

theorem nameCursors_card : (nameCursors maxLen outSize).card = 2 * (maxLen + 1) * (outSize + 1) := by
  simp [nameCursors]
  ring

theorem dnsDecodeStep_mem {a b : NameCursor} (h : Next (dnsDecodeStep raw maxLen outSize) a b)
    (ha : a ∈ nameCursors maxLen outSize) : b ∈ nameCursors maxLen outSize := by
  obtain ⟨srcPos, written, jumped⟩ := a
  simp only [nameCursors, Finset.mem_product, Finset.mem_range, Finset.mem_univ, and_true] at ha ⊢
  rcases dnsDecodeStep_eq_some_iff.mp h with ⟨len, hlabel, hfits, rfl⟩ | ⟨target, hpoints, rfl⟩
  · have hinside := hlabel.inside
    simp only
    omega
  · have htarget := hpoints.target_lt
    simp only
    omega

/-- Rounds fill the output and never empty it. -/
theorem written_le {a b : NameCursor}
    (h : ReflTransGen (Next (dnsDecodeStep raw maxLen outSize)) a b) : a.2.1 ≤ b.2.1 := by
  induction h with
  | refl => exact le_rfl
  | tail _ hnext ih =>
      refine ih.trans ?_
      rename_i middle last _
      obtain ⟨srcPos, written, jumped⟩ := middle
      rcases dnsDecodeStep_eq_some_iff.mp hnext with ⟨len, -, -, rfl⟩ | ⟨target, -, rfl⟩
      · simp only [dotted]
        split <;> omega
      · exact le_rfl

/-- A round after the first pointer that leaves the output as it is follows a pointer. -/
theorem points_of_next {a b : NameCursor} (h : Next (dnsDecodeStep raw maxLen outSize) a b)
    (hjumped : a.2.2 = true) (hsame : b.2.1 ≤ a.2.1) :
    Points raw maxLen a.1 b.1 ∧ b.2 = a.2 := by
  obtain ⟨srcPos, written, jumped⟩ := a
  obtain rfl : jumped = true := hjumped
  rcases dnsDecodeStep_eq_some_iff.mp h with ⟨len, hlabel, -, rfl⟩ | ⟨target, hpoints, rfl⟩
  · -- A label is not empty.
    have hpositive := hlabel.positive
    simp only [dotted] at hsame
    split at hsame <;> omega
  · exact ⟨hpoints, rfl⟩

/-- Rounds after the first pointer that leave the output as it is follow pointers. -/
theorem points_of_written {a b : NameCursor}
    (h : TransGen (Next (dnsDecodeStep raw maxLen outSize)) a b) (hjumped : a.2.2 = true)
    (hsame : b.2.1 ≤ a.2.1) : TransGen (Points raw maxLen) a.1 b.1 ∧ b.2 = a.2 := by
  induction h with
  | single hnext =>
      obtain ⟨hpoints, heq⟩ := points_of_next hnext hjumped hsame
      exact ⟨TransGen.single hpoints, heq⟩
  | tail hbefore hnext ih =>
      have hlast := written_le (ReflTransGen.single hnext)
      obtain ⟨hpoints, heq⟩ := ih (hlast.trans hsame)
      have hmiddle := points_of_next hnext (heq ▸ hjumped) (hsame.trans (heq ▸ le_rfl))
      exact ⟨hpoints.tail hmiddle.1, hmiddle.2.trans heq⟩

/-- Pointers are followed one after another. -/
theorem next_of_points {position target : Nat} (written : Nat)
    (h : TransGen (Points raw maxLen) position target) :
    TransGen (Next (dnsDecodeStep raw maxLen outSize)) (position, written, true)
      (target, written, true) := by
  induction h with
  | single hpoints =>
      exact TransGen.single (dnsDecodeStep_eq_some_iff.mpr (Or.inr ⟨_, hpoints, rfl⟩))
  | tail _ hpoints ih =>
      exact ih.tail (dnsDecodeStep_eq_some_iff.mpr (Or.inr ⟨_, hpoints, rfl⟩))

/-- Once a pointer was followed the loop knows it. -/
theorem jumped_of_reach {a b : NameCursor}
    (h : ReflTransGen (Next (dnsDecodeStep raw maxLen outSize)) a b) (ha : a.2.2 = true) :
    b.2.2 = true := by
  induction h with
  | refl => exact ha
  | tail _ hnext ih =>
      rename_i middle last _
      obtain ⟨srcPos, written, jumped⟩ := middle
      rcases dnsDecodeStep_eq_some_iff.mp hnext with ⟨len, -, -, rfl⟩ | ⟨target, -, rfl⟩
      · exact ih
      · rfl

/-- On a cycle the loop has followed a pointer. -/
theorem jumped_of_cycle {a : NameCursor}
    (h : TransGen (Next (dnsDecodeStep raw maxLen outSize)) a a) : a.2.2 = true := by
  obtain ⟨b, hnext, hback⟩ := TransGen.head'_iff.mp h
  have hle := written_le hback
  obtain ⟨srcPos, written, jumped⟩ := a
  rcases dnsDecodeStep_eq_some_iff.mp hnext with ⟨len, hlabel, -, rfl⟩ | ⟨target, -, rfl⟩
  · -- What a label has added to the output is not taken back.
    have hpositive := hlabel.positive
    simp only [dotted] at hle
    split at hle <;> omega
  · exact jumped_of_reach hback rfl

end Rounds

/-! ## Termination -/

section Termination

variable {raw : List UInt8} {maxLen : Nat} (outSize : Nat)

theorem dnsDecodeLoop_returns_iff (hlen : maxLen ≤ raw.length) (fuel : Nat) :
    dnsDecodeLoop raw maxLen outSize fuel 0 [] false ≠ none ↔
      walk (dnsDecodeStep raw maxLen outSize) fuel (0, 0, false) = none := by
  have hloop := dnsDecodeLoop_eq_none_iff outSize hlen fuel 0 [] false
  rw [List.length_nil] at hloop
  rw [Ne, hloop, not_not]

theorem start_mem_nameCursors : ((0, 0, false) : NameCursor) ∈ nameCursors maxLen outSize := by
  simp [nameCursors]

/-- `dnsDecodeName` gives the loop as many rounds as it can need. -/
theorem dnsDecodeName_ne_none_iff (hlen : maxLen ≤ raw.length) :
    dnsDecodeName raw maxLen outSize ≠ none ↔
      ∃ fuel, dnsDecodeLoop raw maxLen outSize fuel 0 [] false ≠ none := by
  constructor
  · exact fun h => ⟨_, h⟩
  · rintro ⟨fuel, hfuel⟩
    rw [dnsDecodeLoop_returns_iff outSize hlen] at hfuel
    rw [dnsDecodeName, dnsDecodeLoop_returns_iff outSize hlen, ← nameCursors_card]
    exact walk_card_eq_none _ (fun a ha b hnext => dnsDecodeStep_mem hnext ha)
      (start_mem_nameCursors outSize) hfuel

/-- `dns_decode_name` returns if and only if no pointer after the first that it comes to leads through
pointers alone back to its own position. -/
theorem dnsDecodeName_returns_iff (hlen : maxLen ≤ raw.length) :
    (∃ fuel, dnsDecodeLoop raw maxLen outSize fuel 0 [] false ≠ none) ↔
      ∀ position written, NamePath raw maxLen outSize position written true →
        ¬TransGen (Points raw maxLen) position position := by
  simp only [dnsDecodeLoop_returns_iff outSize hlen]
  rw [exists_walk_eq_none_iff _ (fun a ha b hnext => dnsDecodeStep_mem hnext ha)
    (start_mem_nameCursors outSize)]
  constructor
  · intro hacyclic position written hpath hcycle
    exact hacyclic _ (namePath_iff.mp hpath) (next_of_points written hcycle)
  · intro hpointers a hreach hcycle
    have hjumped := jumped_of_cycle hcycle
    obtain ⟨position, written, jumped⟩ := a
    obtain rfl : jumped = true := hjumped
    exact hpointers position written (namePath_iff.mpr hreach) (points_of_written hcycle rfl le_rfl).1

end Termination

/-- The name of `dns_create_query` for a one-letter host ends the loop. -/
theorem dnsDecodeName_returns_iff_letter :
    (∃ fuel, dnsDecodeLoop [1, 97, 0] 3 dnsMaxName fuel 0 [] false ≠ none) ∧
      ∀ position written, NamePath [1, 97, 0] 3 dnsMaxName position written true →
        ¬TransGen (Points [1, 97, 0] 3) position position := by
  have hreturns : ∃ fuel, dnsDecodeLoop [1, 97, 0] 3 dnsMaxName fuel 0 [] false ≠ none :=
    ⟨3, by decide⟩
  exact ⟨hreturns, (dnsDecodeName_returns_iff dnsMaxName (by decide)).mp hreturns⟩

/-- A pointer to itself is followed for ever, and so a query of sixteen bytes hangs the server. -/
theorem dnsDecodeName_selfPointer :
    (∀ fuel, dnsDecodeLoop [0xC0, 0, 0, 0] 4 dnsMaxName fuel 0 [] false = none) ∧
    ∀ table, dnsServerHandleQuery table
      (dnsHeader 1 (dnsQrQuery ||| dnsRdFlag) 1 0 ++ [0xC0, 0, 0, 0]) 512 = none := by
  have hround : ∀ fuel, dnsDecodeLoop [0xC0, 0, 0, 0] 4 dnsMaxName fuel 0 [] true = none := by
    intro fuel
    induction fuel with
    | zero => rfl
    | succ fuel ih => exact ih
  have hloop : ∀ fuel, dnsDecodeLoop [0xC0, 0, 0, 0] 4 dnsMaxName fuel 0 [] false = none := by
    intro fuel
    cases fuel with
    | zero => rfl
    | succ fuel => exact hround fuel
  refine ⟨hloop, fun table => ?_⟩
  have hname : dnsDecodeName [0xC0, 0, 0, 0] 4 dnsMaxName = none := hloop _
  have hquery : (dnsHeader 1 (dnsQrQuery ||| dnsRdFlag) 1 0 ++ [0xC0, 0, 0, 0]).drop 12 =
      [0xC0, 0, 0, 0] := rfl
  have hlength : (dnsHeader 1 (dnsQrQuery ||| dnsRdFlag) 1 0 ++ [0xC0, 0, 0, 0]).length = 16 := rfl
  rw [dnsServerHandleQuery, hquery, hlength, if_neg (by decide)]
  rw [hname]
  rfl

end MagiStack
