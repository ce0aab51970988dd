import MagiStack.Layer7.DnsServer

/-!
# DnsNames — which host names survive the wire

A label is written behind one byte for its length, and that byte is also the root label and the mark of a
pointer.  `dns_encode_name` looks at no length but that of the whole name: it writes an empty label as the root
label, drops one at the end, and writes labels of 64 bytes and more behind bytes that no other decoder reads as
lengths.  A name is read back as itself, and refused if it cannot be represented, exactly when it is too long or
all its labels have 1 to 63 bytes.
-/

namespace MagiStack

/-! ## The property and the condition -/

/-- The bytes that `dns_encode_name` needs: a length byte for each label, and the root label.  A dot at the end
begins no label. -/
def dnsEncodedLength (name : Text) : Nat :=
  match name.getLast? with
  | none => 1
  | some last => if last = dnsDot then name.length + 1 else name.length + 2

/-- The root, or labels of 1 to 63 bytes. -/
def DnsRepresentable (name : Text) : Prop :=
  name = [] ∨ ∀ label ∈ name.splitOn dnsDot, 0 < label.length ∧ label.length ≤ 63

instance (name : Text) : Decidable (DnsRepresentable name) :=
  inferInstanceAs (Decidable (_ ∨ _))

/-- What the encoder writes is decoded, to the last byte, as the name; and `dns_create_query` refuses what cannot
be represented.  The bytes behind the encoded name may be any. -/
structure DnsFaithful (name : Text) : Prop where
  reversible : ∀ encoded, dnsEncodeName dnsMaxName name = some encoded → ∀ beyond,
    dnsDecodeName (encoded ++ beyond) encoded.length dnsMaxName = some (encoded.length, name)
  refused : ¬ DnsRepresentable name → ∀ outSize id, dnsCreateQuery outSize id name = none

/-! ## The length of an encoded name -/

theorem dnsEncodedLength_nil : dnsEncodedLength [] = 1 := rfl

theorem dnsEncodedLength_label {label : Text} (hdot : dnsDot ∉ label) (hne : label ≠ []) :
    dnsEncodedLength label = label.length + 2 := by
  have hlast : label.getLast hne ≠ dnsDot := by
    intro heq
    have hmem := List.getLast_mem hne
    rw [heq] at hmem
    exact hdot hmem
  rw [dnsEncodedLength, List.getLast?_eq_some_getLast hne]
  exact if_neg hlast

theorem dnsEncodedLength_cons (label after : Text) :
    dnsEncodedLength (label ++ dnsDot :: after) = label.length + 1 + dnsEncodedLength after := by
  have hlast : (label ++ dnsDot :: after).getLast? = some (after.getLast?.getD dnsDot) := by
    rw [List.getLast?_append, List.getLast?_cons]
    rfl
  rw [dnsEncodedLength, hlast]
  cases after with
  | nil => simp [dnsEncodedLength]
  | cons first rest =>
      rw [dnsEncodedLength, List.getLast?_eq_some_getLast (List.cons_ne_nil first rest)]
      simp only [Option.getD_some, List.length_append, List.length_cons]
      split
      all_goals omega

theorem length_lt_dnsEncodedLength (name : Text) : name.length < dnsEncodedLength name := by
  rw [dnsEncodedLength]
  split
  · rename_i hnone
    rw [List.getLast?_eq_none_iff.mp hnone]
    exact Nat.one_pos
  · split
    all_goals omega

/-- A label that does not fit ends the loop. -/
theorem dnsEncodeLoop_full {outSize : Nat} {written : List UInt8} {rest : Text} (hne : rest ≠ [])
    (hfull : outSize < written.length + 1 + (rest.takeWhile (· ≠ dnsDot)).length) :
    dnsEncodeLoop outSize written rest = none := by
  rw [dnsEncodeLoop, if_neg hne]
  exact if_pos hfull

/-- The loop runs out of room, or writes all but the root label. -/
theorem dnsEncodeLoop_length {outSize : Nat} (written : List UInt8) (rest : Text)
    (hwritten : written.length ≤ outSize) :
    (dnsEncodeLoop outSize written rest = none ∧
        outSize + 1 < written.length + dnsEncodedLength rest) ∨
      ∃ out, dnsEncodeLoop outSize written rest = some out ∧
        out.length + 1 = written.length + dnsEncodedLength rest ∧ out.length ≤ outSize := by
  induction hcount : rest.length using Nat.strong_induction_on generalizing written rest with
  | _ count ih =>
    by_cases hdot : dnsDot ∈ rest
    · -- The label before the first dot, and what is behind the dot.
      obtain ⟨label, after, rfl, hlabel⟩ := List.eq_append_cons_of_mem hdot
      rw [dnsEncodedLength_cons]
      by_cases hroom : written.length + 1 + label.length ≤ outSize
      · rw [dnsEncodeLoop_label hlabel after hroom]
        have hnext := ih after.length (by simp at hcount; omega)
          (written ++ UInt8.ofNat label.length :: label) after (by simp; omega) rfl
        simp only [List.length_append, List.length_cons] at hnext
        obtain ⟨hnone, hlong⟩ | ⟨out, hsome, hlength, hle⟩ := hnext
        · exact Or.inl ⟨hnone, by omega⟩
        · exact Or.inr ⟨out, hsome, by omega, hle⟩
      · refine Or.inl ⟨dnsEncodeLoop_full (by simp) ?_, ?_⟩
        · rw [takeWhile_dot hlabel]
          omega
        · have hpos := length_lt_dnsEncodedLength after
          omega
    · -- No dot is left: the last label, or nothing.
      by_cases hnil : rest = []
      · subst hnil
        refine Or.inr ⟨written, ?_, by rw [dnsEncodedLength_nil], hwritten⟩
        rw [dnsEncodeLoop, if_pos rfl]
      · rw [dnsEncodedLength_label hdot hnil]
        by_cases hroom : written.length + 1 + rest.length ≤ outSize
        · refine Or.inr ⟨_, dnsEncodeLoop_last hdot hnil hroom, ?_, ?_⟩
          · simp
            omega
          · simp
            omega
        · refine Or.inl ⟨dnsEncodeLoop_full hnil ?_, by omega⟩
          rw [List.takeWhile_eq_self_iff.mpr (ne_dot_of_mem hdot)]
          omega

/-- `dns_encode_name` refuses a name only for its length. -/
theorem dnsEncodeName_cases (outSize : Nat) (name : Text) :
    (dnsEncodeName outSize name = none ∧ outSize < dnsEncodedLength name) ∨
      ∃ encoded, dnsEncodeName outSize name = some encoded ∧
        encoded.length = dnsEncodedLength name ∧ encoded.length ≤ outSize := by
  rw [dnsEncodeName]
  obtain ⟨hnone, hlong⟩ | ⟨out, hsome, hlength, -⟩ :=
    @dnsEncodeLoop_length outSize [] name (Nat.zero_le _)
  · rw [List.length_nil] at hlong
    exact Or.inl ⟨by rw [hnone, Option.bind_none], by omega⟩
  · rw [List.length_nil] at hlength
    rw [hsome, Option.bind_some]
    split
    · exact Or.inl ⟨rfl, by omega⟩
    · exact Or.inr ⟨_, rfl, by simp; omega, by simp; omega⟩

/-! ## Names with labels of 1 to 63 bytes -/

theorem not_mem_of_mem_splitOn (name : Text) :
    ∀ label ∈ name.splitOn dnsDot, dnsDot ∉ label := by
  induction hcount : name.length using Nat.strong_induction_on generalizing name with
  | _ count ih =>
    intro label hlabel
    by_cases hdot : dnsDot ∈ name
    · obtain ⟨first, after, rfl, hfirst⟩ := List.eq_append_cons_of_mem hdot
      rw [List.splitOn_append_cons_self_of_not_mem hfirst, List.mem_cons] at hlabel
      obtain rfl | hlater := hlabel
      · exact hfirst
      · exact ih after.length (by simp at hcount; omega) after rfl label hlater
    · rw [List.splitOn_eq_singleton hdot, List.mem_singleton] at hlabel
      rwa [hlabel]

theorem DnsRepresentable.reversible {name : Text} (h : DnsRepresentable name) {encoded : List UInt8}
    (hencode : dnsEncodeName dnsMaxName name = some encoded) (beyond : List UInt8) :
    dnsDecodeName (encoded ++ beyond) encoded.length dnsMaxName = some (encoded.length, name) := by
  have hlength : encoded.length = dnsEncodedLength name ∧ encoded.length ≤ dnsMaxName := by
    obtain ⟨hnone, -⟩ | ⟨encoded', hsome, hlength⟩ := dnsEncodeName_cases dnsMaxName name
    · cases hnone.symm.trans hencode
    · rwa [Option.some.inj (hencode.symm.trans hsome)]
  obtain rfl | hlabels := h
  · -- The root: one byte.
    have hroot : encoded = [0] := by
      rw [dnsEncodeName, dnsEncodeLoop, if_pos rfl, Option.bind_some] at hencode
      exact (Option.some.inj hencode).symm
    subst hroot
    exact @dnsDecodeName_labels ([0] ++ beyond) beyond 1 dnsMaxName [] rfl Nat.one_pos
      (fun _ hlabel => absurd hlabel List.not_mem_nil) (by decide)
  · -- The name is its labels with dots between them, and they are encoded one by one.
    have hname : name = joinLabels (name.splitOn dnsDot) := (List.intercalate_splitOn dnsDot).symm
    have hne : name.splitOn dnsDot ≠ [] := List.splitOn_ne_nil dnsDot name
    have hclean := not_mem_of_mem_splitOn name
    generalize name.splitOn dnsDot = labels at hlabels hname hne hclean
    have hwire := joinLabels_length hne
    have hshort := length_lt_dnsEncodedLength name
    rw [← hname] at hwire
    have hloop := @dnsEncodeLoop_labels dnsMaxName [] labels
      (fun label hlabel => ⟨hclean label hlabel, List.ne_nil_of_length_pos (hlabels label hlabel).1⟩)
      (by rw [List.nil_append]; omega)
    rw [wireLabels_nil, List.nil_append, ← hname] at hloop
    have hencoded : encoded = wireLabels labels ++ [0] := by
      rw [dnsEncodeName, hloop, Option.bind_some] at hencode
      split at hencode
      · cases hencode
      · exact (Option.some.inj hencode).symm
    have hcount : encoded.length = (wireLabels labels).length + 1 := by rw [hencoded]; simp
    rw [hcount, hname]
    have hraw : encoded ++ beyond = wireLabels labels ++ 0 :: beyond := by
      rw [hencoded, List.append_assoc]
      rfl
    refine dnsDecodeName_labels labels hraw (Nat.lt_succ_self _) ?_ ?_
    · intro label hlabel
      exact ⟨List.ne_nil_of_length_pos (hlabels label hlabel).1,
        Nat.lt_of_le_of_lt (hlabels label hlabel).2 (by decide)⟩
    · rw [← hname]
      omega

/-- A host name is encoded faithfully exactly when it is too long to be encoded or its labels have 1 to 63
bytes. -/
theorem dnsName_faithful_iff (name : Text) :
    DnsFaithful name ↔ dnsMaxName < dnsEncodedLength name ∨ DnsRepresentable name := by
  obtain ⟨hnone, hlong⟩ | ⟨encoded, hsome, hlength, hle⟩ := dnsEncodeName_cases dnsMaxName name
  · refine iff_of_true ⟨fun encoded hsome => ?_, fun _ outSize id => ?_⟩ (Or.inl hlong)
    · cases hnone.symm.trans hsome
    · rw [dnsCreateQuery, hnone, Option.bind_none]
  · constructor
    · intro h
      by_contra hbad
      have hrefused := h.refused (fun hrepresentable => hbad (Or.inr hrepresentable)) 512 0
      -- A name that is encoded is put into a query.
      rw [dnsCreateQuery, hsome, Option.bind_some, if_neg (by decide),
        if_neg (by rw [dnsMaxName] at hle; omega)] at hrefused
      cases hrefused
    · rintro (hlong | hrepresentable)
      · exact absurd hle (not_le.mpr (hlength ▸ hlong))
      · exact ⟨fun encoded hencode => hrepresentable.reversible hencode,
          fun hnot => absurd hrepresentable hnot⟩

/-- An empty label ends the name early, one at the end is lost, and a label of 64 letters is put into a
query. -/
theorem dnsName_faithful_iff_emptyLabel :
    ¬ DnsFaithful (text "a..b") ∧ ¬ DnsFaithful (text "a.") ∧
      ¬ DnsFaithful (List.replicate 64 97) := by
  refine ⟨fun h => ?_, fun h => ?_, fun h => ?_⟩
  · have hdecode := h.reversible [1, 97, 0, 1, 98, 0] (by decide +kernel) []
    revert hdecode
    decide +kernel
  · have hdecode := h.reversible [1, 97, 0] (by decide +kernel) []
    revert hdecode
    decide +kernel
  · have hrefused := h.refused (by decide +kernel) 512 0
    revert hrefused
    decide +kernel

end MagiStack
