import MagiStack.Layer7.DnsDecode

/-!
# DnsCompression — names with compression pointers

A name in a message is a series of labels that ends with the root label or with a pointer to an earlier offset.
`dns_decode_name` is called on the part of the message from the name on.  It counts the offset of a pointer from
there, takes the low byte of a first pointer from three bytes behind it, and returns 2 for every name with a
pointer, whatever labels stand before it.  So a name without a pointer is decoded as it should be, and one with a
pointer only where it has no label of its own and the place that the decoder goes to happens to read the same.
-/

namespace MagiStack

open Relation

/-! ## Names of a message -/

/-- A name at a position of a message: its labels, and the number of bytes it occupies there. -/
inductive MessageName (message : List UInt8) : Nat → List Text → Nat → Prop
  | root {position : Nat} (inside : position < message.length) (byte : message.getD position 0 = 0) :
      MessageName message position [] 1
  | label {position occupied : Nat} {label : Text} {rest : List Text}
      (byte : message.getD position 0 = UInt8.ofNat label.length) (length_pos : 0 < label.length)
      (length_le : label.length ≤ 63) (inside : position + 1 + label.length ≤ message.length)
      (bytes : (message.drop (position + 1)).take label.length = label)
      (after : MessageName message (position + 1 + label.length) rest occupied) :
      MessageName message position (label :: rest) (1 + label.length + occupied)
  | pointer {position target occupied : Nat} {labels : List Text}
      (inside : position + 2 ≤ message.length) (tag : message.getD position 0 &&& 0xC0 = 0xC0)
      (offset : target = ((message.getD position 0 &&& 0x3F).toNat <<< 8) |||
        (message.getD (position + 1) 0).toNat)
      (earlier : target < position) (name : MessageName message target labels occupied) :
      MessageName message position labels 2

/-- What the decoder reads from a position on after a pointer: labels below 192 bytes up to the root label or
the end of the message, and pointers, with their offsets counted from the name. -/
inductive ReadsLabels (raw : List UInt8) (maxLen : Nat) : Nat → List Text → Prop
  | finish {position : Nat} (beyond : maxLen ≤ position) : ReadsLabels raw maxLen position []
  | root {position : Nat} (inside : position < maxLen) (byte : raw.getD position 0 = 0) :
      ReadsLabels raw maxLen position []
  | label {position : Nat} {label : Text} {rest : List Text}
      (byte : HasLabel raw maxLen position label.length)
      (bytes : (raw.drop (position + 1)).take label.length = label)
      (after : ReadsLabels raw maxLen (position + 1 + label.length) rest) :
      ReadsLabels raw maxLen position (label :: rest)
  | pointer {position target : Nat} {labels : List Text} (points : Points raw maxLen position target)
      (after : ReadsLabels raw maxLen target labels) : ReadsLabels raw maxLen position labels

/-- The condition: the labels and the root label stand at the name itself; or the name is a pointer, and the
place the decoder goes to reads as the labels. -/
def DecodesName (raw : List UInt8) (maxLen : Nat) (labels : List Text) : Prop :=
  wireLabels labels ++ [0] <+: raw.take maxLen ∨
    ∃ target read, PointsTo raw maxLen 3 0 target ∧ ReadsLabels raw maxLen target read ∧
      joinLabels read = joinLabels labels

/-! ## Rounds of the decoder -/

section Rounds

variable {raw : List UInt8} {maxLen outSize : Nat}

/-- What a round does: the loop ends behind the message, at the root label or with an error, follows a pointer,
or passes a label that fits. -/
inductive DecodeRound (raw : List UInt8) (maxLen outSize srcPos : Nat) (out : Text) (jumped : Bool) : Prop
  | finish (beyond : maxLen ≤ srcPos)
      (round : ∀ fuel, dnsDecodeLoop raw maxLen outSize (fuel + 1) srcPos out jumped =
        some (if jumped then 2 else srcPos, out))
  | root (inside : srcPos < maxLen) (byte : raw.getD srcPos 0 = 0)
      (round : ∀ fuel, dnsDecodeLoop raw maxLen outSize (fuel + 1) srcPos out jumped =
        some (if jumped then 2 else srcPos + 1, out))
  | error (out' : Text)
      (round : ∀ fuel, dnsDecodeLoop raw maxLen outSize (fuel + 1) srcPos out jumped = some (0, out'))
  | pointer (target : Nat) (points : PointsTo raw maxLen (srcPos + if jumped then 1 else 3) srcPos target)
      (round : ∀ fuel, dnsDecodeLoop raw maxLen outSize (fuel + 1) srcPos out jumped =
        dnsDecodeLoop raw maxLen outSize fuel target out true)
  | label (label : Text) (byte : HasLabel raw maxLen srcPos label.length)
      (bytes : (raw.drop (srcPos + 1)).take label.length = label)
      (fits : (dotOut outSize out).length + label.length < outSize)
      (round : ∀ fuel, dnsDecodeLoop raw maxLen outSize (fuel + 1) srcPos out jumped =
        dnsDecodeLoop raw maxLen outSize fuel (srcPos + 1 + label.length) (dotOut outSize out ++ label)
          jumped)

theorem decodeRound (hlen : maxLen ≤ raw.length) (outSize srcPos : Nat) (out : Text) (jumped : Bool) :
    DecodeRound raw maxLen outSize srcPos out jumped := by
  by_cases hend : maxLen ≤ srcPos
  · exact .finish hend fun fuel => by rw [dnsDecodeLoop, if_pos hend]
  · by_cases htag : raw.getD srcPos 0 &&& 0xC0 = 0xC0
    · -- A pointer, refused where it is cut short or leads past the end.
      have hlow : (if jumped = true then srcPos else srcPos + 2) + 1 =
          srcPos + if jumped = true then 1 else 3 := by
        split <;> rfl
      by_cases hshort : maxLen < srcPos + 2
      · refine .error out fun fuel => ?_
        rw [dnsDecodeLoop, if_neg hend]
        exact (if_pos htag).trans (if_pos hshort)
      · by_cases hbeyond : maxLen ≤ ((raw.getD srcPos 0 &&& 0x3F).toNat <<< 8) |||
            (raw.getD (srcPos + if jumped = true then 1 else 3) 0).toNat
        · refine .error out fun fuel => ?_
          rw [dnsDecodeLoop, if_neg hend]
          simp only [hlow]
          exact (if_pos htag).trans ((if_neg hshort).trans (if_pos hbeyond))
        · refine .pointer _ ⟨by omega, htag, rfl, Nat.lt_of_not_le hbeyond⟩ fun fuel => ?_
          rw [dnsDecodeLoop, if_neg hend]
          simp only [hlow]
          exact (if_pos htag).trans ((if_neg hshort).trans (if_neg hbeyond))
    · by_cases hroot : raw.getD srcPos 0 = 0
      · refine .root (not_le.mp hend) hroot fun fuel => ?_
        rw [dnsDecodeLoop, if_neg hend]
        exact (if_neg htag).trans (if_pos hroot)
      · by_cases hshort : maxLen < srcPos + 1 + (raw.getD srcPos 0).toNat
        · refine .error (dotOut outSize out) fun fuel => ?_
          rw [dnsDecodeLoop, if_neg hend]
          exact (if_neg htag).trans ((if_neg hroot).trans (if_pos hshort))
        · -- The label that this round passes, if it fits.
          generalize hlabel : (raw.drop (srcPos + 1)).take (raw.getD srcPos 0).toNat = label
          have hlength : (raw.getD srcPos 0).toNat = label.length := by
            rw [← hlabel, List.length_take, List.length_drop]
            omega
          by_cases hfull : outSize ≤ (dotOut outSize out).length + (raw.getD srcPos 0).toNat
          · refine .error (dotOut outSize out) fun fuel => ?_
            rw [dnsDecodeLoop, if_neg hend]
            exact (if_neg htag).trans ((if_neg hroot).trans ((if_neg hshort).trans (if_pos hfull)))
          · have hpositive : 0 < label.length := by
              rw [← hlength]
              exact Nat.pos_of_ne_zero fun hzero => hroot (UInt8.toNat_inj.mp hzero)
            refine .label label ⟨hlength, htag, hpositive, by omega⟩ (hlength ▸ hlabel) (by omega)
              fun fuel => ?_
            rw [dnsDecodeLoop, if_neg hend]
            refine (if_neg htag).trans ((if_neg hroot).trans ((if_neg hshort).trans
              ((if_neg hfull).trans ?_)))
            rw [hlabel, hlength]
            rfl

/-- A loop that has returned returns the same with more rounds. -/
theorem dnsDecodeLoop_mono (hlen : maxLen ≤ raw.length) {fuel srcPos : Nat} {out : Text} {jumped : Bool}
    {result : Nat × Text} (h : dnsDecodeLoop raw maxLen outSize fuel srcPos out jumped = some result)
    (more : Nat) :
    dnsDecodeLoop raw maxLen outSize (fuel + more) srcPos out jumped = some result := by
  induction fuel generalizing srcPos out jumped with
  | zero => cases h
  | succ fuel ih =>
      rw [Nat.add_right_comm]
      cases decodeRound hlen outSize srcPos out jumped with
      | finish _ round | root _ _ round | error _ round =>
          rw [round] at h ⊢
          exact h
      | pointer _ _ round | label _ _ _ _ round =>
          rw [round] at h ⊢
          exact ih h

/-- A name that is read fits into its array. -/
theorem dnsDecodeLoop_size {fuel srcPos : Nat} {out : Text} {jumped : Bool} {result : Nat × Text}
    (hlen : maxLen ≤ raw.length) (hout : out.length < outSize)
    (h : dnsDecodeLoop raw maxLen outSize fuel srcPos out jumped = some result) (hread : result.1 ≠ 0) :
    result.2.length < outSize := by
  induction fuel generalizing srcPos out jumped with
  | zero => cases h
  | succ fuel ih =>
      cases decodeRound hlen outSize srcPos out jumped with
      | finish _ round | root _ _ round =>
          rw [round] at h
          obtain rfl := Option.some.inj h
          exact hout
      | error out' round =>
          rw [round] at h
          obtain rfl := Option.some.inj h
          exact absurd rfl hread
      | pointer target _ round =>
          rw [round] at h
          exact ih hout h
      | label label _ _ fits round =>
          rw [round] at h
          exact ih (by rw [List.length_append]; exact fits) h

/-- What the loop returns with any number of rounds `dns_decode_name` returns. -/
theorem dnsDecodeName_of_loop (hlen : maxLen ≤ raw.length) {fuel : Nat} {result : Nat × Text}
    (h : dnsDecodeLoop raw maxLen outSize fuel 0 [] false = some result) :
    dnsDecodeName raw maxLen outSize = some result := by
  have hreturns : dnsDecodeName raw maxLen outSize ≠ none :=
    (dnsDecodeName_ne_none_iff outSize hlen).mpr ⟨fuel, by rw [h]; exact Option.some_ne_none result⟩
  obtain ⟨result', hresult'⟩ := Option.ne_none_iff_exists'.mp hreturns
  have hfirst := dnsDecodeLoop_mono hlen h (2 * (maxLen + 1) * (outSize + 1))
  have hsecond := dnsDecodeLoop_mono hlen hresult' fuel
  rw [Nat.add_comm] at hsecond
  rw [hresult', ← hsecond, hfirst]

/-- At a pointer the loop returns `0` or follows it. -/
theorem dnsDecodeLoop_tag (hlen : maxLen ≤ raw.length) {fuel srcPos : Nat} {out : Text} {jumped : Bool}
    {result : Nat × Text} (hinside : srcPos < maxLen) (htag : raw.getD srcPos 0 &&& 0xC0 = 0xC0)
    (h : dnsDecodeLoop raw maxLen outSize fuel srcPos out jumped = some result) :
    result.1 = 0 ∨ ∃ fuel' target,
      PointsTo raw maxLen (srcPos + if jumped then 1 else 3) srcPos target ∧
      dnsDecodeLoop raw maxLen outSize fuel' target out true = some result := by
  cases fuel with
  | zero => cases h
  | succ fuel =>
      cases decodeRound hlen outSize srcPos out jumped with
      | finish beyond _ => exact absurd beyond (not_le.mpr hinside)
      | root _ byte _ =>
          rw [byte] at htag
          exact absurd htag (by decide)
      | error out' round =>
          rw [round] at h
          exact Or.inl (congrArg Prod.fst (Option.some.inj h)).symm
      | pointer target points round =>
          rw [round] at h
          exact Or.inr ⟨fuel, target, points, h⟩
      | label _ byte _ _ _ => exact absurd htag byte.tag

/-- The output after a label that fits. -/
theorem dotOut_of_fits {done : List Text} {label : Text} (hdone : ∀ other ∈ done, other ≠ [])
    (hlabel : 0 < label.length) (hsize : (joinLabels done).length < outSize)
    (hfits : (dotOut outSize (joinLabels done)).length + label.length < outSize) :
    dotOut outSize (joinLabels done) ++ label = joinLabels (done ++ [label]) := by
  refine dotOut_joinLabels hdone ?_
  by_cases hnil : done = []
  · rw [hnil, List.nil_append, joinLabels_singleton]
    omega
  · -- The dot is left out only where the label does not fit either.
    rw [joinLabels_concat hnil, List.length_append, List.length_cons]
    rw [dotOut] at hfits
    have hpos : 0 < (joinLabels done).length := by
      obtain ⟨first, rest, rfl⟩ := List.exists_cons_of_ne_nil hnil
      have hfirst := List.length_pos_of_ne_nil (hdone first List.mem_cons_self)
      have hlength := joinLabels_length hnil
      simp only [wireLabels_cons, List.length_append, List.length_cons] at hlength
      omega
    split at hfits
    · simp only [List.length_append, List.length_singleton] at hfits
      omega
    · omega

/-- After a pointer the loop returns `0`, or `2` and the labels that are read. -/
theorem dnsDecodeLoop_jumped (hlen : maxLen ≤ raw.length) {fuel srcPos : Nat} {done : List Text}
    {result : Nat × Text} (hdone : ∀ label ∈ done, label ≠ [])
    (hsize : (joinLabels done).length < outSize)
    (h : dnsDecodeLoop raw maxLen outSize fuel srcPos (joinLabels done) true = some result) :
    result.1 = 0 ∨ result.1 = 2 ∧ ∃ read, ReadsLabels raw maxLen srcPos read ∧
      result.2 = joinLabels (done ++ read) := by
  induction fuel generalizing srcPos done with
  | zero => cases h
  | succ fuel ih =>
      cases decodeRound hlen outSize srcPos (joinLabels done) true with
      | finish beyond round =>
          rw [round] at h
          obtain rfl := Option.some.inj h
          exact Or.inr ⟨rfl, [], .finish beyond, by rw [List.append_nil]⟩
      | root inside byte round =>
          rw [round] at h
          obtain rfl := Option.some.inj h
          exact Or.inr ⟨rfl, [], .root inside byte, by rw [List.append_nil]⟩
      | error out' round =>
          rw [round] at h
          exact Or.inl (congrArg Prod.fst (Option.some.inj h)).symm
      | pointer target points round =>
          rw [round] at h
          obtain hzero | ⟨htwo, read, hread, hout⟩ := ih hdone hsize h
          · exact Or.inl hzero
          · exact Or.inr ⟨htwo, read, .pointer points hread, hout⟩
      | label label byte bytes fits round =>
          have hne := List.ne_nil_of_length_pos byte.positive
          -- The output stays the text of the labels read so far.
          have hjoin := dotOut_of_fits hdone byte.positive hsize fits
          rw [round, hjoin] at h
          have hdone' : ∀ other ∈ done ++ [label], other ≠ [] := by
            intro other hother
            obtain hold | hlast := List.mem_append.mp hother
            · exact hdone other hold
            · rwa [List.mem_singleton.mp hlast]
          have hsize' : (joinLabels (done ++ [label])).length < outSize := by
            rw [← hjoin, List.length_append]
            exact fits
          obtain hzero | ⟨htwo, read, hread, hout⟩ := ih hdone' hsize' h
          · exact Or.inl hzero
          · refine Or.inr ⟨htwo, label :: read, .label byte bytes hread, ?_⟩
            rw [hout, List.append_assoc]
            rfl

/-- The round at a pointer. -/
theorem dnsDecodeLoop_pointer {srcPos target : Nat} {jumped : Bool}
    (h : PointsTo raw maxLen (srcPos + if jumped then 1 else 3) srcPos target) (fuel : Nat) (out : Text) :
    dnsDecodeLoop raw maxLen outSize (fuel + 1) srcPos out jumped =
      dnsDecodeLoop raw maxLen outSize fuel target out true := by
  have hinside := h.inside
  have hlow : (if jumped = true then srcPos else srcPos + 2) + 1 =
      srcPos + if jumped = true then 1 else 3 := by
    split <;> rfl
  rw [dnsDecodeLoop, if_neg (by omega)]
  simp only [hlow]
  rw [if_pos h.tag, if_neg (by omega), ← h.offset, if_neg (Nat.not_le.mpr h.target_lt)]

theorem HasLabel.byte_eq {position len : Nat} (h : HasLabel raw maxLen position len) :
    raw.getD position 0 = UInt8.ofNat len ∧ len < 192 := by
  have htag := h.tag
  rw [Ne, pointerTag_iff, h.length] at htag
  refine ⟨?_, not_le.mp htag⟩
  rw [← h.length, UInt8.ofNat_toNat]

/-- What is read after a pointer the loop returns, if it fits. -/
theorem dnsDecodeLoop_reads {srcPos : Nat} {read : List Text} (h : ReadsLabels raw maxLen srcPos read)
    {done : List Text} (hdone : ∀ label ∈ done, label ≠ [])
    (hsize : (joinLabels (done ++ read)).length < outSize) :
    ∃ fuel, dnsDecodeLoop raw maxLen outSize fuel srcPos (joinLabels done) true =
      some (2, joinLabels (done ++ read)) := by
  induction h generalizing done with
  | finish beyond =>
      refine ⟨1, ?_⟩
      rw [dnsDecodeLoop, if_pos beyond, List.append_nil]
      rfl
  | root inside byte =>
      refine ⟨1, ?_⟩
      rw [dnsDecodeLoop, if_neg (not_le.mpr inside), List.append_nil]
      simp only [byte]
      rfl
  | pointer points _ ih =>
      obtain ⟨fuel, hloop⟩ := ih hdone hsize
      exact ⟨fuel + 1, (@dnsDecodeLoop_pointer raw maxLen outSize _ _ true points fuel _).trans hloop⟩
  | @label position label rest byte bytes _ ih =>
      -- The label goes over to what is done.
      have hmove : done ++ label :: rest = (done ++ [label]) ++ rest := by simp
      rw [hmove] at hsize ⊢
      have hhere := (joinLabels_length_le (done ++ [label]) rest).trans_lt hsize
      have hout := dotOut_joinLabels hdone hhere
      have hfits := congrArg List.length hout
      rw [List.length_append] at hfits
      have hne := List.ne_nil_of_length_pos byte.positive
      obtain ⟨fuel, hloop⟩ := @ih (done ++ [label]) (fun other hother => by
        obtain hold | hlast := List.mem_append.mp hother
        · exact hdone other hold
        · rwa [List.mem_singleton.mp hlast]) hsize
      refine ⟨fuel + 1, ?_⟩
      rw [dnsDecodeLoop_label fuel byte.byte_eq.1 bytes byte.positive byte.byte_eq.2 byte.inside
        (by omega), hout]
      exact hloop

end Rounds

/-! ## The beginning of a name -/

section Names

variable {message : List UInt8} {position occupied : Nat} {labels : List Text}

theorem MessageName.labels_short (h : MessageName message position labels occupied) :
    ∀ label ∈ labels, label ≠ [] ∧ label.length ≤ 63 := by
  induction h with
  | root _ _ => exact fun _ hlabel => absurd hlabel List.not_mem_nil
  | label _ length_pos length_le _ _ _ ih =>
      intro label hlabel
      obtain rfl | hlater := List.mem_cons.mp hlabel
      · exact ⟨List.ne_nil_of_length_pos length_pos, length_le⟩
      · exact ih label hlater
  | pointer _ _ _ _ _ ih => exact ih

theorem MessageName.occupied_ne_zero (h : MessageName message position labels occupied) :
    occupied ≠ 0 := by
  cases h
  all_goals omega

/-- A name begins with labels, behind which the root label or a pointer stands. -/
theorem MessageName.split (h : MessageName message position labels occupied) :
    ∃ front back, labels = front ++ back ∧ wireLabels front <+: message.drop position ∧
      position + (wireLabels front).length < message.length ∧
      (back = [] ∧ message.getD (position + (wireLabels front).length) 0 = 0 ∧
          occupied = (wireLabels front).length + 1 ∨
        message.getD (position + (wireLabels front).length) 0 &&& 0xC0 = 0xC0 ∧
          occupied = (wireLabels front).length + 2) := by
  induction h with
  | root inside byte => exact ⟨[], [], rfl, List.nil_prefix, inside, Or.inl ⟨rfl, byte, rfl⟩⟩
  | pointer inside tag _ _ _ _ =>
      exact ⟨[], _, rfl, List.nil_prefix, Nat.lt_of_succ_lt inside, Or.inr ⟨tag, rfl⟩⟩
  | @label position occupied label rest byte length_pos _ inside bytes _ ih =>
      obtain ⟨front, back, rfl, ⟨later, hfront⟩, hlt, hend⟩ := ih
      -- The label here goes in front of those behind it.
      have hwire : position + (wireLabels (label :: front)).length =
          position + 1 + label.length + (wireLabels front).length := by
        simp only [wireLabels_cons, List.length_append, List.length_cons]
        omega
      refine ⟨label :: front, back, rfl, ⟨later, ?_⟩, by omega, ?_⟩
      · have hhead : message.drop position = UInt8.ofNat label.length :: message.drop (position + 1) := by
          rw [List.drop_eq_getElem_cons (by omega), ← byte]
          simp [List.getD_eq_getElem?_getD, List.getElem?_eq_getElem (show position < message.length by omega)]
        have hlabel : message.drop (position + 1) =
            label ++ message.drop (position + 1 + label.length) := by
          calc
            message.drop (position + 1)
                = (message.drop (position + 1)).take label.length ++
                    (message.drop (position + 1)).drop label.length :=
                  (List.take_append_drop _ _).symm
            _ = label ++ message.drop (position + 1 + label.length) := by
                  rw [bytes, List.drop_drop]
        rw [hhead, hlabel, ← hfront, wireLabels_cons, List.cons_append, List.cons_append,
          List.append_assoc]
      · rw [hwire]
        simp only [wireLabels_cons, List.length_append, List.length_cons]
        obtain ⟨hback, hbyte, hoccupied⟩ | ⟨hbyte, hoccupied⟩ := hend
        · exact Or.inl ⟨hback, hbyte, by omega⟩
        · exact Or.inr ⟨hbyte, by omega⟩

/-- The part of the message from the name on, with whatever lies behind the message. -/
theorem getD_part (beyond : List UInt8) {k : Nat} (hk : position + k < message.length) :
    ((message ++ beyond).drop position).getD k 0 = message.getD (position + k) 0 := by
  simp only [List.getD_eq_getElem?_getD, List.getElem?_drop]
  rw [List.getElem?_append_left hk]

theorem take_part (beyond : List UInt8) (hle : position ≤ message.length) :
    ((message ++ beyond).drop position).take (message.length - position) = message.drop position := by
  rw [List.drop_append_of_le_length hle]
  exact List.take_left' (List.length_drop ..)

/-- What the decoder does before it comes to the end of the labels in front. -/
theorem dnsDecodeName_front {raw : List UInt8} {maxLen outSize : Nat} {front : List Text}
    {result : Nat × Text} (hlen : maxLen ≤ raw.length) (hstands : wireLabels front <+: raw)
    (hinside : (wireLabels front).length ≤ maxLen)
    (hfront : ∀ label ∈ front, label ≠ [] ∧ label.length ≤ 63)
    (hsize : (joinLabels front).length < outSize)
    (h : dnsDecodeName raw maxLen outSize = some result) :
    ∃ fuel, dnsDecodeLoop raw maxLen outSize fuel (wireLabels front).length (joinLabels front) false =
      some result := by
  obtain ⟨rest, hrest⟩ := hstands
  refine ⟨2 * (maxLen + 1) * (outSize + 1), ?_⟩
  rw [dnsDecodeName] at h
  have hmore := dnsDecodeLoop_mono hlen h front.length
  have hloop := @dnsDecodeLoop_labels raw rest maxLen outSize 0 false
    (2 * (maxLen + 1) * (outSize + 1)) [] front (by rw [List.drop_zero, hrest]) (by omega)
    (fun _ hlabel => absurd hlabel List.not_mem_nil)
    (fun label hlabel => ⟨(hfront label hlabel).1,
      Nat.lt_of_le_of_lt (hfront label hlabel).2 (by decide)⟩) (by rwa [List.nil_append])
  rw [List.nil_append, Nat.zero_add, joinLabels_nil, hmore] at hloop
  exact hloop.symm

theorem prefix_concat_getD {l r : List UInt8} (h : l <+: r) (hlt : l.length < r.length) :
    l ++ [r.getD l.length 0] <+: r := by
  obtain ⟨rest, rfl⟩ := h
  cases rest with
  | nil => simp at hlt
  | cons b rest => exact ⟨rest, by simp [List.getD_eq_getElem?_getD]⟩

/-- A length byte of a label is no pointer. -/
theorem length_not_tag {label : Text} (h : label.length ≤ 63) :
    UInt8.ofNat label.length &&& 0xC0 ≠ 0xC0 := by
  rw [Ne, pointerTag_iff, UInt8.toNat_ofNat_of_lt' (Nat.lt_of_le_of_lt h (by decide))]
  omega

/-- A name cut out of its message: the labels in front, and behind them the root label or a pointer. -/
structure NamePart (raw : List UInt8) (maxLen : Nat) (front back : List Text) (occupied : Nat) : Prop where
  bytes : maxLen ≤ raw.length
  inside : (wireLabels front).length < maxLen
  stands : wireLabels front <+: raw.take maxLen
  labels : ∀ label ∈ front ++ back, label ≠ [] ∧ label.length ≤ 63
  short : (joinLabels (front ++ back)).length < dnsMaxName
  ending : back = [] ∧ raw.getD (wireLabels front).length 0 = 0 ∧
      occupied = (wireLabels front).length + 1 ∨
    raw.getD (wireLabels front).length 0 &&& 0xC0 = 0xC0 ∧ occupied = (wireLabels front).length + 2

theorem part_length (beyond : List UInt8) :
    message.length - position ≤ ((message ++ beyond).drop position).length := by
  rw [List.length_drop, List.length_append]
  omega

theorem MessageName.part (h : MessageName message position labels occupied)
    (hshort : (joinLabels labels).length < dnsMaxName) (beyond : List UInt8) :
    ∃ front back, labels = front ++ back ∧
      NamePart ((message ++ beyond).drop position) (message.length - position) front back occupied := by
  have hlabels := h.labels_short
  obtain ⟨front, back, rfl, hstands, hinside, hend⟩ := h.split
  refine ⟨front, back, rfl, part_length beyond, by omega, ?_, hlabels, hshort, ?_⟩
  · rwa [take_part beyond (by omega)]
  · rwa [getD_part beyond hinside]

namespace NamePart

variable {raw : List UInt8} {maxLen : Nat} {front back : List Text}

/-- The root label or a length byte stands behind the labels where all of them stand at the name. -/
theorem raw_eq (h : NamePart raw maxLen front back occupied) {rest : List UInt8}
    (hwritten : wireLabels (front ++ back) ++ [0] ++ rest = raw.take maxLen) :
    raw = wireLabels (front ++ back) ++ 0 :: (rest ++ raw.drop maxLen) ∧
      (wireLabels (front ++ back)).length < maxLen := by
  have hbytes := h.bytes
  constructor
  · calc
      raw = raw.take maxLen ++ raw.drop maxLen := (List.take_append_drop maxLen raw).symm
      _ = wireLabels (front ++ back) ++ 0 :: (rest ++ raw.drop maxLen) := by
            rw [← hwritten]
            simp
  · have hlength := congrArg List.length hwritten
    simp only [List.length_append, List.length_singleton, List.length_take] at hlength ⊢
    omega

theorem front_short (h : NamePart raw maxLen front back occupied) :
    ∀ label ∈ front, label ≠ [] ∧ label.length ≤ 63 :=
  fun label hlabel => h.labels label (List.mem_append_left back hlabel)

/-- A name with a pointer that is decoded is the pointer alone: two bytes are returned for it, so that no label
stands before it. -/
theorem pointer_alone (h : NamePart raw maxLen front back occupied)
    (htag : raw.getD (wireLabels front).length 0 &&& 0xC0 = 0xC0)
    (hoccupied : occupied = (wireLabels front).length + 2)
    (hdecode : dnsDecodeName raw maxLen dnsMaxName = some (occupied, joinLabels (front ++ back))) :
    front = [] ∧ ∃ target read, PointsTo raw maxLen 3 0 target ∧ ReadsLabels raw maxLen target read ∧
      joinLabels read = joinLabels (front ++ back) := by
  subst hoccupied
  have hsize := (joinLabels_length_le front back).trans_lt h.short
  obtain ⟨fuel, hloop⟩ := dnsDecodeName_front h.bytes (h.stands.trans (List.take_prefix _ _))
    h.inside.le h.front_short hsize hdecode
  obtain hzero | ⟨fuel', target, hpoints, hloop'⟩ := dnsDecodeLoop_tag h.bytes h.inside htag hloop
  · exact absurd hzero (by simp)
  obtain hzero | ⟨htwo, read, hread, hout⟩ := dnsDecodeLoop_jumped h.bytes
    (fun label hlabel => (h.front_short label hlabel).1) hsize hloop'
  · exact absurd hzero (by simp)
  have hnone : front = [] := by
    have hle := wireLabels_length_le front
    simp only at htwo
    exact List.length_eq_zero_iff.mp (by omega)
  subst hnone
  exact ⟨rfl, target, read, hpoints, hread, hout.symm⟩

/-- What is decoded to the labels of the name meets the condition. -/
theorem decodesName (h : NamePart raw maxLen front back occupied)
    (hdecode : dnsDecodeName raw maxLen dnsMaxName = some (occupied, joinLabels (front ++ back))) :
    DecodesName raw maxLen (front ++ back) := by
  obtain ⟨rfl, hroot, rfl⟩ | ⟨htag, hoccupied⟩ := h.ending
  · -- The labels and the root label.
    refine Or.inl ?_
    have htake : (raw.take maxLen).length = maxLen := by
      rw [List.length_take, Nat.min_eq_left h.bytes]
    have hconcat := prefix_concat_getD h.stands (h.inside.trans_eq htake.symm)
    have hread : (raw.take maxLen).getD (wireLabels front).length 0 = 0 := by
      rw [List.getD_eq_getElem?_getD, List.getElem?_take_of_lt h.inside,
        ← List.getD_eq_getElem?_getD, hroot]
    rwa [hread, ← List.append_nil front] at hconcat
  · exact Or.inr (h.pointer_alone htag hoccupied hdecode).2

/-- Labels and a root label at the name are decoded. -/
theorem decode_labels (h : NamePart raw maxLen front back occupied)
    (hwritten : wireLabels (front ++ back) ++ [0] <+: raw.take maxLen) :
    dnsDecodeName raw maxLen dnsMaxName = some (occupied, joinLabels (front ++ back)) := by
  obtain ⟨rest, hrest⟩ := hwritten
  obtain ⟨hraw, hlt⟩ := h.raw_eq hrest
  rw [dnsDecodeName_labels (front ++ back) hraw hlt (fun label hlabel => ⟨(h.labels label hlabel).1,
    Nat.lt_of_le_of_lt (h.labels label hlabel).2 (by decide)⟩) h.short]
  obtain ⟨rfl, -, rfl⟩ | ⟨htag, -⟩ := h.ending
  · rw [List.append_nil]
  · -- Behind the labels in front stands a length byte, or the root label.
    rw [hraw, wireLabels_append, List.append_assoc, List.getD_append_right _ _ _ _ le_rfl,
      Nat.sub_self] at htag
    cases back with
    | nil => exact absurd htag (show ¬ (0 : UInt8) &&& 0xC0 = 0xC0 by decide)
    | cons label later =>
        exact absurd htag (length_not_tag
          (h.labels label (List.mem_append_right front List.mem_cons_self)).2)

/-- A pointer alone is decoded to what its target reads as. -/
theorem decode_pointer (h : NamePart raw maxLen front back occupied) {target : Nat} {read : List Text}
    (hpoints : PointsTo raw maxLen 3 0 target) (hread : ReadsLabels raw maxLen target read)
    (hout : joinLabels read = joinLabels (front ++ back)) :
    dnsDecodeName raw maxLen dnsMaxName = some (occupied, joinLabels (front ++ back)) := by
  have hnone : front = [] := by
    cases front with
    | nil => rfl
    | cons label later =>
        obtain ⟨rest, hrest⟩ := h.stands.trans (List.take_prefix _ _)
        have htag := hpoints.tag
        rw [← hrest] at htag
        exact absurd htag (length_not_tag (h.labels label List.mem_cons_self).2)
  subst hnone
  obtain ⟨-, hroot, -⟩ | ⟨-, rfl⟩ := h.ending
  · have htag := hpoints.tag
    rw [show raw.getD 0 0 = 0 from hroot] at htag
    exact absurd htag (by decide)
  · have hsize := h.short
    rw [← hout] at hsize
    obtain ⟨fuel, hloop⟩ := @dnsDecodeLoop_reads raw maxLen dnsMaxName target read hread []
      (fun _ hlabel => absurd hlabel List.not_mem_nil) hsize
    rw [List.nil_append, hout] at hloop
    exact dnsDecodeName_of_loop h.bytes
      ((@dnsDecodeLoop_pointer raw maxLen dnsMaxName 0 target false hpoints fuel []).trans hloop)

end NamePart

/-- The text of a name that is decoded fits into the array. -/
theorem MessageName.decoded_short (h : MessageName message position labels occupied) {beyond : List UInt8}
    (hdecode : dnsDecodeName ((message ++ beyond).drop position) (message.length - position) dnsMaxName =
      some (occupied, joinLabels labels)) : (joinLabels labels).length < dnsMaxName :=
  dnsDecodeLoop_size (part_length beyond) (by decide) hdecode h.occupied_ne_zero

/-- A name without a pointer, which occupies its labels and the root label, is decoded. -/
theorem MessageName.decode_uncompressed (h : MessageName message position labels occupied)
    (hplain : occupied = (wireLabels labels).length + 1) (hshort : (joinLabels labels).length < dnsMaxName)
    (beyond : List UInt8) :
    dnsDecodeName ((message ++ beyond).drop position) (message.length - position) dnsMaxName =
      some (occupied, joinLabels labels) := by
  obtain ⟨front, back, rfl, hpart⟩ := h.part hshort beyond
  refine hpart.decode_labels ?_
  obtain ⟨rfl, hroot, -⟩ | ⟨-, hoccupied⟩ := hpart.ending
  · have hle : position ≤ message.length := by
      have hinside := hpart.inside
      omega
    have hstands := hpart.stands
    rw [take_part beyond hle] at hstands ⊢
    have hconcat := prefix_concat_getD hstands (by rw [List.length_drop]; exact hpart.inside)
    have hread : (message.drop position).getD (wireLabels front).length 0 = 0 := by
      have hinside := hpart.inside
      rw [getD_part beyond (by omega)] at hroot
      simpa [List.getD_eq_getElem?_getD] using hroot
    rwa [hread, ← List.append_nil front] at hconcat
  · -- A label that comes after a pointer takes two bytes at least.
    rw [hplain, wireLabels_append, List.length_append] at hoccupied
    cases back with
    | nil => simp at hoccupied
    | cons label later =>
        have hlabel := (hpart.labels label (List.mem_append_right front List.mem_cons_self)).1
        have hpos := List.length_pos_of_ne_nil hlabel
        simp only [wireLabels_cons, List.length_append, List.length_cons] at hoccupied
        omega

/-- A name with a pointer and a label before it never is. -/
theorem MessageName.not_decoded_label_pointer (h : MessageName message position labels occupied)
    (hpointer : occupied ≠ (wireLabels labels).length + 1) (hlabel : occupied ≠ 2) (beyond : List UInt8) :
    dnsDecodeName ((message ++ beyond).drop position) (message.length - position) dnsMaxName ≠
      some (occupied, joinLabels labels) := by
  intro hdecode
  obtain ⟨front, back, rfl, hpart⟩ := h.part (h.decoded_short hdecode) beyond
  obtain ⟨rfl, -, hoccupied⟩ | ⟨htag, hoccupied⟩ := hpart.ending
  · exact hpointer (by rw [hoccupied, List.append_nil])
  · obtain ⟨rfl, -⟩ := hpart.pointer_alone htag hoccupied hdecode
    exact hlabel hoccupied

/-- `dns_decode_name`, as the parser and the server call it on a name of a message, returns its labels and the
bytes it occupies exactly if they fit into the array and the condition holds. -/
theorem dnsDecodeName_compressed_iff (h : MessageName message position labels occupied)
    (beyond : List UInt8) :
    dnsDecodeName ((message ++ beyond).drop position) (message.length - position) dnsMaxName =
        some (occupied, joinLabels labels) ↔
      (joinLabels labels).length < dnsMaxName ∧
        DecodesName ((message ++ beyond).drop position) (message.length - position) labels := by
  constructor
  · intro hdecode
    have hshort := h.decoded_short hdecode
    obtain ⟨front, back, rfl, hpart⟩ := h.part hshort beyond
    exact ⟨hshort, hpart.decodesName hdecode⟩
  · rintro ⟨hshort, hcondition⟩
    obtain ⟨front, back, rfl, hpart⟩ := h.part hshort beyond
    obtain hwritten | ⟨target, read, hpoints, hread, hout⟩ := hcondition
    · exact hpart.decode_labels hwritten
    · exact hpart.decode_pointer hpoints hread hout

end Names

/-- A response to a question for `a`, whose answer names it with a pointer to offset 12. -/
def dnsAnswered : List UInt8 :=
  dnsHeader 1 dnsResponseFlags 1 1 ++ dnsQuestion [1, 97, 0] ++ dnsAnswer ⟨10, 0, 0, 1, 0⟩

theorem dnsAnswered_question : MessageName dnsAnswered 12 [[97]] 3 :=
  @MessageName.label dnsAnswered 12 1 [97] [] (by decide) (by decide) (by decide) (by decide) (by decide)
    (.root (by decide) (by decide))

/-- The name of the question is decoded. -/
theorem dnsDecodeName_compressed_iff_question :
    MessageName dnsAnswered 12 [[97]] 3 ∧
      dnsDecodeName ((dnsAnswered ++ []).drop 12) (dnsAnswered.length - 12) dnsMaxName =
        some (3, [97]) := by
  have hname := dnsAnswered_question
  exact ⟨hname, (dnsDecodeName_compressed_iff hname []).mpr ⟨by decide, Or.inl ⟨_, rfl⟩⟩⟩

/-- The name of the answer is the same, and is not. -/
theorem dnsDecodeName_compressed_iff_answer :
    MessageName dnsAnswered 19 [[97]] 2 ∧
      dnsDecodeName (dnsAnswered.drop 19) (dnsAnswered.length - 19) dnsMaxName ≠
        some (2, joinLabels [[97]]) := by
  refine ⟨@MessageName.pointer dnsAnswered 19 12 3 [[97]] (by decide) (by decide) (by decide) (by decide)
    dnsAnswered_question, ?_⟩
  decide +kernel

end MagiStack
