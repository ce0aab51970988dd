import MagiStack.Layer4.ParserSafety
import MagiStack.Layer7.DnsCompression
import MagiStack.Layer7.DnsNames

/-!
# DnsSafety — what the handlers of DNS messages read and write

The functions of `dns_server.c` that handle a message once more, with every access to the message, to a name buffer
and to the response checked.  Two accesses can leave their buffers.  `dns_decode_name` takes the low byte of a first
pointer from three bytes behind it and has checked for one byte only; and `dns_server_handle_query` asks for twelve
bytes behind the pointer of its answer and writes fourteen.
-/

namespace MagiStack

open CheckedBuffer

/-! ## Checked names -/

/-- The dot before a label. -/
def writeDot (outSize written : Nat) : Access Unit :=
  if 0 < written ∧ written < outSize - 1 then writeRange outSize written 1 else pure ()

/-- The loop of `dns_decode_name` on a message of exactly `max_len` bytes. -/
def dnsDecodeLoopChecked (raw : List UInt8) (outSize : Nat) :
    Nat → Nat → Text → Bool → Access (Option (Nat × Text))
  | 0, _, _, _ => pure none
  | fuel + 1, srcPos, out, jumped =>
      if raw.length ≤ srcPos then do
        writeRange outSize out.length 1
        pure (some (if jumped then 2 else srcPos, out))
      else do
        let labelLen ← readByte raw srcPos
        if labelLen &&& 0xC0 = 0xC0 then
          if raw.length < srcPos + 2 then
            pure (some (0, out))
          else do
            -- `src_pos` has moved past a first pointer here
            let low ← readByte raw ((if jumped then srcPos else srcPos + 2) + 1)
            if raw.length ≤ ((labelLen &&& 0x3F).toNat <<< 8) ||| low.toNat then
              pure (some (0, out))
            else
              dnsDecodeLoopChecked raw outSize fuel (((labelLen &&& 0x3F).toNat <<< 8) ||| low.toNat)
                out true
        else if labelLen = 0 then do
          writeRange outSize out.length 1
          pure (some (if jumped then 2 else srcPos + 1, out))
        else do
          writeDot outSize out.length
          if raw.length < srcPos + 1 + labelLen.toNat then
            pure (some (0, dotOut outSize out))
          else if outSize ≤ (dotOut outSize out).length + labelLen.toNat then
            pure (some (0, dotOut outSize out))
          else do
            readRange raw.length (srcPos + 1) labelLen.toNat
            writeRange outSize (dotOut outSize out).length labelLen.toNat
            dnsDecodeLoopChecked raw outSize fuel (srcPos + 1 + labelLen.toNat)
              (dotOut outSize out ++ (raw.drop (srcPos + 1)).take labelLen.toNat) jumped

/-- `dns_decode_name`, with the rounds that `dnsDecodeName` gives the loop. -/
def dnsDecodeNameChecked (raw : List UInt8) (outSize : Nat) : Access (Option (Nat × Text)) :=
  dnsDecodeLoopChecked raw outSize (2 * (raw.length + 1) * (outSize + 1)) 0 [] false

/-- The loop of `dns_encode_name`. -/
def dnsEncodeLoopChecked (outSize : Nat) (written : List UInt8) (rest : Text) :
    Access (Option (List UInt8)) :=
  if rest = [] then
    pure (some written)
  else
    let label := rest.takeWhile (· ≠ dnsDot)
    if outSize < written.length + 1 + label.length then
      pure none
    else do
      writeRange outSize written.length 1
      writeRange outSize (written.length + 1) label.length
      match _hdot : rest.dropWhile (· ≠ dnsDot) with
      | [] => pure (some (written ++ UInt8.ofNat label.length :: label))
      | _ :: after =>
          dnsEncodeLoopChecked outSize (written ++ UInt8.ofNat label.length :: label) after
  termination_by rest.length
  decreasing_by
    have hle := (List.dropWhile_sublist (· ≠ dnsDot) (l := rest)).length_le
    rw [_hdot] at hle
    exact hle

/-- `dns_encode_name`. -/
def dnsEncodeNameChecked (outSize : Nat) (name : Text) : Access (Option (List UInt8)) := do
  match ← dnsEncodeLoopChecked outSize [] name with
  | none => pure none
  | some written =>
      if outSize < written.length + 1 then
        pure none
      else do
        writeRange outSize written.length 1
        pure (some (written ++ [0]))

/-! ## Checked messages -/

/-- What `dns_server_handle_query` does with the name it has read. -/
def dnsRespondChecked (table : DnsTable) (id : UInt16) (qname : Text) (maxRespLen : Nat) :
    Access (Option (List UInt8)) := do
  -- the string is read from its array up to the terminator
  readRange dnsMaxName 0 (qname.length + 1)
  match ← dnsEncodeNameChecked dnsMaxName qname with
  | none => pure none
  | some encName =>
      if maxRespLen < 12 then
        pure none
      else do
        writeRange maxRespLen 0 12
        if maxRespLen < 12 + encName.length + 4 then
          pure none
        else do
          readRange dnsMaxName 0 encName.length
          writeRange maxRespLen 12 (encName.length + 4)
          match dnsServerResolve table qname with
          | none =>
              pure (some (dnsHeader id (dnsResponseFlags ||| dnsRcodeNxdomain) 1 0 ++
                dnsQuestion encName))
          | some resolved =>
              if maxRespLen < 12 + encName.length + 4 + 2 then
                pure none
              else do
                writeRange maxRespLen (12 + encName.length + 4) 2
                if maxRespLen < 12 + encName.length + 4 + 2 + 8 + 4 then
                  pure none
                else do
                  -- type, class and lifetime; the length of the address; the address
                  writeRange maxRespLen (12 + encName.length + 4 + 2) 8
                  writeRange maxRespLen (12 + encName.length + 4 + 10) 2
                  writeRange maxRespLen (12 + encName.length + 4 + 12) 4
                  pure (some (dnsHeader id dnsResponseFlags 1 1 ++ dnsQuestion encName ++
                    dnsAnswer resolved))

/-- `dns_server_handle_query`. -/
def dnsServerHandleQueryChecked (table : DnsTable) (query : List UInt8) (maxRespLen : Nat) :
    Access (Option (Option (List UInt8))) :=
  if query.length < 12 then
    pure (some none)
  else do
    let id ← readU16Checked query 0
    let _flags ← readU16Checked query 2
    let _qdcount ← readU16Checked query 4
    match ← dnsDecodeNameChecked (query.drop 12) dnsMaxName with
    | none => pure none
    | some (decoded, out) =>
        if decoded = 0 then
          pure (some none)
        else
          some <$> dnsRespondChecked table id (cString out) maxRespLen

/-- The loop of `dns_parse_response` over the questions. -/
def dnsSkipQuestionsChecked (raw : List UInt8) : Nat → Nat → Access (Option (Option Nat))
  | 0, pos => pure (some (some pos))
  | count + 1, pos =>
      if pos < raw.length then do
        match ← dnsDecodeNameChecked (raw.drop pos) dnsMaxName with
        | none => pure none
        | some (consumed, _) =>
            if consumed = 0 then pure (some none)
            else dnsSkipQuestionsChecked raw count (pos + consumed + 4)
      else
        pure (some (some pos))

/-- The position after the name of an answer. -/
def dnsSkipAnswerNameChecked (raw : List UInt8) (pos : Nat) : Access (Option (Option Nat)) := do
  let first ← readByte raw pos
  if first &&& 0xC0 = 0xC0 then
    pure (some (some (pos + 2)))
  else
    match ← dnsDecodeNameChecked (raw.drop pos) dnsMaxName with
    | none => pure none
    | some (consumed, _) => pure (some (if consumed = 0 then none else some (pos + consumed)))

/-- The loop of `dns_parse_response` over the answers. -/
def dnsParseAnswersChecked (raw : List UInt8) : Nat → Nat → Access (Option (Option IpAddress))
  | 0, _ => pure (some none)
  | count + 1, pos =>
      if pos < raw.length then do
        match ← dnsSkipAnswerNameChecked raw pos with
        | none => pure none
        | some none => pure (some none)
        | some (some pos) =>
            if raw.length < pos + 10 then
              pure (some none)
            else do
              let rtype ← readU16Checked raw pos
              let _ttlHigh ← readU16Checked raw (pos + 4)
              let _ttlLow ← readU16Checked raw (pos + 6)
              let rdlength ← readU16Checked raw (pos + 8)
              if rtype = dnsTypeA ∧ rdlength = 4 ∧ pos + 10 + 4 ≤ raw.length then do
                let ip ← readIpChecked raw (pos + 10)
                pure (some (some ip))
              else
                dnsParseAnswersChecked raw count (pos + 10 + rdlength.toNat)
      else
        pure (some none)

/-- `dns_parse_response`. -/
def dnsParseResponseChecked (raw : List UInt8) : Access (Option (Option IpAddress)) :=
  if raw.length < 12 then
    pure (some none)
  else do
    let _id ← readU16Checked raw 0
    let flags ← readU16Checked raw 2
    let qdcount ← readU16Checked raw 4
    let ancount ← readU16Checked raw 6
    if flags &&& 0x000F ≠ 0 then
      pure (some none)
    else
      match ← dnsSkipQuestionsChecked raw qdcount.toNat 12 with
      | none => pure none
      | some none => pure (some none)
      | some (some pos) => dnsParseAnswersChecked raw ancount.toNat pos

/-! ## Decoding a name -/

/-- A pointer whose two bytes are the last of the message, or the last but one. -/
structure TruncatedPointer (raw : List UInt8) (position : Nat) : Prop where
  tag : raw.getD position 0 &&& 0xC0 = 0xC0
  inside : position + 2 ≤ raw.length
  short : raw.length ≤ position + 3

/-- The labels of the name end at a truncated pointer. -/
def EndsTruncated (raw : List UInt8) (outSize : Nat) : Prop :=
  ∃ position written, NamePath raw raw.length outSize position written false ∧
    TruncatedPointer raw position

section Accesses

variable {size start count : Nat}

theorem readRange_pure (h : start + count ≤ size) : readRange size start count = pure () :=
  readRange_eq h

theorem writeRange_pure (h : start + count ≤ size) : writeRange size start count = pure () :=
  writeRange_eq h

end Accesses

section Decode

variable {raw : List UInt8} {outSize : Nat}

theorem writeDot_pure {written : Nat} (h : written < outSize) : writeDot outSize written = pure () := by
  rw [writeDot]
  split
  · exact writeRange_eq (by omega)
  · rfl

theorem dotOut_length (out : Text) : (dotOut outSize out).length = dotted outSize out.length := by
  rw [dotOut, dotted]
  split
  · simp
  · rfl

theorem label_length {srcPos len : Nat} (h : srcPos + 1 + len ≤ raw.length) (out : Text) :
    (dotOut outSize out ++ (raw.drop (srcPos + 1)).take len).length = dotted outSize out.length + len := by
  rw [List.length_append, dotOut_length, List.length_take, List.length_drop]
  omega

/-- The round for a label that fits. -/
theorem dnsDecodeLoopChecked_label {srcPos len : Nat} {out : Text} {jumped : Bool}
    (h : HasLabel raw raw.length srcPos len) (hout : out.length < outSize)
    (hfits : dotted outSize out.length + len < outSize) (fuel : Nat) :
    dnsDecodeLoopChecked raw outSize (fuel + 1) srcPos out jumped =
      dnsDecodeLoopChecked raw outSize fuel (srcPos + 1 + len)
        (dotOut outSize out ++ (raw.drop (srcPos + 1)).take len) jumped := by
  have hinside := h.inside
  have hlength := h.length
  have hroot : raw.getD srcPos 0 ≠ 0 := by
    intro hzero
    rw [hzero] at hlength
    exact absurd hlength (Nat.ne_of_lt h.positive)
  have hdot := @dotOut_length outSize out
  rw [dnsDecodeLoopChecked, if_neg (by omega), readByte_pure (by omega), pure_bind, if_neg h.tag,
    if_neg hroot, writeDot_pure hout, pure_bind, hlength, if_neg (by omega), if_neg (by omega),
    readRange_pure (by omega), pure_bind, writeRange_pure (by omega), pure_bind]

/-- The round at a first pointer that is truncated. -/
theorem dnsDecodeLoopChecked_truncated {srcPos : Nat} (h : TruncatedPointer raw srcPos) (fuel : Nat)
    (out : Text) :
    dnsDecodeLoopChecked raw outSize (fuel + 1) srcPos out false = .error (.read (srcPos + 3)) := by
  have hinside := h.inside
  have hlow : readByte raw ((if false = true then srcPos else srcPos + 2) + 1) =
      .error (.read (srcPos + 3)) := by
    rw [if_neg Bool.false_ne_true, readByte, List.getElem?_eq_none h.short]
  rw [dnsDecodeLoopChecked, if_neg (by omega), readByte_pure (by omega), pure_bind, if_pos h.tag,
    if_neg (by omega), hlow]
  rfl

/-- Where the labels do not end at a truncated pointer the checked loop does what the unchecked one does. -/
theorem dnsDecodeLoopChecked_eq (hsafe : ¬ EndsTruncated raw outSize) {fuel srcPos : Nat} {out : Text}
    {jumped : Bool} (hpath : NamePath raw raw.length outSize srcPos out.length jumped)
    (hout : out.length < outSize) :
    dnsDecodeLoopChecked raw outSize fuel srcPos out jumped =
      .ok (dnsDecodeLoop raw raw.length outSize fuel srcPos out jumped) := by
  induction fuel generalizing srcPos out jumped with
  | zero => rfl
  | succ fuel ih =>
      rw [dnsDecodeLoopChecked, dnsDecodeLoop]
      by_cases hend : raw.length ≤ srcPos
      · rw [if_pos hend, if_pos hend, writeRange_pure (by omega)]
        rfl
      · rw [if_neg hend, if_neg hend, readByte_pure (by omega), pure_bind]
        simp only
        by_cases htag : raw.getD srcPos 0 &&& 0xC0 = 0xC0
        · rw [if_pos htag, if_pos htag]
          by_cases hshort : raw.length < srcPos + 2
          · rw [if_pos hshort, if_pos hshort]
            rfl
          · -- The low byte is in the message, or the labels end at a truncated pointer.
            have hread : (if jumped = true then srcPos else srcPos + 2) + 1 < raw.length := by
              by_contra hbeyond
              cases jumped with
              | true =>
                  rw [if_pos rfl] at hbeyond
                  omega
              | false =>
                  rw [if_neg Bool.false_ne_true] at hbeyond
                  exact hsafe ⟨srcPos, out.length, hpath, htag, by omega, by omega⟩
            have hlow : (if jumped = true then srcPos else srcPos + 2) + 1 =
                srcPos + if jumped = true then 1 else 3 := by
              split <;> rfl
            rw [if_neg hshort, if_neg hshort, readByte_pure hread, pure_bind]
            by_cases hbeyond : raw.length ≤ ((raw.getD srcPos 0 &&& 0x3F).toNat <<< 8) |||
                (raw.getD ((if jumped = true then srcPos else srcPos + 2) + 1) 0).toNat
            · rw [if_pos hbeyond, if_pos hbeyond]
              rfl
            · rw [if_neg hbeyond, if_neg hbeyond]
              refine ih (hpath.pointer ⟨by omega, htag, ?_, Nat.lt_of_not_le hbeyond⟩) hout
              rw [hlow]
        · -- A label is read where it lies in the message, and written where it fits.
          rw [if_neg htag, if_neg htag]
          by_cases hroot : raw.getD srcPos 0 = 0
          · rw [if_pos hroot, if_pos hroot, writeRange_pure (by omega)]
            rfl
          · rw [if_neg hroot, if_neg hroot, writeDot_pure hout, pure_bind]
            change _ = Except.ok (if raw.length < srcPos + 1 + (raw.getD srcPos 0).toNat then
              some (0, dotOut outSize out) else if
                outSize ≤ (dotOut outSize out).length + (raw.getD srcPos 0).toNat then
              some (0, dotOut outSize out) else _)
            by_cases hshort : raw.length < srcPos + 1 + (raw.getD srcPos 0).toNat
            · rw [if_pos hshort, if_pos hshort]
              rfl
            · rw [if_neg hshort, if_neg hshort]
              by_cases hfull : outSize ≤ (dotOut outSize out).length + (raw.getD srcPos 0).toNat
              · rw [if_pos hfull, if_pos hfull]
                rfl
              · have hlength := @label_length raw outSize srcPos _ (not_lt.mp hshort) out
                have hfits := not_le.mp hfull
                rw [dotOut_length] at hfits
                have hlabel : HasLabel raw raw.length srcPos (raw.getD srcPos 0).toNat :=
                  ⟨rfl, htag, Nat.pos_of_ne_zero fun hzero => hroot (UInt8.toNat_inj.mp hzero), by omega⟩
                have hnext := hpath.label hlabel hfits
                rw [if_neg hfull, if_neg hfull, readRange_pure (by omega), pure_bind,
                  writeRange_pure (by omega), pure_bind]
                rw [← hlength] at hnext hfits
                exact ih hnext hfits

/-- The checked loop gets to every place before the first pointer. -/
theorem NamePath.checked (hsize : 0 < outSize) {position written : Nat}
    (h : NamePath raw raw.length outSize position written false) :
    ∃ rounds ≤ position, ∃ out : Text, out.length = written ∧ written < outSize ∧
      ∀ fuel, dnsDecodeLoopChecked raw outSize (fuel + rounds) 0 [] false =
        dnsDecodeLoopChecked raw outSize fuel position out false := by
  generalize hjumped : false = jumped at h
  induction h with
  | start => exact ⟨0, le_rfl, [], rfl, hsize, fun _ => rfl⟩
  | pointer => cases hjumped
  | @label position written len jumped _ label fits ih =>
      obtain ⟨rounds, hrounds, out, rfl, hout, hrun⟩ := ih hjumped
      refine ⟨rounds + 1, by omega, _, label_length label.inside out, fits, fun fuel => ?_⟩
      rw [Nat.add_comm rounds 1, ← Nat.add_assoc, hrun]
      exact dnsDecodeLoopChecked_label label hout fits fuel

/-- `dns_decode_name` leaves the message exactly at a truncated pointer. -/
theorem dnsDecodeNameChecked_faultsUnless (hsize : 0 < outSize) :
    FaultsUnless (dnsDecodeNameChecked raw outSize) (dnsDecodeName raw raw.length outSize)
      (¬ EndsTruncated raw outSize) := by
  refine ⟨fun hsafe => dnsDecodeLoopChecked_eq hsafe .start hsize, fun htruncated => ?_⟩
  obtain ⟨position, written, hpath, hpointer⟩ := not_not.mp htruncated
  obtain ⟨rounds, hrounds, out, -, -, hrun⟩ := hpath.checked hsize
  have hinside := hpointer.inside
  have henough : rounds + 1 ≤ 2 * (raw.length + 1) * (outSize + 1) := by
    calc
      rounds + 1 ≤ raw.length + 1 := by omega
      _ ≤ (raw.length + 1) * (2 * (outSize + 1)) := Nat.le_mul_of_pos_right _ (by omega)
      _ = 2 * (raw.length + 1) * (outSize + 1) := by ring
  obtain ⟨fuel, hfuel⟩ := Nat.exists_eq_add_of_le' henough
  refine ⟨.read (position + 3), ?_⟩
  rw [dnsDecodeNameChecked, hfuel, Nat.add_comm rounds 1, ← Nat.add_assoc, hrun]
  exact dnsDecodeLoopChecked_truncated hpointer fuel out

theorem dnsDecodeNameChecked_drop (raw : List UInt8) (pos : Nat) :
    FaultsUnless (dnsDecodeNameChecked (raw.drop pos) dnsMaxName)
      (dnsDecodeName (raw.drop pos) (raw.length - pos) dnsMaxName)
      (¬ EndsTruncated (raw.drop pos) dnsMaxName) := by
  rw [← List.length_drop]
  exact dnsDecodeNameChecked_faultsUnless (by decide)

end Decode

/-! ## Encoding a name -/

section Encode

variable {outSize : Nat} {written : List UInt8}

/-- The round for the last label. -/
theorem dnsEncodeLoopChecked_last {label : Text} (hdot : dnsDot ∉ label) (hne : label ≠ [])
    (hroom : written.length + 1 + label.length ≤ outSize) :
    dnsEncodeLoopChecked outSize written label =
      .ok (some (written ++ UInt8.ofNat label.length :: label)) := by
  have hdrop := List.dropWhile_eq_nil_iff.mpr (ne_dot_of_mem hdot)
  rw [dnsEncodeLoopChecked, if_neg hne]
  simp only [List.takeWhile_eq_self_iff.mpr (ne_dot_of_mem hdot), if_neg (Nat.not_lt.mpr hroom)]
  rw [writeRange_pure (by omega), pure_bind, writeRange_pure (by omega), pure_bind]
  split
  · rfl
  · rename_i heq
    exact absurd (hdrop.symm.trans heq).symm (List.cons_ne_nil _ _)

/-- The round for a label with more after it. -/
theorem dnsEncodeLoopChecked_label {label : Text} (hdot : dnsDot ∉ label) (after : Text)
    (hroom : written.length + 1 + label.length ≤ outSize) :
    dnsEncodeLoopChecked outSize written (label ++ dnsDot :: after) =
      dnsEncodeLoopChecked outSize (written ++ UInt8.ofNat label.length :: label) after := by
  have hdrop := dropWhile_dot hdot after
  have hne : label ++ dnsDot :: after ≠ [] := by simp
  rw [dnsEncodeLoopChecked, if_neg hne]
  simp only [takeWhile_dot hdot after, if_neg (Nat.not_lt.mpr hroom)]
  rw [writeRange_pure (by omega), pure_bind, writeRange_pure (by omega), pure_bind]
  split
  · rename_i heq
    exact absurd (hdrop.symm.trans heq) (List.cons_ne_nil _ _)
  · rename_i heq
    have hafter := List.cons.inj (hdrop.symm.trans heq)
    rw [hafter.2]

/-- A label that does not fit is not written. -/
theorem dnsEncodeLoopChecked_full {rest : Text} (hne : rest ≠ [])
    (hfull : outSize < written.length + 1 + (rest.takeWhile (· ≠ dnsDot)).length) :
    dnsEncodeLoopChecked outSize written rest = .ok none := by
  rw [dnsEncodeLoopChecked, if_neg hne]
  exact if_pos hfull

theorem dnsEncodeLoopChecked_eq (written : List UInt8) (rest : Text) :
    dnsEncodeLoopChecked outSize written rest = .ok (dnsEncodeLoop outSize written rest) := by
  induction hcount : rest.length using Nat.strong_induction_on generalizing written rest with
  | _ count ih =>
    by_cases hnil : rest = []
    · rw [dnsEncodeLoopChecked, dnsEncodeLoop, if_pos hnil, if_pos hnil]
      rfl
    · by_cases hfull : outSize < written.length + 1 + (rest.takeWhile (· ≠ dnsDot)).length
      · rw [dnsEncodeLoopChecked_full hnil hfull, dnsEncodeLoop_full hnil hfull]
      · by_cases hdot : dnsDot ∈ rest
        · obtain ⟨label, after, rfl, hlabel⟩ := List.eq_append_cons_of_mem hdot
          rw [takeWhile_dot hlabel, not_lt] at hfull
          rw [dnsEncodeLoopChecked_label hlabel after hfull, dnsEncodeLoop_label hlabel after hfull]
          exact ih after.length (by simp at hcount; omega) _ after rfl
        · rw [List.takeWhile_eq_self_iff.mpr (ne_dot_of_mem hdot), not_lt] at hfull
          rw [dnsEncodeLoopChecked_last hdot hnil hfull, dnsEncodeLoop_last hdot hnil hfull]

end Encode

theorem dnsEncodeNameChecked_eq (outSize : Nat) (name : Text) :
    dnsEncodeNameChecked outSize name = .ok (dnsEncodeName outSize name) := by
  rw [dnsEncodeNameChecked, dnsEncodeLoopChecked_eq, dnsEncodeName]
  cases dnsEncodeLoop outSize [] name with
  | none => rfl
  | some written =>
      change (if outSize < written.length + 1 then _ else _) = Except.ok (if _ then _ else _)
      split
      · rfl
      · rw [writeRange_pure (by omega)]
        rfl

/-! ## Answering a query -/

/-- What `dns_server_handle_query` does with the name it has read. -/
def dnsRespond (table : DnsTable) (id : UInt16) (qname : Text) (maxRespLen : Nat) : Option (List UInt8) :=
  (dnsEncodeName dnsMaxName qname).bind fun encName =>
    if maxRespLen < 12 then
      none
    else if maxRespLen < 12 + encName.length + 4 then
      none
    else
      match dnsServerResolve table qname with
      | none => some (dnsHeader id (dnsResponseFlags ||| dnsRcodeNxdomain) 1 0 ++ dnsQuestion encName)
      | some resolved =>
          let response := dnsHeader id dnsResponseFlags 1 1 ++ dnsQuestion encName
          if maxRespLen < response.length + 2 + 8 + 4 then none
          else some (response ++ dnsAnswer resolved)

theorem dnsServerHandleQuery_eq (table : DnsTable) (query : List UInt8) (maxRespLen : Nat) :
    dnsServerHandleQuery table query maxRespLen =
      if query.length < 12 then
        some none
      else
        (dnsDecodeName (query.drop 12) (query.length - 12) dnsMaxName).map fun (decoded, out) =>
          if decoded = 0 then none
          else dnsRespond table (readU16Be query 0) (cString out) maxRespLen :=
  rfl

/-- The limits that leave one or two bytes too few for the answer and pass the check. -/
structure AnswerOverruns (qname : Text) (maxRespLen : Nat) : Prop where
  encoded : dnsEncodedLength qname ≤ dnsMaxName
  passes : dnsEncodedLength qname + 30 ≤ maxRespLen
  short : maxRespLen < dnsEncodedLength qname + 32

section Respond

variable (table : DnsTable) (id : UInt16) {qname : Text} (maxRespLen : Nat)

/-- The answer to a known name overruns the response exactly at the limits above. -/
theorem dnsRespondChecked_faultsUnless (hname : qname.length < dnsMaxName) :
    FaultsUnless (dnsRespondChecked table id qname maxRespLen) (dnsRespond table id qname maxRespLen)
      (dnsServerResolve table qname ≠ none → ¬ AnswerOverruns qname maxRespLen) := by
  rw [dnsRespondChecked, dnsRespond, readRange_pure (by omega), pure_bind, dnsEncodeNameChecked_eq]
  obtain ⟨hnone, hlong⟩ | ⟨encName, hsome, hlength, hle⟩ := dnsEncodeName_cases dnsMaxName qname
  · rw [hnone]
    exact .of_ok rfl fun _ hover => absurd hover.encoded (not_le.mpr hlong)
  · -- The room is checked piece by piece: for the header, the question, the pointer and the rest of the answer.
    have hresponse : (dnsHeader id dnsResponseFlags 1 1 ++ dnsQuestion encName).length =
        12 + encName.length + 4 := by
      rw [List.length_append, dnsHeader_length, dnsQuestion_length, Nat.add_assoc]
    rw [hsome, Option.bind_some]
    change FaultsUnless (if maxRespLen < 12 then _ else _) _ _
    by_cases hheader : maxRespLen < 12
    · rw [if_pos hheader, if_pos hheader]
      exact .of_ok rfl fun _ hover => by have := hover.passes; omega
    · rw [if_neg hheader, if_neg hheader, writeRange_pure (by omega), pure_bind]
      by_cases hquestion : maxRespLen < 12 + encName.length + 4
      · rw [if_pos hquestion, if_pos hquestion]
        exact .of_ok rfl fun _ hover => by have := hover.passes; omega
      · rw [if_neg hquestion, if_neg hquestion, readRange_pure (by omega), pure_bind,
          writeRange_pure (by omega), pure_bind]
        cases hfound : dnsServerResolve table qname with
        | none => exact .of_ok rfl fun hknown => absurd rfl hknown
        | some resolved =>
            simp only [hresponse]
            by_cases hpointer : maxRespLen < 12 + encName.length + 4 + 2
            · rw [if_pos hpointer, if_pos (by omega)]
              exact .of_ok rfl fun _ hover => by have := hover.passes; omega
            · rw [if_neg hpointer, writeRange_pure (by omega), pure_bind]
              by_cases hanswer : maxRespLen < 12 + encName.length + 4 + 2 + 8 + 4
              · rw [if_pos hanswer, if_pos hanswer]
                exact .of_ok rfl fun _ hover => by have := hover.passes; omega
              · -- Room for twelve bytes behind the pointer, and fourteen are written.
                rw [if_neg hanswer, if_neg hanswer, writeRange_pure (by omega), pure_bind,
                  writeRange_pure (by omega), pure_bind]
                refine .congr (.bind (writeRange_faultsUnless _ _ _) (.of_ok rfl trivial)) ?_
                constructor
                · rintro ⟨hroom, -⟩ _ hover
                  have := hover.short
                  omega
                · intro hroom
                  by_contra hnot
                  have hshort : ¬ 12 + encName.length + 4 + 12 + 4 ≤ maxRespLen := fun hle =>
                    hnot ⟨hle, trivial⟩
                  exact hroom (Option.some_ne_none resolved) ⟨by omega, by omega, by omega⟩

/-- A response that does not overrun has at most the length that was allowed. -/
theorem dnsRespond_length {response : List UInt8}
    (hroom : dnsServerResolve table qname ≠ none → ¬ AnswerOverruns qname maxRespLen)
    (h : dnsRespond table id qname maxRespLen = some response) : response.length ≤ maxRespLen := by
  rw [dnsRespond] at h
  obtain ⟨hnone, -⟩ | ⟨encName, hsome, hlength, hle⟩ := dnsEncodeName_cases dnsMaxName qname
  · rw [hnone] at h
    cases h
  · rw [hsome, Option.bind_some] at h
    split at h
    · cases h
    · split at h
      · cases h
      · rename_i hquestion
        cases hfound : dnsServerResolve table qname with
        | none =>
            rw [hfound] at h
            obtain rfl := Option.some.inj h
            rw [List.length_append, dnsHeader_length, dnsQuestion_length]
            omega
        | some resolved =>
            rw [hfound] at h
            simp only at h
            split at h
            · cases h
            · rename_i hanswer
              -- The check lets an answer pass that is one or two bytes too long.
              obtain rfl := Option.some.inj h
              rw [List.length_append, dnsHeader_length, dnsQuestion_length] at hanswer
              rw [List.length_append, List.length_append, dnsHeader_length, dnsQuestion_length,
                dnsAnswer_length]
              by_contra hlong
              exact hroom (by rw [hfound]; exact Option.some_ne_none resolved)
                ⟨hlength ▸ hle, by omega, by omega⟩

end Respond

/-- The condition: the labels of the name do not end at a truncated pointer, and the limit is not one of those that
a known name overruns. -/
structure QueryInBounds (table : DnsTable) (query : List UInt8) (maxRespLen : Nat) : Prop where
  name : ¬ EndsTruncated (query.drop 12) dnsMaxName
  answer : ∀ decoded out, dnsDecodeName (query.drop 12) (query.length - 12) dnsMaxName =
    some (decoded, out) → decoded ≠ 0 → dnsServerResolve table (cString out) ≠ none →
      ¬ AnswerOverruns (cString out) maxRespLen

/-- `dns_server_handle_query` leaves no buffer exactly under the condition. -/
theorem dnsServerHandleQueryChecked_faultsUnless (table : DnsTable) (query : List UInt8)
    (maxRespLen : Nat) :
    FaultsUnless (dnsServerHandleQueryChecked table query maxRespLen)
      (dnsServerHandleQuery table query maxRespLen)
      (12 ≤ query.length → QueryInBounds table query maxRespLen) := by
  rw [dnsServerHandleQueryChecked, dnsServerHandleQuery_eq]
  by_cases hshort : query.length < 12
  · rw [if_pos hshort, if_pos hshort]
    exact .of_ok rfl fun hlong => absurd hlong (not_le.mpr hshort)
  · rw [if_neg hshort, if_neg hshort, readU16Checked_eq (by omega), pure_bind,
      readU16Checked_eq (by omega), pure_bind, readU16Checked_eq (by omega), pure_bind]
    refine .congr (.bind (dnsDecodeNameChecked_drop query 12) (?_ : FaultsUnless _ _ (∀ decoded out,
      dnsDecodeName (query.drop 12) (query.length - 12) dnsMaxName = some (decoded, out) → decoded ≠ 0 →
        dnsServerResolve table (cString out) ≠ none → ¬ AnswerOverruns (cString out) maxRespLen))) ?_
    · cases hread : dnsDecodeName (query.drop 12) (query.length - 12) dnsMaxName with
      | none => exact .of_ok rfl fun _ _ hsome => by cases hsome
      | some read =>
          obtain ⟨decoded, out⟩ := read
          change FaultsUnless (if decoded = 0 then _ else _) (some (if decoded = 0 then _ else _)) _
          by_cases hzero : decoded = 0
          · rw [if_pos hzero, if_pos hzero]
            exact .of_ok rfl fun _ _ hsome hread => absurd (by cases hsome; exact hzero) hread
          -- The name that is looked up is short enough for the buffers of the answer.
          · have hsize : out.length < dnsMaxName :=
              dnsDecodeLoop_size (List.length_drop ▸ le_rfl) (by decide) hread hzero
            have hname : (cString out).length < dnsMaxName :=
              (List.takeWhile_sublist _).length_le.trans_lt hsize
            rw [if_neg hzero, if_neg hzero]
            refine .congr ((dnsRespondChecked_faultsUnless table _ maxRespLen hname).map some) ?_
            constructor
            · intro hroom decoded' out' hsome _
              cases hsome
              exact hroom
            · exact fun hroom => hroom decoded out rfl hzero
    · exact ⟨fun h _ => ⟨h.1, h.2⟩, fun h => ⟨(h (not_lt.mp hshort)).name, (h (not_lt.mp hshort)).answer⟩⟩

theorem dnsServerHandleQuery_length {table : DnsTable} {query response : List UInt8} {maxRespLen : Nat}
    (hbounds : 12 ≤ query.length → QueryInBounds table query maxRespLen)
    (h : dnsServerHandleQuery table query maxRespLen = some (some response)) :
    response.length ≤ maxRespLen := by
  rw [dnsServerHandleQuery_eq] at h
  split at h
  · cases Option.some.inj h
  · rename_i hlong
    obtain ⟨⟨decoded, out⟩, hread, hrespond⟩ := Option.map_eq_some_iff.mp h
    simp only at hrespond
    split at hrespond
    · cases hrespond
    · rename_i hzero
      exact dnsRespond_length table _ maxRespLen
        ((hbounds (not_lt.mp hlong)).answer decoded out hread hzero) hrespond

/-! ## Reading a response -/

/-- None of the names of the questions that are read ends at a truncated pointer. -/
def QuestionsInBounds (raw : List UInt8) : Nat → Nat → Prop
  | 0, _ => True
  | count + 1, pos =>
      pos < raw.length → ¬ EndsTruncated (raw.drop pos) dnsMaxName ∧
        ∀ consumed out, dnsDecodeName (raw.drop pos) (raw.length - pos) dnsMaxName = some (consumed, out) →
          consumed ≠ 0 → QuestionsInBounds raw count (pos + consumed + 4)

/-- None of the names of the answers that are read ends at a truncated pointer; a name that is a pointer is passed
over. -/
def AnswersInBounds (raw : List UInt8) : Nat → Nat → Prop
  | 0, _ => True
  | count + 1, pos =>
      pos < raw.length →
        (raw.getD pos 0 &&& 0xC0 ≠ 0xC0 → ¬ EndsTruncated (raw.drop pos) dnsMaxName) ∧
        ∀ next, dnsSkipAnswerName raw pos = some (some next) → next + 10 ≤ raw.length →
          ¬ (readU16Be raw next = dnsTypeA ∧ readU16Be raw (next + 8) = 4 ∧ next + 10 + 4 ≤ raw.length) →
          AnswersInBounds raw count (next + 10 + (readU16Be raw (next + 8)).toNat)

/-- The condition for a response. -/
structure ResponseInBounds (raw : List UInt8) : Prop where
  questions : QuestionsInBounds raw (readU16Be raw 4).toNat 12
  answers : ∀ pos, dnsSkipQuestions raw (readU16Be raw 4).toNat 12 = some (some pos) →
    AnswersInBounds raw (readU16Be raw 6).toNat pos

section Response

variable (raw : List UInt8)

theorem dnsSkipQuestionsChecked_faultsUnless (count pos : Nat) :
    FaultsUnless (dnsSkipQuestionsChecked raw count pos) (dnsSkipQuestions raw count pos)
      (QuestionsInBounds raw count pos) := by
  induction count generalizing pos with
  | zero => exact .of_ok rfl trivial
  | succ count ih =>
      rw [dnsSkipQuestionsChecked, dnsSkipQuestions, QuestionsInBounds]
      by_cases hinside : pos < raw.length
      · rw [if_pos hinside, if_pos hinside, forall_prop_of_true hinside]
        refine .bind (dnsDecodeNameChecked_drop raw pos) ?_
        cases dnsDecodeName (raw.drop pos) (raw.length - pos) dnsMaxName with
        | none => exact .of_ok rfl fun _ _ hsome => by cases hsome
        | some read =>
            obtain ⟨consumed, out⟩ := read
            change FaultsUnless (if consumed = 0 then _ else _) (if consumed = 0 then _ else _) _
            by_cases hzero : consumed = 0
            · rw [if_pos hzero, if_pos hzero]
              exact .of_ok rfl fun _ _ hsome hread => absurd (by cases hsome; exact hzero) hread
            · rw [if_neg hzero, if_neg hzero]
              refine (ih (pos + consumed + 4)).congr ⟨fun h consumed' out' hsome _ => ?_, fun h => ?_⟩
              · cases hsome
                exact h
              · exact h consumed out rfl hzero
      · rw [if_neg hinside, if_neg hinside]
        exact .of_ok rfl fun hin => absurd hin hinside

theorem dnsSkipAnswerNameChecked_faultsUnless {pos : Nat} (hinside : pos < raw.length) :
    FaultsUnless (dnsSkipAnswerNameChecked raw pos) (dnsSkipAnswerName raw pos)
      (raw.getD pos 0 &&& 0xC0 ≠ 0xC0 → ¬ EndsTruncated (raw.drop pos) dnsMaxName) := by
  rw [dnsSkipAnswerNameChecked, dnsSkipAnswerName, readByte_pure hinside, pure_bind]
  by_cases htag : raw.getD pos 0 &&& 0xC0 = 0xC0
  · rw [if_pos htag, if_pos htag]
    exact .of_ok rfl fun hname => absurd htag hname
  · rw [if_neg htag, if_neg htag, forall_prop_of_true htag]
    refine .congr (.bind (dnsDecodeNameChecked_drop raw pos) (?_ : FaultsUnless _ _ True))
      (and_iff_left trivial)
    cases dnsDecodeName (raw.drop pos) (raw.length - pos) dnsMaxName with
    | none => exact .of_ok rfl trivial
    | some read => exact .of_ok rfl trivial

theorem dnsParseAnswersChecked_faultsUnless (count pos : Nat) :
    FaultsUnless (dnsParseAnswersChecked raw count pos) (dnsParseAnswers raw count pos)
      (AnswersInBounds raw count pos) := by
  induction count generalizing pos with
  | zero => exact .of_ok rfl trivial
  | succ count ih =>
      rw [dnsParseAnswersChecked, dnsParseAnswers, AnswersInBounds]
      by_cases hinside : pos < raw.length
      · rw [if_pos hinside, if_pos hinside, forall_prop_of_true hinside]
        refine .bind (dnsSkipAnswerNameChecked_faultsUnless raw hinside) ?_
        rcases dnsSkipAnswerName raw pos with _ | _ | next
        · exact .of_ok rfl fun _ hsome => by cases hsome
        · exact .of_ok rfl fun _ hsome => by cases hsome
        · change FaultsUnless (if raw.length < next + 10 then _ else _)
            (if raw.length < next + 10 then _ else _) _
          by_cases hshort : raw.length < next + 10
          · rw [if_pos hshort, if_pos hshort]
            exact .of_ok rfl fun _ hsome hlong => by cases hsome; omega
          · rw [if_neg hshort, if_neg hshort, readU16Checked_eq (by omega), pure_bind,
              readU16Checked_eq (by omega), pure_bind, readU16Checked_eq (by omega), pure_bind,
              readU16Checked_eq (by omega), pure_bind]
            by_cases haddress : readU16Be raw next = dnsTypeA ∧ readU16Be raw (next + 8) = 4 ∧
                next + 10 + 4 ≤ raw.length
            · rw [if_pos haddress, if_pos haddress, readIpChecked_eq haddress.2.2]
              exact .of_ok rfl fun _ hsome _ hother => by cases hsome; exact absurd haddress hother
            · rw [if_neg haddress, if_neg haddress]
              refine (ih _).congr ⟨fun h next' hsome _ _ => ?_, fun h => ?_⟩
              · cases hsome
                exact h
              · exact h next rfl (not_lt.mp hshort) haddress
      · rw [if_neg hinside, if_neg hinside]
        exact .of_ok rfl fun hin => absurd hin hinside

/-- `dns_parse_response` leaves no buffer exactly under the condition. -/
theorem dnsParseResponseChecked_faultsUnless :
    FaultsUnless (dnsParseResponseChecked raw) (dnsParseResponse raw)
      (12 ≤ raw.length → readU16Be raw 2 &&& 0x000F = 0 → ResponseInBounds raw) := by
  rw [dnsParseResponseChecked, dnsParseResponse]
  by_cases hshort : raw.length < 12
  · rw [if_pos hshort, if_pos hshort]
    exact .of_ok rfl fun hlong => absurd hlong (not_le.mpr hshort)
  · have hlong : 12 ≤ raw.length := not_lt.mp hshort
    rw [if_neg hshort, if_neg hshort, readU16Checked_eq (by omega), pure_bind,
      readU16Checked_eq (by omega), pure_bind, readU16Checked_eq (by omega), pure_bind,
      readU16Checked_eq (by omega), pure_bind, forall_prop_of_true hlong]
    by_cases herror : readU16Be raw 2 &&& 0x000F = 0
    · rw [if_neg (not_not.mpr herror), if_neg (not_not.mpr herror), forall_prop_of_true herror]
      refine .congr (.bind (dnsSkipQuestionsChecked_faultsUnless raw _ 12) (?_ : FaultsUnless _ _
        (∀ pos, dnsSkipQuestions raw (readU16Be raw 4).toNat 12 = some (some pos) →
          AnswersInBounds raw (readU16Be raw 6).toNat pos))) ?_
      · rcases dnsSkipQuestions raw (readU16Be raw 4).toNat 12 with _ | _ | pos
        · exact .of_ok rfl fun _ hsome => by cases hsome
        · exact .of_ok rfl fun _ hsome => by cases hsome
        · refine (dnsParseAnswersChecked_faultsUnless raw _ pos).congr
            ⟨fun h pos' hsome => ?_, fun h => h pos rfl⟩
          cases hsome
          exact h
      · exact ⟨fun h => ⟨h.1, h.2⟩, fun h => ⟨h.questions, h.answers⟩⟩
    · rw [if_pos herror, if_pos herror]
      exact .of_ok rfl fun hok => absurd hok herror

end Response

/-! ## The handlers -/

/-- No access leaves its buffer, and the length that is reported is within the limit. -/
structure HandledInBounds (table : DnsTable) (query : List UInt8) (maxRespLen : Nat) : Prop where
  accesses : ∃ result, dnsServerHandleQueryChecked table query maxRespLen = .ok result
  reported : ∀ response, dnsServerHandleQueryChecked table query maxRespLen =
    .ok (some (some response)) → response.length ≤ maxRespLen

theorem handledInBounds_iff (table : DnsTable) (query : List UInt8) (maxRespLen : Nat) :
    HandledInBounds table query maxRespLen ↔
      (12 ≤ query.length → QueryInBounds table query maxRespLen) := by
  have hfaults := dnsServerHandleQueryChecked_faultsUnless table query maxRespLen
  constructor
  · exact fun h => hfaults.exists_ok_iff.mp h.accesses
  · intro hbounds
    refine ⟨hfaults.exists_ok_iff.mpr hbounds, fun response hresponse => ?_⟩
    rw [hfaults.gives hbounds] at hresponse
    exact dnsServerHandleQuery_length hbounds (Except.ok.inj hresponse)

/-- A name is written inside its array; the bytes of a name are read inside the message, for as long as the loop
goes on, exactly where its labels do not end at a truncated pointer; and the two handlers leave no buffer exactly
where no name they read ends so, and no known name is answered at a limit that its answer overruns. -/
theorem dnsMessages_inBounds_iff (table : DnsTable) (message : List UInt8) (name : Text)
    (maxRespLen : Nat) :
    (∃ encoded, dnsEncodeNameChecked dnsMaxName name = .ok encoded) ∧
    ((∀ rounds, ∃ read, dnsDecodeLoopChecked message dnsMaxName rounds 0 [] false = .ok read) ↔
      ¬ EndsTruncated message dnsMaxName) ∧
    (HandledInBounds table message maxRespLen ↔
      (12 ≤ message.length → QueryInBounds table message maxRespLen)) ∧
    ((∃ result, dnsParseResponseChecked message = .ok result) ↔
      (12 ≤ message.length → readU16Be message 2 &&& 0x000F = 0 → ResponseInBounds message)) := by
  have hsize : 0 < dnsMaxName := by decide
  refine ⟨⟨_, dnsEncodeNameChecked_eq dnsMaxName name⟩, ?_, handledInBounds_iff table message maxRespLen,
    (dnsParseResponseChecked_faultsUnless message).exists_ok_iff⟩
  constructor
  · exact fun h => (dnsDecodeNameChecked_faultsUnless hsize).exists_ok_iff.mp (h _)
  · exact fun hsafe rounds => ⟨_, dnsDecodeLoopChecked_eq hsafe .start hsize⟩

/-- A table with the name `a`. -/
def dnsKnown : DnsTable :=
  { entries := [{ hostname := [97], ip := ⟨10, 0, 0, 1, 0⟩ }]
    bounded := by decide }

/-- A query and a response that end with a pointer, and the query of a known name with two bytes too few. -/
theorem dnsMessages_inBounds_iff_overruns :
    ¬ HandledInBounds DnsTable.empty (dnsHeader 1 dnsRdFlag 1 0 ++ [0xC0, 0x0C]) 512 ∧
    (¬ ∃ result, dnsParseResponseChecked (dnsHeader 1 dnsResponseFlags 1 1 ++ [0xC0, 0x0C]) = .ok result) ∧
    ¬ HandledInBounds dnsKnown (dnsHeader 1 dnsRdFlag 1 0 ++ dnsQuestion [1, 97, 0]) 33 := by
  refine ⟨?_, ?_, ?_⟩
  · rintro ⟨⟨result, hresult⟩, -⟩
    have hfault : dnsServerHandleQueryChecked DnsTable.empty
        (dnsHeader 1 dnsRdFlag 1 0 ++ [0xC0, 0x0C]) 512 = .error (.read 3) := by rfl
    rw [hfault] at hresult
    cases hresult
  · rintro ⟨result, hresult⟩
    have hfault : dnsParseResponseChecked (dnsHeader 1 dnsResponseFlags 1 1 ++ [0xC0, 0x0C]) =
        .error (.read 3) := by rfl
    rw [hfault] at hresult
    cases hresult
  · intro h
    have hbounds := (handledInBounds_iff _ _ _).mp h (by decide)
    exact hbounds.answer 3 [97] (by decide) (by decide) (by decide) ⟨by decide, by decide, by decide⟩

end MagiStack
