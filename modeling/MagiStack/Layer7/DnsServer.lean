import MagiStack.Core.Bytes
import MagiStack.Core.Text
import MagiStack.Layer3.Ipv4
import Mathlib.Data.List.TakeWhile

/-!
# DnsServer — the name table, its queries and its responses

Embedding of `layer7/dns_server.c` without the socket calls that carry the messages.  A name is written as
length-prefixed labels, read back with dots between them, looked up, written once more and answered with a
pointer to offset 12.

For well-formed names the query and the response carry what the table says: parsing the response gives the
octets that `dns_server_resolve` gives, with no network bits, and `0` exactly when the name is unknown.
-/

namespace MagiStack

def dnsMaxName : Nat := 256
def dnsMaxEntries : Nat := 32
def dnsQrQuery : UInt16 := 0x0000
def dnsQrResponse : UInt16 := 0x8000
def dnsOpcodeQuery : UInt16 := 0x0000
def dnsAaFlag : UInt16 := 0x0400
def dnsRdFlag : UInt16 := 0x0100
def dnsRaFlag : UInt16 := 0x0080
def dnsRcodeNxdomain : UInt16 := 3
def dnsTypeA : UInt16 := 1
def dnsClassIn : UInt16 := 1

/-- `'.'` -/
def dnsDot : UInt8 := 46

/-- `'/'` -/
def dnsSlash : UInt8 := 47

/-! ## The table -/

/-- `DNSEntry`. -/
structure DnsEntry where
  hostname : Text
  ip : IpAddress
  deriving DecidableEq

/-- `g_dns_table`, up to `g_dns_entry_count`. -/
structure DnsTable where
  entries : List DnsEntry
  bounded : entries.length ≤ dnsMaxEntries

/-- The table after `memset`. -/
def DnsTable.empty : DnsTable :=
  { entries := [], bounded := Nat.zero_le _ }

theorem DnsTable.bounded_modify (table : DnsTable) (i : Nat) (f : DnsEntry → DnsEntry) :
    (table.entries.modify i f).length ≤ dnsMaxEntries := by
  rw [List.length_modify]
  exact table.bounded

theorem DnsTable.bounded_append (table : DnsTable) (hroom : table.entries.length < dnsMaxEntries)
    (entry : DnsEntry) : (table.entries ++ [entry]).length ≤ dnsMaxEntries := by
  rw [List.length_append, List.length_singleton]
  exact hroom

/-- `dns_server_add_entry`; `none` when it returns `0`.  A full table refuses even a name it has. -/
def dnsServerAddEntry (table : DnsTable) (hostname : Text) (ip : IpAddress) : Option DnsTable :=
  if hfull : dnsMaxEntries ≤ table.entries.length then
    none
  else
    match table.entries.findIdx? fun entry => entry.hostname == hostname with
    | some i =>
        some
          { entries := table.entries.modify i fun entry => { entry with ip := ip }
            bounded := table.bounded_modify i _ }
    | none =>
        some
          { entries :=
              table.entries ++ [{ hostname := strncpyTerminated hostname dnsMaxName, ip := ip }]
            bounded := table.bounded_append (not_le.mp hfull) _ }

/-- `dns_server_resolve`. -/
def dnsServerResolve (table : DnsTable) (hostname : Text) : Option IpAddress :=
  let h := if hostname.take 7 = text "http://" then hostname.drop 7 else hostname
  let clean := (strncpyTerminated h dnsMaxName).takeWhile (· ≠ dnsSlash)
  (table.entries.find? fun entry => entry.hostname == clean).map DnsEntry.ip

/-! ## Names on the wire -/

/-- The loop of `dns_encode_name`, with what it has written and what is left of the name. -/
def dnsEncodeLoop (outSize : Nat) (written : List UInt8) (rest : Text) : Option (List UInt8) :=
  if rest = [] then
    some written
  else
    let label := rest.takeWhile (· ≠ dnsDot)
    if outSize < written.length + 1 + label.length then
      none
    else
      let written := written ++ UInt8.ofNat label.length :: label
      match _hdot : rest.dropWhile (· ≠ dnsDot) with
      | [] => some written
      | _ :: after => dnsEncodeLoop outSize written after
  termination_by rest.length
  decreasing_by
    have hle := (List.dropWhile_sublist (· ≠ dnsDot) (l := rest)).length_le
    rw [_hdot] at hle
    exact hle

/-- `dns_encode_name`; `none` when it returns `0`. -/
def dnsEncodeName (outSize : Nat) (name : Text) : Option (List UInt8) :=
  (dnsEncodeLoop outSize [] name).bind fun written =>
    if outSize < written.length + 1 then none else some (written ++ [0])

/-- The loop of `dns_decode_name`, from a position of `raw`, the bytes written to `out` and `jumped`.
The result is what it returns, `0` for an error, and `out`; `none` when `fuel` rounds did not end it. -/
def dnsDecodeLoop (raw : List UInt8) (maxLen outSize : Nat) :
    Nat → Nat → Text → Bool → Option (Nat × Text)
  | 0, _, _, _ => none
  | fuel + 1, srcPos, out, jumped =>
      if maxLen ≤ srcPos then
        some (if jumped then 2 else srcPos, out)
      else
        let labelLen := raw.getD srcPos 0
        if labelLen &&& 0xC0 = 0xC0 then
          if maxLen < srcPos + 2 then
            some (0, out)
          else
            -- the low byte of a first pointer is read after `src_pos` has moved past the pointer
            let srcPos := if jumped then srcPos else srcPos + 2
            let target := ((labelLen &&& 0x3F).toNat <<< 8) ||| (raw.getD (srcPos + 1) 0).toNat
            if maxLen ≤ target then some (0, out)
            else dnsDecodeLoop raw maxLen outSize fuel target out true
        else if labelLen = 0 then
          some (if jumped then 2 else srcPos + 1, out)
        else
          let out := if 0 < out.length ∧ out.length < outSize - 1 then out ++ [dnsDot] else out
          if maxLen < srcPos + 1 + labelLen.toNat then
            some (0, out)
          else if outSize ≤ out.length + labelLen.toNat then
            some (0, out)
          else
            dnsDecodeLoop raw maxLen outSize fuel (srcPos + 1 + labelLen.toNat)
              (out ++ (raw.drop (srcPos + 1)).take labelLen.toNat) jumped

/-- `dns_decode_name`; `none` when it never returns.  The position, the length written and `jumped`
decide the rest of the loop, so a run with more rounds than they have values goes on for ever. -/
def dnsDecodeName (raw : List UInt8) (maxLen outSize : Nat) : Option (Nat × Text) :=
  dnsDecodeLoop raw maxLen outSize (2 * (maxLen + 1) * (outSize + 1)) 0 [] false

/-- An array read as a C string. -/
def cString (out : Text) : Text :=
  out.takeWhile (· ≠ 0)

/-! ## Messages -/

/-- The six words of a header. -/
def dnsHeader (id flags qdcount ancount : UInt16) : List UInt8 :=
  writeU16Be id ++ writeU16Be flags ++ writeU16Be qdcount ++ writeU16Be ancount ++ writeU16Be 0 ++
    writeU16Be 0

/-- The question of an encoded name. -/
def dnsQuestion (encodedName : List UInt8) : List UInt8 :=
  encodedName ++ writeU16Be dnsTypeA ++ writeU16Be dnsClassIn

/-- `dns_create_query`; `none` when it returns `0`. -/
def dnsCreateQuery (outSize : Nat) (id : UInt16) (hostname : Text) : Option (List UInt8) :=
  (dnsEncodeName dnsMaxName hostname).bind fun encodedName =>
    if outSize < 12 then
      none
    else if outSize < 12 + encodedName.length + 4 then
      none
    else
      some (dnsHeader id (dnsQrQuery ||| dnsOpcodeQuery ||| dnsRdFlag) 1 0 ++ dnsQuestion encodedName)

/-- The answer section for an address: a pointer to the question, a lifetime of 300 s and the octets. -/
def dnsAnswer (ip : IpAddress) : List UInt8 :=
  writeU16Be 0xC00C ++ writeU16Be dnsTypeA ++ writeU16Be dnsClassIn ++ writeU32Be 300 ++
    writeU16Be 4 ++ ip.octets

/-- `dns_server_handle_query`: the response, or `none` inside when it returns `0`. -/
def dnsServerHandleQuery (table : DnsTable) (query : List UInt8) (maxRespLen : Nat) :
    Option (Option (List UInt8)) :=
  if query.length < 12 then
    some none
  else
    (dnsDecodeName (query.drop 12) (query.length - 12) dnsMaxName).map fun (decoded, out) =>
      if decoded = 0 then
        none
      else
        let qname := cString out
        let found := dnsServerResolve table qname
        (dnsEncodeName dnsMaxName qname).bind fun encName =>
          if maxRespLen < 12 then
            none
          else if maxRespLen < 12 + encName.length + 4 then
            none
          else
            let flags := dnsQrResponse ||| dnsOpcodeQuery ||| dnsAaFlag ||| dnsRdFlag ||| dnsRaFlag
            match found with
            | none =>
                some (dnsHeader (readU16Be query 0) (flags ||| dnsRcodeNxdomain) 1 0 ++
                  dnsQuestion encName)
            | some resolved =>
                let response :=
                  dnsHeader (readU16Be query 0) flags 1 1 ++ dnsQuestion encName
                -- the check asks for twelve bytes after the pointer where fourteen are written
                if maxRespLen < response.length + 2 + 8 + 4 then none
                else some (response ++ dnsAnswer resolved)

/-- The loop of `dns_parse_response` over the questions: the position after them. -/
def dnsSkipQuestions (raw : List UInt8) : Nat → Nat → Option (Option Nat)
  | 0, pos => some (some pos)
  | count + 1, pos =>
      if pos < raw.length then
        (dnsDecodeName (raw.drop pos) (raw.length - pos) dnsMaxName).bind fun (consumed, _) =>
          if consumed = 0 then some none
          else dnsSkipQuestions raw count (pos + consumed + 4)
      else
        some (some pos)

/-- The position after the name of an answer. -/
def dnsSkipAnswerName (raw : List UInt8) (pos : Nat) : Option (Option Nat) :=
  if raw.getD pos 0 &&& 0xC0 = 0xC0 then
    some (some (pos + 2))
  else
    (dnsDecodeName (raw.drop pos) (raw.length - pos) dnsMaxName).map fun (consumed, _) =>
      if consumed = 0 then none else some (pos + consumed)

/-- The loop of `dns_parse_response` over the answers. -/
def dnsParseAnswers (raw : List UInt8) : Nat → Nat → Option (Option IpAddress)
  | 0, _ => some none
  | count + 1, pos =>
      if pos < raw.length then
        (dnsSkipAnswerName raw pos).bind fun skipped =>
          match skipped with
          | none => some none
          | some pos =>
              if raw.length < pos + 10 then
                some none
              else
                let rtype := readU16Be raw pos
                let rdlength := readU16Be raw (pos + 8)
                let pos := pos + 10
                if rtype = dnsTypeA ∧ rdlength = 4 ∧ pos + 4 ≤ raw.length then
                  some (some
                    { octet0 := raw.getD pos 0
                      octet1 := raw.getD (pos + 1) 0
                      octet2 := raw.getD (pos + 2) 0
                      octet3 := raw.getD (pos + 3) 0
                      prefixLen := 0 })
                else
                  dnsParseAnswers raw count (pos + rdlength.toNat)
      else
        some none

/-- `dns_parse_response`: the address, or `none` inside when it returns `0`. -/
def dnsParseResponse (raw : List UInt8) : Option (Option IpAddress) :=
  if raw.length < 12 then
    some none
  else if readU16Be raw 2 &&& 0x000F ≠ 0 then
    some none
  else
    (dnsSkipQuestions raw (readU16Be raw 4).toNat 12).bind fun skipped =>
      match skipped with
      | none => some none
      | some pos => dnsParseAnswers raw (readU16Be raw 6).toNat pos

/-! ## Labels on the wire -/

/-- Labels with their lengths before them. -/
def wireLabels (labels : List Text) : List UInt8 :=
  labels.flatMap fun label => UInt8.ofNat label.length :: label

/-- Labels with dots between them. -/
def joinLabels (labels : List Text) : Text :=
  [dnsDot].intercalate labels

@[simp] theorem wireLabels_nil : wireLabels [] = [] := rfl

@[simp] theorem wireLabels_cons (label : Text) (rest : List Text) :
    wireLabels (label :: rest) = UInt8.ofNat label.length :: label ++ wireLabels rest := rfl

theorem wireLabels_append (done todo : List Text) :
    wireLabels (done ++ todo) = wireLabels done ++ wireLabels todo :=
  List.flatMap_append

theorem wireLabels_length_le (labels : List Text) : labels.length ≤ (wireLabels labels).length := by
  induction labels with
  | nil => exact Nat.zero_le _
  | cons label rest ih =>
      simp only [wireLabels_cons, List.length_append, List.length_cons] at ih ⊢
      omega

@[simp] theorem joinLabels_nil : joinLabels [] = [] := rfl

@[simp] theorem joinLabels_singleton (label : Text) : joinLabels [label] = label := by
  simp [joinLabels]

theorem joinLabels_cons (label next : Text) (rest : List Text) :
    joinLabels (label :: next :: rest) = label ++ dnsDot :: joinLabels (next :: rest) := by
  simp [joinLabels, List.intercalate_cons_cons]

theorem joinLabels_concat {done : List Text} (hdone : done ≠ []) (label : Text) :
    joinLabels (done ++ [label]) = joinLabels done ++ dnsDot :: label := by
  induction done with
  | nil => exact absurd rfl hdone
  | cons first rest ih =>
      cases rest with
      | nil => simp [joinLabels_cons]
      | cons second rest =>
          have hrest := ih (List.cons_ne_nil second rest)
          rw [List.cons_append] at hrest
          rw [List.cons_append, List.cons_append, joinLabels_cons, hrest, joinLabels_cons]
          simp

/-- A dot for each length byte but the first. -/
theorem joinLabels_length {labels : List Text} (hlabels : labels ≠ []) :
    (joinLabels labels).length + 1 = (wireLabels labels).length := by
  induction labels with
  | nil => exact absurd rfl hlabels
  | cons label rest ih =>
      cases rest with
      | nil => simp
      | cons next rest =>
          have hrest := ih (List.cons_ne_nil next rest)
          rw [joinLabels_cons]
          simp only [wireLabels_cons, List.length_append, List.length_cons] at hrest ⊢
          omega

theorem joinLabels_length_le (done todo : List Text) :
    (joinLabels done).length ≤ (joinLabels (done ++ todo)).length := by
  by_cases hdone : done = []
  · rw [hdone]
    exact Nat.zero_le _
  · have hshort := joinLabels_length hdone
    have hlong := joinLabels_length (List.append_ne_nil_of_left_ne_nil hdone todo)
    rw [wireLabels_append, List.length_append] at hlong
    omega

theorem ne_dot_of_mem {label : Text} (hdot : dnsDot ∉ label) :
    ∀ c ∈ label, decide (c ≠ dnsDot) = true :=
  fun _ hc => decide_eq_true fun heq => hdot (heq ▸ hc)

theorem takeWhile_dot {label : Text} (hdot : dnsDot ∉ label) (after : Text) :
    (label ++ dnsDot :: after).takeWhile (· ≠ dnsDot) = label := by
  rw [List.takeWhile_append_of_pos (ne_dot_of_mem hdot)]
  simp

theorem dropWhile_dot {label : Text} (hdot : dnsDot ∉ label) (after : Text) :
    (label ++ dnsDot :: after).dropWhile (· ≠ dnsDot) = dnsDot :: after := by
  rw [List.dropWhile_append_of_pos (ne_dot_of_mem hdot)]
  simp

/-- The round for the last label. -/
theorem dnsEncodeLoop_last {outSize : Nat} {written : List UInt8} {label : Text}
    (hdot : dnsDot ∉ label) (hne : label ≠ []) (hroom : written.length + 1 + label.length ≤ outSize) :
    dnsEncodeLoop outSize written label = some (written ++ UInt8.ofNat label.length :: label) := by
  have hdrop := List.dropWhile_eq_nil_iff.mpr (ne_dot_of_mem hdot)
  rw [dnsEncodeLoop, if_neg hne]
  simp only [List.takeWhile_eq_self_iff.mpr (ne_dot_of_mem hdot), if_neg (Nat.not_lt.mpr hroom)]
  split
  · rfl
  · rename_i heq
    exact absurd (hdrop.symm.trans heq).symm (List.cons_ne_nil _ _)

/-- The round for a label with more after it. -/
theorem dnsEncodeLoop_label {outSize : Nat} {written : List UInt8} {label : Text}
    (hdot : dnsDot ∉ label) (after : Text) (hroom : written.length + 1 + label.length ≤ outSize) :
    dnsEncodeLoop outSize written (label ++ dnsDot :: after) =
      dnsEncodeLoop outSize (written ++ UInt8.ofNat label.length :: label) after := by
  have hdrop := dropWhile_dot hdot after
  have hne : label ++ dnsDot :: after ≠ [] := by simp
  rw [dnsEncodeLoop, if_neg hne]
  simp only [takeWhile_dot hdot after, if_neg (Nat.not_lt.mpr hroom)]
  split
  · rename_i heq
    exact absurd (hdrop.symm.trans heq) (List.cons_ne_nil _ _)
  · rename_i heq
    have hafter := List.cons.inj (hdrop.symm.trans heq)
    rw [hafter.2]

/-- The encoder between two labels: it has written `done` and `todo` is left. -/
theorem dnsEncodeLoop_labels {outSize : Nat} (done todo : List Text)
    (htodo : ∀ label ∈ todo, dnsDot ∉ label ∧ label ≠ [])
    (hsize : (wireLabels (done ++ todo)).length ≤ outSize) :
    dnsEncodeLoop outSize (wireLabels done) (joinLabels todo) = some (wireLabels (done ++ todo)) := by
  induction todo generalizing done with
  | nil => simp [dnsEncodeLoop]
  | cons label rest ih =>
      have hmove : done ++ label :: rest = (done ++ [label]) ++ rest := by simp
      obtain ⟨hdot, hne⟩ := htodo label List.mem_cons_self
      rw [hmove] at hsize ⊢
      have hwire : wireLabels (done ++ [label]) =
          wireLabels done ++ UInt8.ofNat label.length :: label := by simp [wireLabels_append]
      have hroom : (wireLabels done).length + 1 + label.length ≤ outSize := by
        rw [wireLabels_append, hwire] at hsize
        simp only [List.length_append, List.length_cons] at hsize
        omega
      cases rest with
      | nil => rw [joinLabels_singleton, dnsEncodeLoop_last hdot hne hroom, List.append_nil, hwire]
      | cons next rest =>
          rw [joinLabels_cons, dnsEncodeLoop_label hdot _ hroom, ← hwire]
          exact ih (done ++ [label]) (fun other hother => htodo other (List.mem_cons_of_mem _ hother))
            hsize

/-- A byte below 192 is no pointer. -/
theorem pointerTag_iff (byte : UInt8) : byte &&& 0xC0 = 0xC0 ↔ 192 ≤ byte.toNat := by
  have hall : ∀ n < 256, (UInt8.ofNat n &&& 0xC0 = 0xC0 ↔ 192 ≤ n) := by decide +kernel
  have hbyte := hall byte.toNat byte.toNat_lt
  rwa [UInt8.ofNat_toNat] at hbyte

/-- The output with the dot before the next label. -/
def dotOut (outSize : Nat) (out : Text) : Text :=
  if 0 < out.length ∧ out.length < outSize - 1 then out ++ [dnsDot] else out

/-- The round for a label that fits. -/
theorem dnsDecodeLoop_label {raw : List UInt8} {maxLen outSize position : Nat} {out label : Text}
    {jumped : Bool} (fuel : Nat) (hlength : raw.getD position 0 = UInt8.ofNat label.length)
    (hbytes : (raw.drop (position + 1)).take label.length = label) (hpos : 0 < label.length)
    (hle : label.length < 192) (hinside : position + 1 + label.length ≤ maxLen)
    (hfits : (dotOut outSize out).length + label.length < outSize) :
    dnsDecodeLoop raw maxLen outSize (fuel + 1) position out jumped =
      dnsDecodeLoop raw maxLen outSize fuel (position + 1 + label.length)
        (dotOut outSize out ++ label) jumped := by
  have hnat : (UInt8.ofNat label.length).toNat = label.length :=
    UInt8.toNat_ofNat_of_lt' (Nat.lt_trans hle (by decide))
  have htag : UInt8.ofNat label.length &&& 0xC0 ≠ 0xC0 := by
    rw [Ne, pointerTag_iff, hnat]
    omega
  have hroot : UInt8.ofNat label.length ≠ 0 := by
    intro hzero
    rw [hzero] at hnat
    exact absurd hnat (Nat.ne_of_lt hpos)
  rw [dnsDecodeLoop, if_neg (by omega)]
  simp only [hlength, if_neg htag, if_neg hroot, hnat, hbytes]
  rw [if_neg (by omega)]
  change (if outSize ≤ (dotOut outSize out).length + label.length then _ else
    dnsDecodeLoop raw maxLen outSize fuel (position + 1 + label.length)
      (dotOut outSize out ++ label) jumped) = _
  rw [if_neg (by omega)]

/-- What the decoder has written after one more label. -/
theorem dotOut_joinLabels {outSize : Nat} {done : List Text} {label : Text}
    (hdone : ∀ other ∈ done, other ≠ []) (hsize : (joinLabels (done ++ [label])).length < outSize) :
    dotOut outSize (joinLabels done) ++ label = joinLabels (done ++ [label]) := by
  by_cases hnil : done = []
  · rw [hnil]
    simp [dotOut]
  · obtain ⟨first, rest, rfl⟩ := List.exists_cons_of_ne_nil hnil
    have hfirst := List.length_pos_of_ne_nil (hdone first List.mem_cons_self)
    have hlength := joinLabels_length hnil
    rw [joinLabels_concat hnil] at hsize ⊢
    simp only [wireLabels_cons, List.length_append, List.length_cons] at hlength hsize
    rw [dotOut, if_pos ⟨by omega, by omega⟩]
    simp

/-- The decoder over a series of labels: it has read `done` and comes to `todo`. -/
theorem dnsDecodeLoop_labels {raw rest : List UInt8} {maxLen outSize position : Nat} {jumped : Bool}
    (fuel : Nat) (done todo : List Text) (hraw : raw.drop position = wireLabels todo ++ rest)
    (hinside : position + (wireLabels todo).length ≤ maxLen)
    (hdone : ∀ label ∈ done, label ≠ []) (htodo : ∀ label ∈ todo, label ≠ [] ∧ label.length < 192)
    (hsize : (joinLabels (done ++ todo)).length < outSize) :
    dnsDecodeLoop raw maxLen outSize (fuel + todo.length) position (joinLabels done) jumped =
      dnsDecodeLoop raw maxLen outSize fuel (position + (wireLabels todo).length)
        (joinLabels (done ++ todo)) jumped := by
  induction todo generalizing done position with
  | nil => simp
  | cons label later ih =>
      obtain ⟨hne, hlt⟩ := htodo label List.mem_cons_self
      have hmove : done ++ label :: later = (done ++ [label]) ++ later := by simp
      -- The text so far fits, so that the dot before this label is written.
      have hshorter := joinLabels_length_le (done ++ [label]) later
      rw [← hmove] at hshorter
      have hout := dotOut_joinLabels hdone (hshorter.trans_lt hsize)
      have hread : raw.getD position 0 = UInt8.ofNat label.length := by
        have hhead := congrArg (fun bytes => bytes.getD 0 0) hraw
        simpa [List.getD_eq_getElem?_getD] using hhead
      have hbytes : (raw.drop (position + 1)).take label.length = label := by
        rw [← List.drop_drop, hraw]
        simp
      simp only [wireLabels_cons, List.length_append, List.length_cons] at hinside ⊢
      have hfits := congrArg List.length hout
      rw [List.length_append] at hfits
      rw [← Nat.add_assoc, dnsDecodeLoop_label (fuel + later.length) hread hbytes
        (List.length_pos_of_ne_nil hne) hlt (by omega) (by omega), hout]
      rw [hmove] at hsize ⊢
      have hnext := @ih (position + 1 + label.length) (done ++ [label]) ?_ ?_ ?_ ?_ hsize
      · rw [hnext]
        congr 1
        omega
      · rw [Nat.add_assoc, Nat.add_comm 1, ← List.drop_drop, hraw, wireLabels_cons, List.append_assoc,
          List.cons_append, List.drop_succ_cons, List.drop_left]
      · omega
      · intro other hother
        obtain hold | hlast := List.mem_append.mp hother
        · exact hdone other hold
        · rw [List.mem_singleton.mp hlast]
          exact hne
      · exact fun other hother => htodo other (List.mem_cons_of_mem _ hother)

/-! ## Well-formed names -/

/-- A label of a well-formed name. -/
structure DnsLabel where
  bytes : Text
  length_pos : 0 < bytes.length
  length_le : bytes.length ≤ 63
  clean : ∀ c ∈ bytes, c ≠ dnsDot ∧ c ≠ dnsSlash ∧ c ≠ 0

/-- The labels with their lengths before them. -/
def dnsWire (labels : List DnsLabel) : List UInt8 :=
  labels.flatMap fun label => UInt8.ofNat label.bytes.length :: label.bytes

/-- The labels with dots between them. -/
def dnsJoin (labels : List DnsLabel) : Text :=
  [dnsDot].intercalate (labels.map DnsLabel.bytes)

/-- A well-formed name: labels whose encoding has at most 255 bytes with the root label. -/
structure DnsName where
  labels : List DnsLabel
  nonempty : labels ≠ []
  encoded_le : (dnsWire labels).length + 1 ≤ 255

/-- The name as a C string. -/
def DnsName.text (name : DnsName) : Text :=
  dnsJoin name.labels

theorem dnsWire_eq (labels : List DnsLabel) :
    dnsWire labels = wireLabels (labels.map DnsLabel.bytes) := by
  simp [dnsWire, wireLabels, List.flatMap_map]

theorem dnsJoin_eq (labels : List DnsLabel) : dnsJoin labels = joinLabels (labels.map DnsLabel.bytes) :=
  rfl

theorem DnsLabel.bytes_ne_nil (label : DnsLabel) : label.bytes ≠ [] :=
  List.ne_nil_of_length_pos label.length_pos

theorem dnsJoin_length {labels : List DnsLabel} (hlabels : labels ≠ []) :
    (dnsJoin labels).length + 1 = (dnsWire labels).length := by
  rw [dnsJoin_eq, dnsWire_eq]
  exact joinLabels_length (by simpa using hlabels)

theorem dnsJoin_clean {labels : List DnsLabel} {c : UInt8} (hc : c ∈ dnsJoin labels) :
    c ≠ dnsSlash ∧ c ≠ 0 := by
  induction labels with
  | nil => exact absurd hc List.not_mem_nil
  | cons label rest ih =>
      cases rest with
      | nil =>
          rw [dnsJoin_eq, List.map_singleton, joinLabels_singleton] at hc
          exact (label.clean c hc).2
      | cons next rest =>
          rw [dnsJoin_eq, List.map_cons, List.map_cons, joinLabels_cons] at hc
          obtain hlabel | htail := List.mem_append.mp hc
          · exact (label.clean c hlabel).2
          · obtain rfl | hrest := List.mem_cons.mp htail
            · decide
            · exact ih hrest

theorem DnsName.text_length (name : DnsName) : name.text.length ≤ 253 := by
  have hlength := dnsJoin_length name.nonempty
  have hle := name.encoded_le
  rw [DnsName.text]
  omega

/-- A well-formed name reads back as itself. -/
theorem DnsName.cString_text (name : DnsName) : cString name.text = name.text := by
  rw [cString, List.takeWhile_eq_self_iff]
  intro c hc
  exact decide_eq_true (dnsJoin_clean hc).2

/-! ## Encoding and decoding -/

theorem DnsLabel.no_dot (label : DnsLabel) : dnsDot ∉ label.bytes :=
  fun hc => (label.clean dnsDot hc).1 rfl

/-- The encoding of a well-formed name. -/
def DnsName.encoded (name : DnsName) : List UInt8 :=
  dnsWire name.labels ++ [0]

theorem DnsName.encoded_length (name : DnsName) : name.encoded.length ≤ 255 := by
  have hle := name.encoded_le
  simpa [DnsName.encoded] using hle

theorem dnsEncodeName_text (name : DnsName) :
    dnsEncodeName dnsMaxName name.text = some name.encoded := by
  have hle := name.encoded_le
  have hlabels : ∀ label ∈ name.labels.map DnsLabel.bytes, dnsDot ∉ label ∧ label ≠ [] := by
    intro label hlabel
    obtain ⟨label, -, rfl⟩ := List.mem_map.mp hlabel
    exact ⟨label.no_dot, label.bytes_ne_nil⟩
  have hroot : ¬ dnsMaxName < (dnsWire name.labels).length + 1 := by
    rw [dnsMaxName]
    omega
  have hloop := @dnsEncodeLoop_labels dnsMaxName [] (name.labels.map DnsLabel.bytes) hlabels
    (by rw [List.nil_append, ← dnsWire_eq, dnsMaxName]; omega)
  rw [wireLabels_nil, List.nil_append, ← dnsWire_eq] at hloop
  rw [dnsEncodeName, DnsName.text, dnsJoin_eq, hloop, Option.bind_some, if_neg hroot,
    DnsName.encoded]

/-- Labels and the root label are decoded, and the decoder stops after them. -/
theorem dnsDecodeName_labels {raw rest : List UInt8} {maxLen outSize : Nat} (labels : List Text)
    (hraw : raw = wireLabels labels ++ 0 :: rest) (hinside : (wireLabels labels).length < maxLen)
    (hlabels : ∀ label ∈ labels, label ≠ [] ∧ label.length < 192)
    (hsize : (joinLabels labels).length < outSize) :
    dnsDecodeName raw maxLen outSize = some ((wireLabels labels).length + 1, joinLabels labels) := by
  have hle := wireLabels_length_le labels
  -- One round for each label and one for the root label are enough.
  have hfuel : ∃ fuel, 2 * (maxLen + 1) * (outSize + 1) = (fuel + 1) + labels.length := by
    refine ⟨2 * (maxLen + 1) * (outSize + 1) - 1 - labels.length, ?_⟩
    have hmany : maxLen + 1 ≤ 2 * (maxLen + 1) * (outSize + 1) := by nlinarith
    omega
  obtain ⟨fuel, hfuel⟩ := hfuel
  have hlast : dnsDecodeLoop raw maxLen outSize (fuel + 1) (wireLabels labels).length
      (joinLabels labels) false = some ((wireLabels labels).length + 1, joinLabels labels) := by
    rw [dnsDecodeLoop, if_neg (by omega), hraw]
    simp
  have hloop := @dnsDecodeLoop_labels raw (0 :: rest) maxLen outSize 0 false (fuel + 1) [] labels
    (by rw [List.drop_zero, hraw]) (by omega) (fun _ h => absurd h List.not_mem_nil) hlabels
    (by rwa [List.nil_append])
  rw [List.nil_append, Nat.zero_add, joinLabels_nil, hlast] at hloop
  rw [dnsDecodeName, hfuel, hloop]

/-- Decoding gives back an encoded name and stops after its root label. -/
theorem dnsDecodeName_encoded (name : DnsName) (after : List UInt8) :
    dnsDecodeName (name.encoded ++ after) (name.encoded ++ after).length dnsMaxName =
      some (name.encoded.length, name.text) := by
  have hle := name.encoded_le
  have hlength := name.text_length
  have hdecode := @dnsDecodeName_labels (name.encoded ++ after) after
    (name.encoded ++ after).length dnsMaxName (name.labels.map DnsLabel.bytes) ?_ ?_ ?_ ?_
  · rw [hdecode, ← dnsWire_eq]
    simp [DnsName.encoded, DnsName.text, dnsJoin_eq]
  · rw [DnsName.encoded, dnsWire_eq, List.append_assoc]
    rfl
  · rw [← dnsWire_eq, DnsName.encoded]
    simp
  · intro label hlabel
    obtain ⟨label, -, rfl⟩ := List.mem_map.mp hlabel
    exact ⟨label.bytes_ne_nil, Nat.lt_of_le_of_lt label.length_le (by decide)⟩
  · change name.text.length < dnsMaxName
    rw [dnsMaxName]
    omega

/-! ## Resolving -/

/-- A well-formed name has no scheme and no slash to cut. -/
theorem dnsServerResolve_text (table : DnsTable) (name : DnsName) :
    dnsServerResolve table name.text =
      (table.entries.find? fun entry => entry.hostname == name.text).map DnsEntry.ip := by
  have hscheme : name.text.take 7 ≠ text "http://" := by
    intro hhttp
    have hslash : dnsSlash ∈ name.text.take 7 := by
      rw [hhttp]
      decide
    exact (dnsJoin_clean (List.mem_of_mem_take hslash)).1 rfl
  have hshort : strncpyTerminated name.text dnsMaxName = name.text := by
    have hlength := name.text_length
    rw [strncpyTerminated, List.take_of_length_le]
    rw [dnsMaxName]
    omega
  have hclean : name.text.takeWhile (· ≠ dnsSlash) = name.text :=
    List.takeWhile_eq_self_iff.mpr fun c hc => decide_eq_true (dnsJoin_clean hc).1
  unfold dnsServerResolve
  simp only [if_neg hscheme, hshort, hclean]

/-- Some entry of the table has the name. -/
def DnsTable.has (table : DnsTable) (name : DnsName) : Prop :=
  ∃ entry ∈ table.entries, entry.hostname = name.text

theorem dnsServerResolve_eq_none_iff (table : DnsTable) (name : DnsName) :
    dnsServerResolve table name.text = none ↔ ¬ table.has name := by
  rw [dnsServerResolve_text, Option.map_eq_none_iff, List.find?_eq_none, DnsTable.has]
  simp

/-! ## Reading a message -/

@[simp] theorem dnsHeader_length (id flags qdcount ancount : UInt16) :
    (dnsHeader id flags qdcount ancount).length = 12 := rfl

@[simp] theorem dnsQuestion_length (encodedName : List UInt8) :
    (dnsQuestion encodedName).length = encodedName.length + 4 := by
  simp [dnsQuestion]

@[simp] theorem dnsAnswer_length (ip : IpAddress) : (dnsAnswer ip).length = 16 := rfl

/-- The four words a handler reads from a header. -/
theorem dnsHeader_read (id flags qdcount ancount : UInt16) (after : List UInt8) :
    readU16Be (dnsHeader id flags qdcount ancount ++ after) 0 = id ∧
      readU16Be (dnsHeader id flags qdcount ancount ++ after) 2 = flags ∧
      readU16Be (dnsHeader id flags qdcount ancount ++ after) 4 = qdcount ∧
      readU16Be (dnsHeader id flags qdcount ancount ++ after) 6 = ancount := by
  simp [dnsHeader, readU16Be, writeU16Be, List.getD_eq_getElem?_getD]

theorem getD_append_offset (front rest : List UInt8) (k : Nat) :
    (front ++ rest).getD (front.length + k) 0 = rest.getD k 0 := by
  rw [List.getD_append_right _ _ _ _ (Nat.le_add_right _ _), Nat.add_sub_cancel_left]

theorem readU16Be_append_offset (front rest : List UInt8) (k : Nat) :
    readU16Be (front ++ rest) (front.length + k) = readU16Be rest k := by
  rw [readU16Be, Nat.add_assoc, getD_append_offset, getD_append_offset, readU16Be]

/-- The fields of an answer the server wrote. -/
theorem dnsAnswer_read (ip : IpAddress) :
    (dnsAnswer ip).getD 0 0 &&& 0xC0 = 0xC0 ∧ readU16Be (dnsAnswer ip) 2 = dnsTypeA ∧
      readU16Be (dnsAnswer ip) 10 = 4 := by
  have hpointer : ((0xC00C : UInt16) >>> 8).toUInt8 &&& 0xC0 = 0xC0 := by decide
  refine ⟨hpointer, ?_, ?_⟩
  · simp [dnsAnswer, readU16Be, writeU16Be]
  · rw [dnsAnswer, List.append_assoc]
    exact readU16Be_append (writeU16Be 0xC00C ++ writeU16Be dnsTypeA ++ writeU16Be dnsClassIn ++
      writeU32Be 300) ip.octets 4

/-- The answer loop at an answer the server wrote. -/
theorem dnsParseAnswers_answer (front : List UInt8) (ip : IpAddress) :
    dnsParseAnswers (front ++ dnsAnswer ip) 1 front.length = some (some ip.withoutPrefix) := by
  rcases dnsAnswer_read ip with ⟨hpointer, htype, hrdlength⟩
  have hlength : (front ++ dnsAnswer ip).length = front.length + 16 := by
    rw [List.length_append, dnsAnswer_length]
  have hname : dnsSkipAnswerName (front ++ dnsAnswer ip) front.length =
      some (some (front.length + 2)) := by
    have hread := getD_append_offset front (dnsAnswer ip) 0
    rw [Nat.add_zero] at hread
    rw [dnsSkipAnswerName, hread, if_pos hpointer]
  have hhere : front.length < (front ++ dnsAnswer ip).length := by omega
  have hfixed : ¬ (front ++ dnsAnswer ip).length < front.length + 2 + 10 := by omega
  have hrest : front.length + 2 + 10 + 4 ≤ (front ++ dnsAnswer ip).length := by omega
  rw [dnsParseAnswers, if_pos hhere, hname, Option.bind_some]
  simp only [if_neg hfixed, hrest, and_true]
  simp only [Nat.add_assoc, Nat.reduceAdd, readU16Be_append_offset, getD_append_offset, htype,
    hrdlength, and_self, if_true]
  rfl

/-- The question loop at the one question the server echoes. -/
theorem dnsSkipQuestions_question (name : DnsName) (id flags qdcount ancount : UInt16)
    (after : List UInt8) :
    dnsSkipQuestions (dnsHeader id flags qdcount ancount ++ dnsQuestion name.encoded ++ after) 1 12 =
      some (some (12 + name.encoded.length + 4)) := by
  have hdrop : (dnsHeader id flags qdcount ancount ++ dnsQuestion name.encoded ++ after).drop 12 =
      name.encoded ++ (writeU16Be dnsTypeA ++ writeU16Be dnsClassIn ++ after) := by
    rw [List.append_assoc, List.drop_left' (dnsHeader_length id flags qdcount ancount)]
    simp [dnsQuestion]
  have hne : name.encoded.length ≠ 0 := by simp [DnsName.encoded]
  have hhere :
      12 < (dnsHeader id flags qdcount ancount ++ dnsQuestion name.encoded ++ after).length := by
    simp only [List.length_append, dnsHeader_length, dnsQuestion_length]
    omega
  rw [dnsSkipQuestions, if_pos hhere, ← List.length_drop, hdrop, dnsDecodeName_encoded,
    Option.bind_some]
  simp only [if_neg hne]
  rfl

/-! ## The exchange -/

/-- The query for a well-formed name. -/
def dnsQueryOf (id : UInt16) (name : DnsName) : List UInt8 :=
  dnsHeader id (dnsQrQuery ||| dnsOpcodeQuery ||| dnsRdFlag) 1 0 ++ dnsQuestion name.encoded

theorem dnsCreateQuery_text (id : UInt16) (name : DnsName) :
    dnsCreateQuery 512 id name.text = some (dnsQueryOf id name) := by
  have hlength := name.encoded_length
  rw [dnsCreateQuery, dnsEncodeName_text, Option.bind_some, if_neg (by decide), if_neg (by omega),
    dnsQueryOf]

/-- The flags of a response. -/
def dnsResponseFlags : UInt16 :=
  dnsQrResponse ||| dnsOpcodeQuery ||| dnsAaFlag ||| dnsRdFlag ||| dnsRaFlag

/-- The response for a well-formed name. -/
def dnsResponseOf (id : UInt16) (name : DnsName) : Option IpAddress → List UInt8
  | none =>
      dnsHeader id (dnsResponseFlags ||| dnsRcodeNxdomain) 1 0 ++ dnsQuestion name.encoded
  | some ip => dnsHeader id dnsResponseFlags 1 1 ++ dnsQuestion name.encoded ++ dnsAnswer ip

theorem dnsServerHandleQuery_query (table : DnsTable) (id : UInt16) (name : DnsName) :
    dnsServerHandleQuery table (dnsQueryOf id name) 512 =
      some (some (dnsResponseOf id name (dnsServerResolve table name.text))) := by
  have hbound := name.encoded_length
  have hdrop : (dnsQueryOf id name).drop 12 =
      name.encoded ++ (writeU16Be dnsTypeA ++ writeU16Be dnsClassIn) := by
    rw [dnsQueryOf, List.drop_left' (dnsHeader_length _ _ _ _), dnsQuestion, List.append_assoc]
  have hlength : (dnsQueryOf id name).length = 12 + (name.encoded.length + 4) := by
    rw [dnsQueryOf, List.length_append, dnsHeader_length, dnsQuestion_length]
  have hne : name.encoded.length ≠ 0 := by simp [DnsName.encoded]
  have hid : readU16Be (dnsQueryOf id name) 0 = id := (dnsHeader_read id _ _ _ _).1
  rw [dnsServerHandleQuery, if_neg (by omega), ← List.length_drop, hdrop, dnsDecodeName_encoded,
    Option.map_some]
  simp only [if_neg hne, name.cString_text, dnsEncodeName_text, Option.bind_some, hid]
  rw [if_neg (by decide), if_neg (by omega)]
  cases hfound : dnsServerResolve table name.text with
  | none => rfl
  | some ip =>
      have hroom : ¬ 512 < (dnsHeader id dnsResponseFlags 1 1 ++
          dnsQuestion name.encoded).length + 2 + 8 + 4 := by
        rw [List.length_append, dnsHeader_length, dnsQuestion_length]
        omega
      exact congrArg some (if_neg hroom)

theorem dnsParseResponse_response (id : UInt16) (name : DnsName) (found : Option IpAddress) :
    dnsParseResponse (dnsResponseOf id name found) =
      some (found.map IpAddress.withoutPrefix) := by
  cases found with
  | none =>
      rcases dnsHeader_read id (dnsResponseFlags ||| dnsRcodeNxdomain) 1 0
        (dnsQuestion name.encoded) with ⟨_, hflags, _, _⟩
      have hlength : ¬ (dnsResponseOf id name none).length < 12 := by
        rw [dnsResponseOf, List.length_append, dnsHeader_length]
        omega
      rw [dnsParseResponse, if_neg hlength, dnsResponseOf, hflags, if_pos (by decide)]
      rfl
  | some ip =>
      rcases dnsHeader_read id dnsResponseFlags 1 1
        (dnsQuestion name.encoded ++ dnsAnswer ip) with ⟨_, hflags, hqdcount, hancount⟩
      rw [← List.append_assoc] at hflags hqdcount hancount
      have hlength : ¬ (dnsResponseOf id name (some ip)).length < 12 := by
        rw [dnsResponseOf, List.length_append, List.length_append, dnsHeader_length]
        omega
      have hfront : (dnsHeader id dnsResponseFlags 1 1 ++ dnsQuestion name.encoded).length =
          12 + name.encoded.length + 4 := by
        rw [List.length_append, dnsHeader_length, dnsQuestion_length]
        rfl
      have hanswer := dnsParseAnswers_answer
        (dnsHeader id dnsResponseFlags 1 1 ++ dnsQuestion name.encoded) ip
      rw [hfront] at hanswer
      rw [dnsParseResponse, if_neg hlength, dnsResponseOf, hflags, if_neg (by decide), hqdcount,
        hancount]
      change (dnsSkipQuestions _ 1 12).bind _ = _
      rw [dnsSkipQuestions_question, Option.bind_some]
      exact hanswer

/-! ## Tables built by adding entries -/

/-- The table after a sequence of `dns_server_add_entry` calls; a refused call changes nothing. -/
def dnsTable (adds : List (DnsName × IpAddress)) : DnsTable :=
  adds.foldl (fun table add => (dnsServerAddEntry table add.1.text add.2).getD table) DnsTable.empty

/-- Updating the first entry of a name changes what that name, and no other, resolves to. -/
theorem dnsEntries_modify {hostname : Text} {ip : IpAddress} {entries : List DnsEntry} {i : Nat}
    (hfirst : entries.findIdx? (fun entry => entry.hostname == hostname) = some i) (other : Text) :
    ((entries.modify i fun entry => { entry with ip := ip }).find?
        fun entry => entry.hostname == other).map DnsEntry.ip =
      if other = hostname then some ip
      else (entries.find? fun entry => entry.hostname == other).map DnsEntry.ip := by
  induction entries generalizing i with
  | nil => exact absurd hfirst (by simp)
  | cons entry rest ih =>
      rw [List.findIdx?_cons] at hfirst
      by_cases hentry : entry.hostname = hostname
      · have hi : i = 0 := by simpa [hentry] using hfirst.symm
        subst hi
        by_cases hother : other = hostname
        · simp [hentry, hother]
        · have hne : ¬ hostname = other := fun heq => hother heq.symm
          simp [hentry, hother, hne]
      · rcases Option.map_eq_some_iff.mp (by simpa [hentry] using hfirst) with ⟨k, hk, rfl⟩
        have hrest := ih hk
        by_cases hother : entry.hostname = other
        · have hne : ¬ other = hostname := fun heq => hentry (hother.trans heq)
          simp [hother, hne]
        · simpa [hother] using hrest

/-- For every table of well-formed names, every well-formed name and every id, the exchange of a query
and its response echoes the id and gives the octets the table has for the name, or `0` with
`NXDOMAIN` exactly when the table does not have it. -/
theorem dns_response_agrees_with_resolve (adds : List (DnsName × IpAddress)) (name : DnsName)
    (id : UInt16) :
    ∃ query response,
      dnsCreateQuery 512 id name.text = some query ∧
      dnsServerHandleQuery (dnsTable adds) query 512 = some (some response) ∧
      readU16Be response 0 = id ∧
      dnsParseResponse response =
        some ((dnsServerResolve (dnsTable adds) name.text).map IpAddress.withoutPrefix) ∧
      (dnsParseResponse response = some none ↔ ¬ (dnsTable adds).has name) ∧
      (readU16Be response 2 &&& 0x000F = dnsRcodeNxdomain ↔ ¬ (dnsTable adds).has name) := by
  have hparse := dnsParseResponse_response id name (dnsServerResolve (dnsTable adds) name.text)
  have hnone := dnsServerResolve_eq_none_iff (dnsTable adds) name
  refine ⟨_, _, dnsCreateQuery_text id name, dnsServerHandleQuery_query (dnsTable adds) id name,
    ?_, hparse, ?_, ?_⟩
  · cases dnsServerResolve (dnsTable adds) name.text with
    | none => exact (dnsHeader_read id _ _ _ _).1
    | some ip =>
        rw [dnsResponseOf, List.append_assoc]
        exact (dnsHeader_read id _ _ _ _).1
  · rw [hparse, ← hnone]
    simp
  · rw [← hnone]
    cases dnsServerResolve (dnsTable adds) name.text with
    | none =>
        rw [dnsResponseOf, (dnsHeader_read id _ _ _ _).2.1]
        decide
    | some ip =>
        rw [dnsResponseOf, List.append_assoc, (dnsHeader_read id _ _ _ _).2.1]
        have hflags : dnsResponseFlags &&& 0x000F ≠ dnsRcodeNxdomain := by decide
        exact iff_of_false hflags (Option.some_ne_none ip)

/-- The name `localhost`. -/
def dnsLocalhost : DnsName :=
  { labels :=
      [{ bytes := text "localhost"
         length_pos := by decide
         length_le := by decide
         clean := by decide +kernel }]
    nonempty := List.cons_ne_nil _ _
    encoded_le := by decide }

/-- An entry with network bits: resolving gives them, the response does not carry them. -/
theorem dns_response_loses_prefix :
    let table := dnsTable [(dnsLocalhost, ⟨10, 0, 0, 5, 24⟩)]
    ∃ query response,
      dnsCreateQuery 512 7 dnsLocalhost.text = some query ∧
      dnsServerHandleQuery table query 512 = some (some response) ∧
      dnsServerResolve table dnsLocalhost.text = some ⟨10, 0, 0, 5, 24⟩ ∧
      dnsParseResponse response = some (some ⟨10, 0, 0, 5, 0⟩) ∧
      dnsParseResponse response ≠ some (dnsServerResolve table dnsLocalhost.text) := by
  intro table
  have hresolve : dnsServerResolve table dnsLocalhost.text = some ⟨10, 0, 0, 5, 24⟩ := by
    decide +kernel
  have hparse := dnsParseResponse_response 7 dnsLocalhost (some ⟨10, 0, 0, 5, 24⟩)
  have hhandle := dnsServerHandleQuery_query table 7 dnsLocalhost
  rw [hresolve] at hhandle
  refine ⟨_, _, dnsCreateQuery_text 7 dnsLocalhost, hhandle, hresolve, hparse, ?_⟩
  rw [hparse, hresolve]
  decide

end MagiStack
