import MagiStack.Layer7.HttpRequest
import MagiStack.Library.CheckedBuffer
import MagiStack.Library.TextBuffer

/-!
# HttpTokens — the method and the path as `http_parse_request` stores them

`http_parse_request` once more, with every access to the request and to the two arrays checked.  No access
leaves its buffer, and what is stored is what `httpParseRequest` gives.  The loop of the path, unlike the
one of the method, does not tell its three ends apart, and neither loop stops where a line ends: a path is
cut at the size of its array, or goes on into the next line.
-/

namespace MagiStack

open CheckedBuffer TextBuffer

/-! ## Checked parsing -/

/-- Both loops of `http_parse_request`: bytes from `start` on are copied to the start of the array until a
space, the end of the request or the last place of the array.  `p` of them are there already. -/
def httpCopyToken {size : Nat} (request : List UInt8) (start p : Nat) (dst : Vector UInt8 size) :
    Access (Vector UInt8 size × Nat) :=
  if start + p < request.length then do
    let b ← readByte request (start + p)
    if b = 32 then
      pure (dst, p)
    else if p < sizeSub size 1 then do
      let dst ← writeByte dst p b
      httpCopyToken request start (p + 1) dst
    else
      pure (dst, p)
  else
    pure (dst, p)
  termination_by request.length - (start + p)

/-- `http_parse_request` on a request of exactly `req_len` bytes: what it returns and the two arrays. -/
def httpParseRequestChecked {methodSize pathSize : Nat} (request : List UInt8)
    (method : Vector UInt8 methodSize) (path : Vector UInt8 pathSize) :
    Access (Nat × Vector UInt8 methodSize × Vector UInt8 pathSize) := do
  let (method, i) ← httpCopyToken request 0 0 method
  let method ← writeByte method i 0
  if i < request.length then
    let b ← readByte request i
    if b = 32 then
      let (path, p) ← httpCopyToken request (i + 1) 0 path
      let path ← writeByte path p 0
      pure (if 0 < p then 1 else 0, method, path)
    else
      pure (0, method, path)
  else
    pure (0, method, path)

/-! ## What is read and written -/

/-- The bytes from `start` on that one of the loops copies. -/
def httpToken (request : List UInt8) (start room : Nat) : List UInt8 :=
  ((request.drop start).takeWhile (· != 32)).take room

theorem httpToken_stop {request : List UInt8} {start : Nat} (room : Nat)
    (h : request.length ≤ start ∨ request[start]? = some 32) : httpToken request start room = [] := by
  rcases h with hend | hspace
  · simp [httpToken, List.drop_eq_nil_of_le hend]
  · have hlt : start < request.length := (List.getElem?_eq_some_iff.mp hspace).1
    rw [httpToken, List.drop_eq_getElem_cons hlt, (List.getElem?_eq_some_iff.mp hspace).2]
    simp

theorem httpToken_step {request : List UInt8} {start : Nat} {b : UInt8} (room : Nat)
    (h : request[start]? = some b) (hb : b ≠ 32) :
    httpToken request start (room + 1) = b :: httpToken request (start + 1) room := by
  have hlt : start < request.length := (List.getElem?_eq_some_iff.mp h).1
  rw [httpToken, List.drop_eq_getElem_cons hlt, (List.getElem?_eq_some_iff.mp h).2,
    List.takeWhile_cons_of_pos (by simpa using hb), List.take_succ_cons, httpToken]

/-- A loop does not leave its buffers, and copies the token. -/
theorem httpCopyToken_eq {size : Nat} (hsize : 1 ≤ size) (request : List UInt8) (start p : Nat)
    (dst : Vector UInt8 size) (hp : p < size) :
    ∃ stored,
      httpCopyToken request start p dst =
        .ok (stored, p + (httpToken request (start + p) (size - 1 - p)).length) ∧
      stored.toList.take (p + (httpToken request (start + p) (size - 1 - p)).length) =
        dst.toList.take p ++ httpToken request (start + p) (size - 1 - p) := by
  -- on the distance to the end of the request
  induction hleft : request.length - (start + p) generalizing p dst with
  | zero =>
      have hend : request.length ≤ start + p := by omega
      refine ⟨dst, ?_, ?_⟩
      · rw [httpCopyToken, if_neg (by omega), httpToken_stop _ (.inl hend)]
        rfl
      · rw [httpToken_stop _ (.inl hend)]
        simp
  | succ left ih =>
      have hlt : start + p < request.length := by omega
      have hread : readByte request (start + p) = .ok request[start + p] := by
        simp [readByte, hlt]
      have hget : request[start + p]? = some request[start + p] := List.getElem?_eq_getElem hlt
      rw [httpCopyToken, if_pos hlt, hread]
      -- the loop stops at a space or where the array is full, or copies one more byte
      by_cases hspace : request[start + p] = 32
      · have hstop : httpToken request (start + p) (size - 1 - p) = [] :=
          httpToken_stop _ (.inr (hget.trans (by rw [hspace])))
        refine ⟨dst, ?_, ?_⟩
        · rw [hstop]
          exact if_pos hspace
        · rw [hstop]
          simp
      · by_cases hroom : p < size - 1
        · obtain ⟨stored, hcopied, hstored⟩ := ih (p + 1) (dst.set p request[start + p]) (by omega) (by omega)
          have htoken : httpToken request (start + p) (size - 1 - p) =
              request[start + p] :: httpToken request (start + (p + 1)) (size - 1 - (p + 1)) := by
            rw [show size - 1 - p = size - 1 - (p + 1) + 1 by omega, httpToken_step _ hget hspace]
            rfl
          have hlength : p + (httpToken request (start + p) (size - 1 - p)).length =
              p + 1 + (httpToken request (start + (p + 1)) (size - 1 - (p + 1))).length := by
            rw [htoken, List.length_cons]
            omega
          refine ⟨stored, ?_, ?_⟩
          · rw [hlength, ← hcopied]
            change (if request[start + p] = 32 then _ else if p < sizeSub size 1 then _ else _) = _
            rw [if_neg hspace, if_pos (by rw [sizeSub_eq hsize]; exact hroom)]
            change (writeByte dst p request[start + p]).bind _ = _
            rw [writeByte_eq hp]
            rfl
          · rw [hlength, hstored, htoken, Vector.toList_set, List.take_add_one,
              List.take_set_of_le (le_refl p), List.getElem?_set_self (by simpa using hp)]
            simp
        · have hfull : size - 1 - p = 0 := by omega
          refine ⟨dst, ?_, ?_⟩
          · change (if request[start + p] = 32 then _ else if p < sizeSub size 1 then _ else _) = _
            rw [if_neg hspace, if_neg (by rw [sizeSub_eq hsize]; exact hroom), hfull]
            simp [httpToken]
            rfl
          · rw [hfull]
            simp [httpToken]

/-- A loop and the byte it is ended with. -/
theorem httpCopyToken_terminated {size : Nat} (hsize : 1 ≤ size) (request : List UInt8) (start : Nat)
    (dst : Vector UInt8 size) :
    ∃ copied terminated,
      httpCopyToken request start 0 dst = .ok (copied, (httpToken request start (size - 1)).length) ∧
      writeByte copied (httpToken request start (size - 1)).length 0 = .ok terminated ∧
      Holds terminated (httpToken request start (size - 1)) := by
  obtain ⟨copied, hcopied, hstored⟩ := httpCopyToken_eq hsize request start 0 dst (by omega)
  simp only [Nat.zero_add, Nat.add_zero, Nat.sub_zero, List.take_zero, List.nil_append] at hcopied hstored
  have hfits : (httpToken request start (size - 1)).length < size := by
    have hroom : (httpToken request start (size - 1)).length ≤ size - 1 := by
      rw [httpToken, List.length_take]
      exact Nat.min_le_left _ _
    omega
  refine ⟨copied, copied.set _ 0 hfits, hcopied, writeByte_eq hfits 0, ?_⟩
  rw [Holds, Vector.toList_set, List.take_add_one, List.take_set_of_le (le_refl _), hstored,
    List.getElem?_set_self (by simpa using hfits)]
  rfl

theorem httpToken_zero (request : List UInt8) (room : Nat) :
    httpToken request 0 room = (request.takeWhile (· != 32)).take room := rfl

/-- No access leaves its buffer, and the arrays hold what `httpParseRequest` gives. -/
theorem httpParseRequestChecked_eq {methodSize pathSize : Nat} (hmethod : 1 ≤ methodSize)
    (hpath : 1 ≤ pathSize) (request : List UInt8) (method : Vector UInt8 methodSize)
    (path : Vector UInt8 pathSize) :
    ∃ result method' path',
      httpParseRequestChecked request method path = .ok (result, method', path') ∧
      (result = 1 ↔ httpParseRequest request methodSize pathSize ≠ none) ∧
      ∀ m p, httpParseRequest request methodSize pathSize = some (m, p) →
        Holds method' m ∧ Holds path' p := by
  obtain ⟨copied, method', hcopy, hwrite, hholds⟩ := httpCopyToken_terminated hmethod request 0 method
  obtain ⟨copied', path', hcopy', hwrite', hholds'⟩ :=
    httpCopyToken_terminated hpath request ((httpToken request 0 (methodSize - 1)).length + 1) path
  rw [httpParseRequestChecked, hcopy]
  simp only [bind, Except.bind, hwrite]
  rw [httpParseRequest, ← httpToken_zero]
  generalize httpToken request 0 (methodSize - 1) = m at *
  by_cases hlt : m.length < request.length
  · rw [if_pos hlt, readByte_eq hlt, List.drop_eq_getElem_cons hlt]
    have hgetD : request.getD m.length 0 = request[m.length] := by simp [hlt]
    by_cases hspace : request[m.length] = 32
    · simp only [hgetD, hspace, if_pos, hcopy', hwrite']
      rw [show ((request.drop (m.length + 1)).takeWhile (· != 32)).take (pathSize - 1) =
        httpToken request (m.length + 1) (pathSize - 1) from rfl]
      generalize httpToken request (m.length + 1) (pathSize - 1) = p at *
      refine ⟨_, method', path', rfl, ?_, ?_⟩
      · cases p <;> simp
      · intro m₀ p₀ hsome
        cases p with
        | nil => simp at hsome
        | cons b rest =>
            obtain ⟨rfl, rfl⟩ : m = m₀ ∧ b :: rest = p₀ := by simpa using hsome
            exact ⟨hholds, hholds'⟩
    · simp only [hgetD, hspace, if_false]
      split
      · rename_i heq
        exact absurd (List.cons.inj heq).1 hspace
      · exact ⟨0, method', path, rfl, by simp, by simp⟩
  · rw [if_neg hlt, List.drop_eq_nil_of_le (by omega)]
    exact ⟨0, method', path, rfl, by simp, by simp⟩

/-! ## Whole tokens -/

/-- A carriage return or a line feed. -/
def httpLineEnd (b : UInt8) : Bool := b == 13 || b == 10

/-- The request up to its first line end. -/
def httpFirstLine (request : List UInt8) : List UInt8 := request.takeWhile (!httpLineEnd ·)

/-- The first line of the request opens with the method, a space and the path, and the path is followed by a
space or by nothing. -/
structure HttpWholeTokens (request : List UInt8) (method path : Text) : Prop where
  opens : ∃ rest, httpFirstLine request = method ++ 32 :: (path ++ rest) ∧
    (rest = [] ∨ rest.head? = some 32)
  plain : ∀ b ∈ method ++ path, b ≠ 32 ∧ httpLineEnd b = false

/-- The bytes before the first space. -/
def httpMethodRun (request : List UInt8) : List UInt8 := request.takeWhile (· != 32)

/-- The bytes behind the first space. -/
def httpAfterMethod (request : List UInt8) : List UInt8 := request.drop ((httpMethodRun request).length + 1)

/-- The bytes between the first two spaces. -/
def httpPathRun (request : List UInt8) : List UInt8 := (httpAfterMethod request).takeWhile (· != 32)

/-- The bytes behind the first space up to a space or a line end. -/
def httpPathToken (request : List UInt8) : List UInt8 :=
  (httpFirstLine (httpAfterMethod request)).takeWhile (· != 32)

/-- `http_parse_request` turns the request away: no space among its first bytes, nothing before the next
space, or no room for a path. -/
def HttpTurnedAway (request : List UInt8) (methodSize pathSize : Nat) : Prop :=
  32 ∉ request.take methodSize ∨ httpPathRun request = [] ∨ pathSize = 1

instance (request : List UInt8) (methodSize pathSize : Nat) :
    Decidable (HttpTurnedAway request methodSize pathSize) :=
  inferInstanceAs (Decidable (_ ∨ _ ∨ _))

theorem mem_take_takeWhile_iff (request : List UInt8) (n : Nat) :
    32 ∈ request.take n ↔
      (httpMethodRun request).length < n ∧ request[(httpMethodRun request).length]? = some 32 := by
  induction request generalizing n with
  | nil => simp
  | cons b request ih =>
      cases n with
      | zero => simp
      | succ n =>
          by_cases hspace : b = 32
          · simp [httpMethodRun, hspace]
          · have hrun : httpMethodRun (b :: request) = b :: httpMethodRun request :=
              List.takeWhile_cons_of_pos (by simpa using hspace)
            rw [List.take_succ_cons, List.mem_cons, hrun, List.length_cons, List.getElem?_cons_succ, ih n]
            simp [Ne.symm hspace]

/-- What is accepted, and as what. -/
theorem httpParseRequest_eq (request : List UInt8) {methodSize pathSize : Nat} (hmethod : 1 ≤ methodSize)
    (hpath : 1 ≤ pathSize) :
    httpParseRequest request methodSize pathSize =
      if HttpTurnedAway request methodSize pathSize then none
      else some (httpMethodRun request, (httpPathRun request).take (pathSize - 1)) := by
  have hrun : (request.takeWhile (· != 32)) = httpMethodRun request := rfl
  rw [httpParseRequest, hrun]
  by_cases hfits : (httpMethodRun request).length < methodSize
  · rw [List.take_of_length_le (by omega)]
    by_cases hspace : request[(httpMethodRun request).length]? = some 32
    · -- The method ends at a space, and only an empty path is turned away.
      have hlt := (List.getElem?_eq_some_iff.mp hspace).1
      have hmem : 32 ∈ request.take methodSize :=
        (mem_take_takeWhile_iff request methodSize).mpr ⟨hfits, hspace⟩
      rw [List.drop_eq_getElem_cons hlt, (List.getElem?_eq_some_iff.mp hspace).2]
      change (if ((httpPathRun request).take (pathSize - 1)).isEmpty then none else _) = _
      refine if_congr ?_ rfl rfl
      simp only [HttpTurnedAway, hmem, not_true, false_or, List.isEmpty_iff, List.take_eq_nil_iff]
      constructor
      · rintro (hzero | hnil)
        · exact .inr (by omega)
        · exact .inl hnil
      · rintro (hnil | hone)
        · exact .inr hnil
        · exact .inl (by omega)
    · have hnot : 32 ∉ request.take methodSize := fun hmem =>
        hspace ((mem_take_takeWhile_iff request methodSize).mp hmem).2
      rw [if_pos (.inl hnot)]
      split
      · rename_i rest heq
        refine absurd ?_ hspace
        rw [← List.head?_drop, heq]
        rfl
      · rfl
  · -- the byte where the array is full comes before the first space
    have hnot : 32 ∉ request.take methodSize := fun hmem =>
      hfits ((mem_take_takeWhile_iff request methodSize).mp hmem).1
    rw [if_pos (.inl hnot)]
    split
    · rename_i rest heq
      refine absurd ?_ hnot
      have hlength : ((httpMethodRun request).take (methodSize - 1)).length = methodSize - 1 := by
        rw [List.length_take]
        omega
      rw [hlength] at heq
      have hget : request[methodSize - 1]? = some 32 := by
        rw [← List.head?_drop, heq]
        rfl
      exact List.mem_iff_getElem?.mpr ⟨methodSize - 1, by rw [List.getElem?_take_of_lt (by omega), hget]⟩
    · rfl

theorem httpFirstLine_pathRun (request : List UInt8) :
    httpFirstLine (httpPathRun request) = httpPathToken request := by
  rw [httpFirstLine, httpPathRun, httpPathToken, httpFirstLine, List.takeWhile_takeWhile,
    List.takeWhile_takeWhile]
  congr 1
  funext b
  rw [Bool.decide_and, Bool.decide_and, Bool.and_comm]

/-- The first line of text without line ends, and of what follows it. -/
theorem httpFirstLine_append {start : List UInt8} (rest : List UInt8)
    (h : ∀ b ∈ start, httpLineEnd b = false) : httpFirstLine (start ++ rest) = start ++ httpFirstLine rest :=
  List.takeWhile_append_of_pos fun b hb => by simp [h b hb]

theorem httpFirstLine_plain {request : List UInt8} {b : UInt8} (h : b ∈ httpFirstLine request) :
    httpLineEnd b = false := by
  simpa using List.mem_takeWhile_imp h

/-- A request with a space is cut at the first one. -/
theorem httpRequest_split {request : List UInt8}
    (h : request[(httpMethodRun request).length]? = some 32) :
    request = httpMethodRun request ++ 32 :: httpAfterMethod request := by
  have hlt := (List.getElem?_eq_some_iff.mp h).1
  have htake : request.take (httpMethodRun request).length = httpMethodRun request :=
    (List.prefix_iff_eq_take.mp (List.takeWhile_prefix _)).symm
  calc
    request = request.take (httpMethodRun request).length ++ request.drop (httpMethodRun request).length :=
      (List.take_append_drop _ request).symm
    _ = httpMethodRun request ++ 32 :: httpAfterMethod request := by
      rw [htake, List.drop_eq_getElem_cons hlt, (List.getElem?_eq_some_iff.mp h).2]
      rfl

/-- The tokens are whole if the method is free of line ends and the path is what is there up to a space or a
line end. -/
theorem httpWholeTokens_iff {request : List UInt8} (h : request[(httpMethodRun request).length]? = some 32)
    (path : Text) :
    HttpWholeTokens request (httpMethodRun request) path ↔
      (∀ b ∈ httpMethodRun request, httpLineEnd b = false) ∧ path = httpPathToken request := by
  -- the first line goes on behind the method if the method has no line end
  have hline (hplain : ∀ b ∈ httpMethodRun request, httpLineEnd b = false) :
      httpFirstLine request = httpMethodRun request ++ 32 :: httpFirstLine (httpAfterMethod request) := by
    conv_lhs => rw [httpRequest_split h, httpFirstLine_append _ hplain]
    rfl
  constructor
  · rintro ⟨⟨rest, hopens, hrest⟩, hplain⟩
    have hmethod : ∀ b ∈ httpMethodRun request, httpLineEnd b = false := fun b hb =>
      (hplain b (List.mem_append_left _ hb)).2
    rw [hline hmethod, List.append_cancel_left_eq, List.cons.injEq] at hopens
    refine ⟨hmethod, ?_⟩
    rw [httpPathToken, hopens.2, List.takeWhile_append_of_pos fun b hb => by
      simpa using (hplain b (List.mem_append_right _ hb)).1]
    rcases hrest with rfl | hspace
    · simp
    · obtain ⟨tail, rfl⟩ := List.head?_eq_some_iff.mp hspace
      simp
  · rintro ⟨hmethod, rfl⟩
    refine ⟨⟨(httpFirstLine (httpAfterMethod request)).dropWhile (· != 32), ?_, ?_⟩, ?_⟩
    · rw [hline hmethod, httpPathToken, List.takeWhile_append_dropWhile]
    · have hstop := List.head?_dropWhile_not (· != 32) (httpFirstLine (httpAfterMethod request))
      cases hrest : (httpFirstLine (httpAfterMethod request)).dropWhile (· != 32) with
      | nil => exact .inl rfl
      | cons b tail =>
          rw [hrest] at hstop
          exact .inr (congrArg some (by simpa using hstop))
    · intro b hb
      rcases List.mem_append.mp hb with hmem | hmem
      · exact ⟨by simpa using List.mem_takeWhile_imp hmem, hmethod b hmem⟩
      · exact ⟨by simpa using List.mem_takeWhile_imp hmem,
          httpFirstLine_plain ((List.takeWhile_sublist _).subset hmem)⟩

/-- The bytes between the spaces, cut at the array's size, are the path token if they fit without a line
end, or if the line end is where the array is full. -/
theorem take_pathRun_eq_iff (request : List UInt8) {pathSize : Nat} (hpath : 1 ≤ pathSize) :
    (httpPathRun request).take (pathSize - 1) = httpPathToken request ↔
      ((∀ b ∈ httpPathRun request, httpLineEnd b = false) ∧ (httpPathRun request).length < pathSize) ∨
        (httpPathToken request).length + 1 = pathSize := by
  rw [← httpFirstLine_pathRun]
  generalize httpPathRun request = run
  have hrun : httpFirstLine run <+: run := List.takeWhile_prefix _
  -- both are beginnings of the same bytes, so that only their lengths matter
  constructor
  · intro htake
    by_cases hfits : run.length < pathSize
    · rw [List.take_of_length_le (by omega)] at htake
      exact .inl ⟨fun b hb => httpFirstLine_plain (htake ▸ hb), hfits⟩
    · refine .inr ?_
      rw [← htake, List.length_take]
      omega
  · rintro (⟨hplain, hfits⟩ | hfull)
    · rw [List.take_of_length_le (by omega)]
      exact (List.takeWhile_eq_self_iff.mpr fun b hb => by simp [hplain b hb]).symm
    · rw [List.prefix_iff_eq_take.mp hrun]
      congr 1
      omega

/-! ## When whole tokens are stored -/

/-- `http_parse_request` stays inside its buffers, and returns 1 for whole tokens only, which it stores. -/
def HttpStoresWholeTokens {methodSize pathSize : Nat} (request : List UInt8)
    (method : Vector UInt8 methodSize) (path : Vector UInt8 pathSize) : Prop :=
  ∃ result method' path', httpParseRequestChecked request method path = .ok (result, method', path') ∧
    (result = 1 → ∃ m p, HttpWholeTokens request m p ∧ Holds method' m ∧ Holds path' p)

/-- The request is turned away; or no line end comes before the first space, and between the first two
spaces there is none either and the array has room, or there is one just where the array is full. -/
def HttpTokensFit (request : List UInt8) (methodSize pathSize : Nat) : Prop :=
  HttpTurnedAway request methodSize pathSize ∨
    (∀ b ∈ httpMethodRun request, httpLineEnd b = false) ∧
      (((∀ b ∈ httpPathRun request, httpLineEnd b = false) ∧ (httpPathRun request).length < pathSize) ∨
        (httpPathToken request).length + 1 = pathSize)

/-- Only the bytes before the first space can be the method of whole tokens. -/
theorem HttpWholeTokens.method_eq {request : List UInt8} {method path : Text}
    (h : HttpWholeTokens request method path) :
    method = httpMethodRun request ∧ request[(httpMethodRun request).length]? = some 32 := by
  obtain ⟨⟨rest, hopens, -⟩, hplain⟩ := h
  obtain ⟨tail, htail⟩ : httpFirstLine request <+: request := List.takeWhile_prefix _
  rw [hopens, List.append_assoc, List.cons_append] at htail
  have hmethod : httpMethodRun request = method := by
    rw [httpMethodRun, ← htail, List.takeWhile_append_of_pos fun b hb => by
      simpa using (hplain b (List.mem_append_left _ hb)).1]
    simp
  refine ⟨hmethod.symm, ?_⟩
  rw [hmethod, ← htail, List.getElem?_append_right (le_refl _), Nat.sub_self]
  rfl

/-- Where the first line is shorter than the text, a line end follows it. -/
theorem httpFirstLine_stop {run : List UInt8} {b : UInt8} (h : run[(httpFirstLine run).length]? = some b) :
    httpLineEnd b = true := by
  have hstop := List.head?_dropWhile_not (!httpLineEnd ·) run
  have hsplit : httpFirstLine run ++ run.dropWhile (!httpLineEnd ·) = run := List.takeWhile_append_dropWhile
  have hhead : (run.dropWhile (!httpLineEnd ·)).head? = some b := by
    rw [← h, List.head?_eq_getElem?]
    conv_rhs => rw [← hsplit, List.getElem?_append_right (by simp [hsplit])]
    simp [hsplit]
  rw [hhead] at hstop
  simpa using hstop

/-- An array holds the path token besides what was cut out of the request only if the two are the same. -/
theorem pathToken_eq_of_holds {request : List UInt8} {pathSize : Nat} {array : Vector UInt8 pathSize}
    (hcut : Holds array ((httpPathRun request).take (pathSize - 1)))
    (htoken : Holds array (httpPathToken request)) :
    (httpPathRun request).take (pathSize - 1) = httpPathToken request := by
  have hroom := htoken.length_lt
  rw [← httpFirstLine_pathRun] at *
  generalize httpPathRun request = run at *
  have hrun : httpFirstLine run <+: run := List.takeWhile_prefix _
  have hle := hrun.length_le
  rcases Nat.lt_or_ge (httpFirstLine run).length (run.take (pathSize - 1)).length with hlt | hge
  · -- the byte behind the token is stored as a zero, but is a line end
    have hzero := htoken.end_byte
    rw [hcut.byte hlt, List.getElem?_take_of_lt (by rw [List.length_take] at hlt; omega)] at hzero
    exact absurd (httpFirstLine_stop hzero) (by decide)
  · rw [List.length_take] at hge
    rw [List.prefix_iff_eq_take.mp hrun, List.take_eq_take_iff]
    omega

/-- Memory safety holds for every request; and what is returned as 1 is stored as whole tokens just for the
requests whose tokens fit. -/
theorem httpParseRequest_wholeTokens_iff {methodSize pathSize : Nat} (hmethod : 1 ≤ methodSize)
    (hpath : 1 ≤ pathSize) (request : List UInt8) (method : Vector UInt8 methodSize)
    (path : Vector UInt8 pathSize) :
    (∃ outcome, httpParseRequestChecked request method path = .ok outcome) ∧
      (HttpStoresWholeTokens request method path ↔ HttpTokensFit request methodSize pathSize) := by
  obtain ⟨result, method', path', hrun, hone, hholds⟩ :=
    httpParseRequestChecked_eq hmethod hpath request method path
  rw [httpParseRequest_eq request hmethod hpath] at hone hholds
  refine ⟨⟨_, hrun⟩, ?_⟩
  by_cases haway : HttpTurnedAway request methodSize pathSize
  · rw [if_pos haway] at hone
    exact iff_of_true ⟨result, method', path', hrun, fun h => absurd rfl (hone.mp h)⟩ (.inl haway)
  · rw [if_neg haway] at hone hholds
    obtain ⟨hholdsMethod, hholdsPath⟩ := hholds _ _ rfl
    have hspace : request[(httpMethodRun request).length]? = some 32 := by
      by_contra hnot
      exact haway (.inl fun hmem => hnot ((mem_take_takeWhile_iff request methodSize).mp hmem).2)
    have hfit : HttpTokensFit request methodSize pathSize ↔
        HttpWholeTokens request (httpMethodRun request) ((httpPathRun request).take (pathSize - 1)) := by
      rw [HttpTokensFit, or_iff_right haway, httpWholeTokens_iff hspace, take_pathRun_eq_iff request hpath]
    rw [hfit]
    constructor
    -- whatever whole tokens the arrays hold, they are those of the request
    · rintro ⟨result₁, method₁, path₁, hrun₁, hwhole⟩
      obtain ⟨rfl, rfl, rfl⟩ : result = result₁ ∧ method' = method₁ ∧ path' = path₁ := by
        simpa using hrun.symm.trans hrun₁
      obtain ⟨m, p, htokens, -, hp⟩ := hwhole (hone.mpr (by simp))
      obtain ⟨rfl, -⟩ := htokens.method_eq
      have hpath_eq := ((httpWholeTokens_iff hspace p).mp htokens).2
      rw [pathToken_eq_of_holds hholdsPath (hpath_eq ▸ hp), ← hpath_eq]
      exact htokens
    · exact fun htokens =>
        ⟨result, method', path', hrun, fun _ => ⟨_, _, htokens, hholdsMethod, hholdsPath⟩⟩

/-- A whole request line and the two buffers of the server. -/
theorem httpParseRequest_wholeTokens_iff_get :
    (∃ outcome, httpParseRequestChecked (text "GET /index.html HTTP/1.1\r\n") (Vector.replicate 16 0)
        (Vector.replicate 512 0) = .ok outcome) ∧
      (HttpStoresWholeTokens (text "GET /index.html HTTP/1.1\r\n") (Vector.replicate 16 0)
          (Vector.replicate 512 0) ↔
        HttpTokensFit (text "GET /index.html HTTP/1.1\r\n") 16 512) :=
  httpParseRequest_wholeTokens_iff (by decide) (by decide) _ _ _

/-- `GET /`, CR, LF, `H`: a request line without a version, and the first byte of a header field. -/
def versionlessRequest : List UInt8 :=
  [71, 69, 84, 32, 47, 13, 10, 72]

/-- Its path goes on through the line end into the header field. -/
theorem httpParseRequest_not_wholeTokens :
    ¬ HttpStoresWholeTokens versionlessRequest (Vector.replicate 16 0) (Vector.replicate 512 0) := by
  rintro ⟨result₁, method₁, path₁, hrun₁, hwhole⟩
  obtain ⟨result, method', path', hrun, hone, hholds⟩ := httpParseRequestChecked_eq (by decide) (by decide)
    versionlessRequest (Vector.replicate 16 0) (Vector.replicate 512 0)
  obtain ⟨rfl, rfl, rfl⟩ : result = result₁ ∧ method' = method₁ ∧ path' = path₁ := by
    simpa using hrun.symm.trans hrun₁
  obtain ⟨m, p, htokens, -, hp⟩ := hwhole (hone.mpr (by decide))
  obtain ⟨rfl, hspace⟩ := htokens.method_eq
  have hpath : p = httpPathToken versionlessRequest :=
    ((httpWholeTokens_iff hspace p).mp htokens).2
  exact absurd (pathToken_eq_of_holds (hholds [71, 69, 84] [47, 13, 10, 72] (by decide)).2 (hpath ▸ hp))
    (by decide)

end MagiStack
