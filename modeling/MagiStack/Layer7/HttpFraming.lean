import MagiStack.Layer7.HttpRequest

/-!
# HttpFraming — where a response ends

A client takes the lines up to the first empty one for the head, and what follows for the body; how long
that is the head has said before the body is copied.  `http_build_response` leaves out a body that does not
fit and still returns `1`.
-/

namespace MagiStack

/-! ## The client -/

/-- The lines up to the first empty one, and the bytes after it; `line` is what has been read of the current
line. -/
def httpSplit (line : Text) : List UInt8 → Option (List Text × List UInt8)
  | [] => none
  | 13 :: 10 :: rest =>
      if line = [] then some ([], rest)
      else (httpSplit [] rest).map fun message => (line :: message.1, message.2)
  | c :: rest => httpSplit (line ++ [c]) rest

/-- The number in the `Content-Length` line. -/
def httpContentLength (lines : List Text) : Option Nat :=
  (lines.find? fun line => (text "Content-Length: ").isPrefixOf line).map fun line =>
    digitsValue (line.drop (text "Content-Length: ").length)

/-- Nothing in a text ends a line. -/
def OneLine (t : Text) : Prop :=
  ∀ c ∈ t, c ≠ 13 ∧ c ≠ 10

theorem OneLine.append {t u : Text} (ht : OneLine t) (hu : OneLine u) : OneLine (t ++ u) := fun c hc =>
  (List.mem_append.mp hc).elim (ht c) (hu c)

theorem oneLine_text {s : String} (h : (text s).all (fun c => c != 13 && c != 10) = true) :
    OneLine (text s) := by
  intro c hc
  simpa using List.all_eq_true.mp h c hc

theorem oneLine_printNat (n : Nat) : OneLine (printNat n) := by
  intro c hc
  have hdigit := printNat_isDigit n c hc
  constructor
  · rintro rfl
    exact absurd hdigit (by decide)
  · rintro rfl
    exact absurd hdigit (by decide)

theorem oneLine_printInt (n : Int) : OneLine (printInt n) := by
  cases n with
  | ofNat n => exact oneLine_printNat n
  | negSucc n =>
      intro c hc
      rcases List.mem_cons.mp hc with rfl | hc
      · exact ⟨by decide, by decide⟩
      · exact oneLine_printNat (n + 1) c hc

theorem httpSplit_cons {c : UInt8} (hc : c ≠ 13) (line : Text) (rest : List UInt8) :
    httpSplit line (c :: rest) = httpSplit (line ++ [c]) rest := by
  rw [httpSplit]
  rintro left hreturn -
  exact absurd hreturn hc

/-- A line is read to its end. -/
theorem httpSplit_line {t : Text} (h : OneLine t) (line : Text) (rest : List UInt8) :
    httpSplit line (t ++ 13 :: 10 :: rest) = httpSplit (line ++ t) (13 :: 10 :: rest) := by
  induction t generalizing line with
  | nil => rw [List.append_nil, List.nil_append]
  | cons c t ih =>
      rw [List.cons_append, httpSplit_cons (h c List.mem_cons_self).1,
        ih fun d hd => h d (List.mem_cons_of_mem c hd), List.append_assoc]
      rfl

/-- Lines, each with its end. -/
def httpLines (lines : List Text) : List UInt8 :=
  lines.flatMap fun line => line ++ text "\r\n"

/-- Lines that are not empty are read one by one, up to the empty one. -/
theorem httpSplit_lines {lines : List Text} (h : ∀ line ∈ lines, OneLine line ∧ line ≠ [])
    (body : List UInt8) : httpSplit [] (httpLines lines ++ (text "\r\n" ++ body)) = some (lines, body) := by
  induction lines with
  | nil => rfl
  | cons line lines ih =>
      obtain ⟨hline, hne⟩ := h line List.mem_cons_self
      have hrest := ih fun other hmem => h other (List.mem_cons_of_mem line hmem)
      have hfirst : httpLines (line :: lines) ++ (text "\r\n" ++ body) =
          line ++ 13 :: 10 :: (httpLines lines ++ (text "\r\n" ++ body)) := by
        rw [httpLines, List.flatMap_cons, ← httpLines, List.append_assoc, List.append_assoc]
        rfl
      -- The line is not empty, so that the head goes on behind it.
      rw [hfirst, httpSplit_line hline, List.nil_append, httpSplit, if_neg hne, hrest]
      rfl

/-! ## The head -/

/-- The lines of the head. -/
def httpHeadLines (statusCode : Int) (statusText contentType : Text) (bodyLen : Nat) : List Text :=
  [text "HTTP/1.1 " ++ (printInt statusCode ++ (text " " ++ statusText)), text "Content-Type: " ++ contentType,
    text "Content-Length: " ++ printNat bodyLen, text "Server: MagiSystem/1.0", text "Connection: close"]

/-- The length of the head. -/
def httpHeadSize (statusCode : Int) (statusText contentType : Text) (bodyLen : Nat) : Nat :=
  91 + (printInt statusCode).length + statusText.length + contentType.length + (printNat bodyLen).length

section Head

variable (statusCode : Int) (statusText contentType : Text) (bodyLen : Nat)

theorem httpResponseHead_eq : httpResponseHead statusCode statusText contentType bodyLen =
    httpLines (httpHeadLines statusCode statusText contentType bodyLen) ++ text "\r\n" := by
  have hserver : text "Server: MagiSystem/1.0\r\n" = text "Server: MagiSystem/1.0" ++ text "\r\n" := by
    decide +kernel
  have hconnection : text "Connection: close\r\n" = text "Connection: close" ++ text "\r\n" := by
    decide +kernel
  rw [httpResponseHead, httpLines, httpHeadLines, hserver, hconnection]
  simp only [List.flatMap_cons, List.flatMap_nil, List.append_assoc, List.append_nil]

theorem httpResponseHead_length : (httpResponseHead statusCode statusText contentType bodyLen).length =
    httpHeadSize statusCode statusText contentType bodyLen := by
  rw [httpResponseHead, httpHeadSize]
  simp [text]
  omega

/-- The length that the head promises is found in it. -/
theorem httpContentLength_headLines :
    httpContentLength (httpHeadLines statusCode statusText contentType bodyLen) = some bodyLen := by
  have hfind : (httpHeadLines statusCode statusText contentType bodyLen).find? (fun line =>
      (text "Content-Length: ").isPrefixOf line) = some (text "Content-Length: " ++ printNat bodyLen) := rfl
  rw [httpContentLength, hfind, Option.map_some, List.drop_left, digitsValue_printNat]

variable {statusText contentType}

/-- A client finds the lines of the head, and takes what follows them for the body. -/
theorem httpSplit_response (hstatus : OneLine statusText) (hcontent : OneLine contentType)
    (body : List UInt8) :
    httpSplit [] (httpResponseHead statusCode statusText contentType bodyLen ++ body) =
      some (httpHeadLines statusCode statusText contentType bodyLen, body) := by
  rw [httpResponseHead_eq, List.append_assoc]
  refine httpSplit_lines ?_ body
  rw [httpHeadLines]
  simp only [List.forall_mem_cons, List.not_mem_nil, false_imp_iff, implies_true, and_true]
  refine ⟨⟨?_, ?_⟩, ⟨?_, ?_⟩, ⟨?_, ?_⟩, ⟨?_, ?_⟩, ?_, ?_⟩
  · exact (oneLine_text rfl).append ((oneLine_printInt statusCode).append ((oneLine_text rfl).append hstatus))
  · exact List.cons_ne_nil _ _
  · exact (oneLine_text rfl).append hcontent
  · exact List.cons_ne_nil _ _
  · exact (oneLine_text rfl).append (oneLine_printNat bodyLen)
  · exact List.cons_ne_nil _ _
  · exact oneLine_text rfl
  · exact List.cons_ne_nil _ _
  · exact oneLine_text rfl
  · exact List.cons_ne_nil _ _

end Head

/-! ## Responses -/

/-- A response in which a client finds the body, as long as its head says. -/
structure FramedTruthfully (maxRespLen : Nat) (body response : List UInt8) : Prop where
  length_le : response.length ≤ maxRespLen
  message : ∃ lines, httpSplit [] response = some (lines, body) ∧ httpContentLength lines = some body.length

section Response

variable (statusCode : Int) {statusText : Text} {contentType : Option Text} (body : Option (List UInt8))
variable (maxRespLen : Nat)

/-- The length of the head of a response. -/
def httpSize (statusText : Text) (contentType : Option Text) : Nat :=
  httpHeadSize statusCode statusText (contentType.getD (text "text/html")) (body.getD []).length

/-- `http_build_response` frames what it builds, and builds nothing that does not fit. -/
structure BuildsTruthfully (statusText : Text) (contentType : Option Text) : Prop where
  framed : ∀ response, httpBuildResponse statusCode statusText contentType body maxRespLen = some response →
    FramedTruthfully maxRespLen (body.getD []) response
  refused : maxRespLen < httpSize statusCode body statusText contentType + (body.getD []).length →
    httpBuildResponse statusCode statusText contentType body maxRespLen = none

theorem httpBuildResponse_eq : httpBuildResponse statusCode statusText contentType body maxRespLen =
    if 2 ^ 31 ≤ httpSize statusCode body statusText contentType ∨
        maxRespLen ≤ httpSize statusCode body statusText contentType then none
    else if 0 < (body.getD []).length ∧
        httpSize statusCode body statusText contentType + (body.getD []).length < maxRespLen then
      some (httpResponseHead statusCode statusText (contentType.getD (text "text/html"))
        (body.getD []).length ++ body.getD [])
    else
      some (httpResponseHead statusCode statusText (contentType.getD (text "text/html"))
        (body.getD []).length) := by
  rw [httpBuildResponse]
  simp only [httpResponseHead_length]
  rfl

variable {body maxRespLen}

theorem oneLine_contentType (hcontent : ∀ t ∈ contentType, OneLine t) :
    OneLine (contentType.getD (text "text/html")) := by
  cases contentType with
  | none => exact oneLine_text rfl
  | some t => exact hcontent t rfl

/-- The head with the body behind it is framed where it fits. -/
theorem framedTruthfully_of_le (hstatus : OneLine statusText) (hcontent : ∀ t ∈ contentType, OneLine t)
    (hfits : httpSize statusCode body statusText contentType + (body.getD []).length ≤ maxRespLen) :
    FramedTruthfully maxRespLen (body.getD [])
      (httpResponseHead statusCode statusText (contentType.getD (text "text/html")) (body.getD []).length ++
        body.getD []) := by
  refine ⟨?_, _, httpSplit_response statusCode _ hstatus (oneLine_contentType hcontent) _,
    httpContentLength_headLines _ _ _ _⟩
  rw [List.length_append, httpResponseHead_length]
  exact hfits

/-- A head that is built alone promises a body that is not there. -/
theorem not_framedTruthfully_head (hstatus : OneLine statusText) (hcontent : ∀ t ∈ contentType, OneLine t)
    (hbody : body.getD [] ≠ []) :
    ¬ FramedTruthfully maxRespLen (body.getD [])
      (httpResponseHead statusCode statusText (contentType.getD (text "text/html"))
        (body.getD []).length) := by
  rintro ⟨-, lines, hlines, -⟩
  -- A client finds nothing behind the blank line.
  have hempty := httpSplit_response statusCode (body.getD []).length hstatus (oneLine_contentType hcontent) []
  rw [List.append_nil, hlines] at hempty
  exact hbody (congrArg Prod.snd (Option.some.inj hempty))

/-- The body is empty, or fits with the head, or the head does not fit itself. -/
def HttpRoom (statusCode : Int) (body : Option (List UInt8)) (maxRespLen : Nat) (statusText : Text)
    (contentType : Option Text) : Prop :=
  body.getD [] = [] ∨ httpSize statusCode body statusText contentType + (body.getD []).length < maxRespLen ∨
    maxRespLen ≤ httpSize statusCode body statusText contentType ∨
    2 ^ 31 ≤ httpSize statusCode body statusText contentType

theorem HttpRoom.buildsTruthfully (h : HttpRoom statusCode body maxRespLen statusText contentType)
    (hstatus : OneLine statusText) (hcontent : ∀ t ∈ contentType, OneLine t) :
    BuildsTruthfully statusCode body maxRespLen statusText contentType := by
  constructor
  · intro response hbuilt
    rw [httpBuildResponse_eq] at hbuilt
    split_ifs at hbuilt with hrefused hfits
    · cases hbuilt
      exact framedTruthfully_of_le statusCode hstatus hcontent hfits.2.le
    · -- The head was built alone, as it may be when the body is empty.
      cases hbuilt
      have hempty : body.getD [] = [] := by
        rcases h with hempty | hlong
        · exact hempty
        · rw [← List.length_eq_zero_iff]
          omega
      have hlength : (body.getD []).length = 0 := by
        rw [hempty]
        rfl
      have hframed := framedTruthfully_of_le statusCode hstatus hcontent
        (show httpSize statusCode body statusText contentType + (body.getD []).length ≤ maxRespLen by omega)
      rw [hempty] at hframed ⊢
      rwa [List.append_nil] at hframed
  · intro hlong
    rw [httpBuildResponse_eq]
    rcases h with hempty | hfits | hroom | hint
    · rw [hempty, List.length_nil] at hlong
      rw [if_pos (Or.inr (by omega))]
    · omega
    · rw [if_pos (Or.inr hroom)]
    · rw [if_pos (Or.inl hint)]

/-- A response is framed truthfully, or refused, unless there is room for its head but not for its body. -/
theorem httpBuildResponse_truthful_iff (hstatus : OneLine statusText) (hcontent : ∀ t ∈ contentType, OneLine t)
    (body : Option (List UInt8)) (maxRespLen : Nat) :
    BuildsTruthfully statusCode body maxRespLen statusText contentType ↔
      HttpRoom statusCode body maxRespLen statusText contentType := by
  constructor
  · intro h
    by_contra hband
    simp only [HttpRoom, not_or, not_lt, not_le] at hband
    obtain ⟨hbody, hlong, hroom, hint⟩ := hband
    -- The head alone is built.
    have hbuilt := @httpBuildResponse_eq statusCode statusText contentType body maxRespLen
    rw [if_neg (by omega), if_neg (by omega)] at hbuilt
    exact not_framedTruthfully_head statusCode hstatus hcontent hbody (h.framed _ hbuilt)
  · intro h
    exact h.buildsTruthfully statusCode hstatus hcontent

end Response

theorem httpBuildResponse_truthful_ok :
    BuildsTruthfully 200 (some (text "Hello")) 4096 (text "OK") (some (text "text/plain")) :=
  (httpBuildResponse_truthful_iff 200 (oneLine_text rfl) (fun _ h => Option.some.inj h ▸ oneLine_text rfl)
    (some (text "Hello")) 4096).mpr (Or.inr (Or.inl (by decide +kernel)))

/-- In a buffer that has room for the head but not for all of the body, the head promises five bytes and
ends the response. -/
theorem httpBuildResponse_truthful_short :
    OneLine (text "OK") ∧ OneLine (text "text/plain") ∧
      httpBuildResponse 200 (text "OK") (some (text "text/plain")) (some (text "Hello")) 110 =
        some (httpResponseHead 200 (text "OK") (text "text/plain") 5) ∧
      ¬ BuildsTruthfully 200 (some (text "Hello")) 110 (text "OK") (some (text "text/plain")) := by
  have hbuilt : httpBuildResponse 200 (text "OK") (some (text "text/plain")) (some (text "Hello")) 110 =
      some (httpResponseHead 200 (text "OK") (text "text/plain") 5) := by
    decide +kernel
  have hstatus : OneLine (text "OK") := oneLine_text rfl
  have htype : OneLine (text "text/plain") := oneLine_text rfl
  refine ⟨hstatus, htype, hbuilt, fun h => ?_⟩
  obtain ⟨-, lines, hlines, -⟩ := h.framed _ hbuilt
  have hempty := httpSplit_response 200 5 hstatus htype []
  rw [List.append_nil, hlines] at hempty
  have hbody : text "Hello" = [] := congrArg Prod.snd (Option.some.inj hempty)
  exact absurd hbody (by decide)

end MagiStack
