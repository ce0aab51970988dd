import MagiStack.Core.Text
import MagiStack.Layer7.HttpServer
import Mathlib.Data.List.TakeWhile

/-!
# HttpRequest — what the HTTP server answers

Embedding of `http_parse_request`, `http_build_response`, `http_serve_default` and
`http_server_handle_request` of `layer7/http_server.c`, the answer the dispatcher sends.  A request is
judged by its method and by whether a path follows; the rest of it, the path included, does not reach the
response.
-/

namespace MagiStack

/-! ## Parsing -/

/-- `http_parse_request` with the sizes of the arrays for the method and the path. -/
def httpParseRequest (request : List UInt8) (methodSize pathSize : Nat) : Option (Text × Text) :=
  let method := (request.takeWhile (· != 32)).take (methodSize - 1)
  match request.drop method.length with
  | 32 :: rest =>
      let path := (rest.takeWhile (· != 32)).take (pathSize - 1)
      if path.isEmpty then none else some (method, path)
  | _ => none

/-- `strcmp` with a literal: what follows a zero byte does not count. -/
def strcmpEqual (array : List UInt8) (literal : Text) : Bool :=
  array.takeWhile (· != 0) == literal

/-! ## Responses -/

/-- What `http_build_response` prints before the body. -/
def httpResponseHead (statusCode : Int) (statusText contentType : Text) (bodyLen : Nat) : Text :=
  text "HTTP/1.1 " ++ printInt statusCode ++ text " " ++ statusText ++ text "\r\n" ++
    text "Content-Type: " ++ contentType ++ text "\r\n" ++
    text "Content-Length: " ++ printNat bodyLen ++ text "\r\n" ++
    text "Server: MagiSystem/1.0\r\n" ++ text "Connection: close\r\n" ++ text "\r\n"

/-- `http_build_response`; a body that does not fit is left out. -/
def httpBuildResponse (statusCode : Int) (statusText : Text) (contentType body : Option Text)
    (maxRespLen : Nat) : Option (List UInt8) :=
  let body := body.getD []
  let head := httpResponseHead statusCode statusText (contentType.getD (text "text/html")) body.length
  -- `snprintf` returns a negative `int` when the length does not fit one.
  if 2 ^ 31 ≤ head.length ∨ maxRespLen ≤ head.length then
    none
  else if 0 < body.length ∧ head.length + body.length < maxRespLen then
    some (head ++ body)
  else
    some head

/-- The page of `http_serve_default`. -/
def httpDefaultPage : Text :=
  [ "<!DOCTYPE html>\n",
    "<html lang=\"en\">\n",
    "<head>\n",
    "  <meta charset=\"UTF-8\">\n",
    "  <meta name=\"viewport\" content=\"width=device-width, initial-scale=1.0\">\n",
    "  <title>Magi System HTTP Server</title>\n",
    "  <style>\n",
    "    body \x7b font-family: 'Segoe UI', Arial, sans-serif; margin: 0; padding: 0; ",
    "           background: linear-gradient(135deg, #0a0a2e 0%, #1a1a4e 50%, #0a0a2e 100%);\n",
    "           color: #e0e0ff; min-height: 100vh; display: flex; justify-content: center; ",
    "           align-items: center; \x7d\n",
    "    .container \x7b text-align: center; padding: 40px; border: 1px solid #4a4a8a; ",
    "                 border-radius: 15px; background: rgba(10, 10, 46, 0.8); ",
    "                 box-shadow: 0 0 40px rgba(74, 74, 138, 0.3); max-width: 600px; \x7d\n",
    "    h1 \x7b color: #7f7fff; font-size: 2.5em; margin-bottom: 10px; ",
    "         text-shadow: 0 0 20px rgba(127, 127, 255, 0.5); \x7d\n",
    "    p \x7b font-size: 1.1em; line-height: 1.6; color: #b0b0d0; \x7d\n",
    "    .status \x7b color: #00ff88; font-size: 1.2em; margin: 20px 0; \x7d\n",
    "    .footer \x7b margin-top: 30px; font-size: 0.85em; color: #6a6a8a; \x7d\n",
    "    .badge \x7b display: inline-block; padding: 5px 15px; border-radius: 20px; ",
    "             background: rgba(0, 255, 136, 0.1); border: 1px solid #00ff88; ",
    "             color: #00ff88; font-size: 0.9em; margin: 10px 0; \x7d\n",
    "  </style>\n",
    "</head>\n",
    "<body>\n",
    "  <div class=\"container\">\n",
    "    <h1>Welcome to Magi System!</h1>\n",
    "    <div class=\"badge\">HTTP/1.1 200 OK</div>\n",
    "    <p>This is the default page served by the Magi System HTTP Server.</p>\n",
    "    <div class=\"status\">&#10003; Connection Established</div>\n",
    "    <div class=\"footer\">Magi System v1.0 | NERV Simulation Framework</div>\n",
    "  </div>\n",
    "</body>\n",
    "</html>\n" ].flatMap text

theorem httpDefaultPage_length : httpDefaultPage.length = 1616 := by
  rw [httpDefaultPage]
  simp only [List.flatMap_cons, List.flatMap_nil]
  repeat rw [text_ofList]
  decide +kernel

/-- `http_serve_default`; the path is ignored. -/
def httpServeDefault (_path : Text) (maxRespLen : Nat) : Option (List UInt8) :=
  httpBuildResponse 200 (text "OK") (some (text "text/html; charset=utf-8")) (some httpDefaultPage)
    maxRespLen

/-- `http_server_handle_request`, with `char method[16]` and `char path[512]`. -/
def httpServerHandleRequest (request : List UInt8) (maxRespLen : Nat) : Option (List UInt8) :=
  match httpParseRequest request 16 512 with
  | none =>
      httpBuildResponse 400 (text "Bad Request") (some (text "text/plain")) (some (text "Bad Request"))
        maxRespLen
  | some (method, path) =>
      if strcmpEqual method (text "GET") then
        httpServeDefault path maxRespLen
      else if strcmpEqual method (text "HEAD") then
        httpBuildResponse 200 (text "OK") (some (text "text/html")) none maxRespLen
      else
        httpBuildResponse 405 (text "Method Not Allowed") (some (text "text/plain"))
          (some (text "Method Not Allowed")) maxRespLen

/-! ## A request in parts -/

/-- What is accepted: a method, a space, and the first byte of a path. -/
theorem httpParseRequest_eq_some {request : List UInt8} {methodSize pathSize : Nat} {method path : Text}
    (h : httpParseRequest request methodSize pathSize = some (method, path)) :
    ∃ byte rest, request = method ++ 32 :: byte :: rest ∧ (∀ c ∈ method, c ≠ 32) ∧
      method.length ≤ methodSize - 1 ∧ byte ≠ 32 ∧ 0 < pathSize - 1 := by
  rw [httpParseRequest] at h
  dsimp only at h
  split at h
  · rename_i rest hrest
    split at h
    · cases h
    · rename_i hpath
      rw [Option.some.injEq, Prod.mk.injEq] at h
      obtain ⟨rfl, rfl⟩ := h
      have hprefix : (request.takeWhile (· != 32)).take (methodSize - 1) <+: request :=
        (List.take_prefix _ _).trans (List.takeWhile_prefix _)
      have hsplit := List.prefix_iff_eq_append.mp hprefix
      rw [hrest] at hsplit
      have hnonempty : rest.takeWhile (· != 32) ≠ [] ∧ pathSize - 1 ≠ 0 := by
        rw [List.isEmpty_iff, List.take_eq_nil_iff, not_or] at hpath
        exact ⟨hpath.2, hpath.1⟩
      cases rest with
      | nil => exact absurd rfl hnonempty.1
      | cons byte rest =>
          refine ⟨byte, rest, hsplit.symm, ?_, List.length_take_le _ _, ?_,
            Nat.pos_of_ne_zero hnonempty.2⟩
          · intro c hc
            have hmem := List.mem_takeWhile_imp (List.mem_of_mem_take hc)
            exact bne_iff_ne.mp hmem
          · rintro rfl
            exact hnonempty.1 rfl
  · cases h

/-- A method, a space and the first byte of a path are accepted, whatever follows. -/
theorem httpParseRequest_of_method {method : Text} {methodSize pathSize : Nat} {byte : UInt8}
    (hmethod : ∀ c ∈ method, c ≠ 32) (hlen : method.length ≤ methodSize - 1) (hbyte : byte ≠ 32)
    (hpath : 0 < pathSize - 1) (rest : List UInt8) :
    ∃ path, httpParseRequest (method ++ 32 :: byte :: rest) methodSize pathSize =
      some (method, path) := by
  have hword : (method ++ 32 :: byte :: rest).takeWhile (· != 32) = method := by
    rw [List.takeWhile_append_of_pos fun c hc => bne_iff_ne.mpr (hmethod c hc)]
    exact List.append_nil method
  rw [httpParseRequest, hword, List.take_of_length_le hlen, List.drop_left]
  dsimp only
  refine ⟨_, if_neg ?_⟩
  rw [List.isEmpty_iff, List.take_eq_nil_iff, not_or]
  refine ⟨hpath.ne', ?_⟩
  rw [List.takeWhile_cons_of_pos (p := (· != 32)) (bne_iff_ne.mpr hbyte)]
  exact List.cons_ne_nil _ _

/-- Once a request is accepted, more bytes do not change its method. -/
theorem httpParseRequest_append {request : List UInt8} {methodSize pathSize : Nat} {method path : Text}
    (h : httpParseRequest request methodSize pathSize = some (method, path)) (more : List UInt8) :
    ∃ path', httpParseRequest (request ++ more) methodSize pathSize = some (method, path') := by
  obtain ⟨byte, rest, rfl, hmethod, hlen, hbyte, hpath⟩ := httpParseRequest_eq_some h
  obtain ⟨path', hparse⟩ := httpParseRequest_of_method hmethod hlen hbyte hpath (rest ++ more)
  refine ⟨path', ?_⟩
  rw [← hparse, List.append_assoc]
  rfl

/-! ## The answer -/

/-- The answer to what is no request. -/
def httpBadRequest : List UInt8 :=
  (httpServerHandleRequest [] httpBufferSize).getD []

/-- What the server answers: at most the size of the send buffer, and refusing exactly what it cannot
parse. -/
structure HttpAnswer (request response : List UInt8) : Prop where
  handled : httpServerHandleRequest request httpBufferSize = some response
  nonempty : response ≠ []
  fits : response.length ≤ tcpSocketBufferSize
  refused : response = httpBadRequest ↔ httpParseRequest request 16 512 = none

theorem HttpAnswer.of_accepted {request : List UInt8} {parsed : Text × Text}
    (hparse : httpParseRequest request 16 512 = some parsed)
    (h : (httpServerHandleRequest request httpBufferSize).any (fun response =>
      response ≠ [] ∧ response.length ≤ tcpSocketBufferSize ∧ response ≠ httpBadRequest) = true) :
    ∃ response, HttpAnswer request response := by
  rw [Option.any_eq_true] at h
  obtain ⟨response, hhandled, hfields⟩ := h
  obtain ⟨hnonempty, hfits, hnot⟩ := of_decide_eq_true hfields
  refine ⟨response, hhandled, hnonempty, hfits, iff_of_false hnot ?_⟩
  rw [hparse]
  exact Option.some_ne_none _

/-- A page as long as the default one is sent, and the response differs from a refusal in its status. -/
theorem httpBuildResponse_default {page : List UInt8} (hpage : page.length = 1616) :
    (httpBuildResponse 200 (text "OK") (some (text "text/html; charset=utf-8")) (some page) httpBufferSize).any
      (fun response => response ≠ [] ∧ response.length ≤ tcpSocketBufferSize ∧ response ≠ httpBadRequest) =
        true := by
  have hlength : (httpResponseHead 200 (text "OK") (text "text/html; charset=utf-8") 1616).length = 124 := by
    decide +kernel
  have hok : (httpResponseHead 200 (text "OK") (text "text/html; charset=utf-8") 1616)[9]? = some 50 := by
    decide +kernel
  have hbad : httpBadRequest[9]? = some 52 := by
    decide +kernel
  rw [httpBuildResponse]
  simp only [Option.getD_some, hpage]
  generalize httpResponseHead 200 (text "OK") (text "text/html; charset=utf-8") 1616 = head at hlength hok ⊢
  rw [hlength, httpBufferSize, if_neg (by decide), if_pos (by decide), Option.any_some, decide_eq_true_iff]
  refine ⟨?_, ?_, fun hsame => ?_⟩
  · exact List.append_ne_nil_of_left_ne_nil (List.ne_nil_of_length_pos (by omega)) _
  · rw [List.length_append, hlength, hpage]
    decide
  · have hstatus := congrArg (fun response => response[9]?) hsame
    rw [List.getElem?_append_left (by omega), hok, hbad] at hstatus
    cases hstatus

theorem httpServerHandleRequest_answer (request : List UInt8) :
    ∃ response, HttpAnswer request response := by
  cases hparse : httpParseRequest request 16 512 with
  | none =>
      have hbad : httpServerHandleRequest [] httpBufferSize = some httpBadRequest ∧
          httpBadRequest ≠ [] ∧ httpBadRequest.length ≤ tcpSocketBufferSize := by
        decide +kernel
      obtain ⟨hbad, hnonempty, hfits⟩ := hbad
      have hsame : httpServerHandleRequest request httpBufferSize =
          httpServerHandleRequest [] httpBufferSize := by
        rw [httpServerHandleRequest, hparse]
        rfl
      exact ⟨httpBadRequest, hsame.trans hbad, hnonempty, hfits, iff_of_true rfl hparse⟩
  | some parsed =>
      refine HttpAnswer.of_accepted hparse ?_
      rw [httpServerHandleRequest, hparse]
      dsimp only
      split
      · rw [httpServeDefault]
        exact httpBuildResponse_default httpDefaultPage_length
      · split
        · decide +kernel
        · decide +kernel

/-- The first bytes of a request are answered as all of them are if and only if the request is refused, or
they are accepted already. -/
theorem HttpAnswer.append_eq_iff {request more first whole : List UInt8}
    (hfirst : HttpAnswer request first) (hwhole : HttpAnswer (request ++ more) whole) :
    first = whole ↔ httpParseRequest (request ++ more) 16 512 = none ∨
      (httpParseRequest request 16 512).isSome = true := by
  cases hparse : httpParseRequest request 16 512 with
  | none =>
      have hrefused := hfirst.refused.mpr hparse
      rw [hrefused, eq_comm, hwhole.refused]
      simp
  | some parsed =>
      obtain ⟨method, path⟩ := parsed
      obtain ⟨path', hmore⟩ := httpParseRequest_append hparse more
      refine iff_of_true ?_ (Or.inr rfl)
      have hsame : httpServerHandleRequest (request ++ more) httpBufferSize =
          httpServerHandleRequest request httpBufferSize := by
        rw [httpServerHandleRequest, httpServerHandleRequest, hparse, hmore]
        rfl
      rw [hwhole.handled, hfirst.handled] at hsame
      exact (Option.some.inj hsame).symm

end MagiStack
