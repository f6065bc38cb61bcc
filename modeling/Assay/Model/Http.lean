import Assay.Json.Reader
import Assay.Model.Basic
import Assay.Model.Url
import Assay.Text.Base64
import Assay.Text.Encoding

/-!
# Models behind an HTTP endpoint

A completions endpoint is asked by a POST request with a JSON body, and answers with a JSON object
whose `choices` hold the completions. Sending a request and receiving its response is left to a
transport, so what is sent and how responses are understood can be told without a network.
-/

namespace Assay.Http

/-! ## Messages -/

/-- A request for completions. -/
structure Request where
  method : String
  url : Url
  /-- What tells who asks; the address and the key may both do so. -/
  authorizations : List String
  contentType : String
  body : String
  deriving DecidableEq, Repr

/-- The first line of a request. -/
def Request.line (r : Request) : String :=
  r.method ++ " " ++ r.url.target ++ " HTTP/1.1"

/-- What a server answers. -/
structure Response where
  status : Nat
  body : List UInt8
  deriving DecidableEq, Repr

/-- A way to send requests; its failures are those of the network. -/
abbrev Transport (m : Type → Type) := Request → m (Except Failure Response)

/-- Where and as whom a model is asked. -/
structure Endpoint where
  url : String
  model : String
  key : Option String
  deriving DecidableEq, Repr

namespace Endpoint

/-- A text without the slashes at its end. -/
def trimSlashes (text : String) : String :=
  String.ofList (text.toList.reverse.dropWhile (· == '/')).reverse

/-- The endpoint below the root of an interface, without a key. -/
def ofBase (base model : String) : Endpoint :=
  ⟨trimSlashes base ++ "/completions", model, none⟩

end Endpoint

/-! ## Requests -/

/-- Whether a character may stand in a header. -/
def inHeader (c : Char) : Bool :=
  c == '\t' || (decide (0x20 ≤ c.toNat) && decide (c.toNat ≠ 0x7F))

/-- The body of a request for a call. -/
def bodyOf (e : Endpoint) (call : Call) : Json :=
  .obj [
    ("max_tokens", .num (.int call.maxLength)),
    ("model", .str e.model),
    ("n", .num (.int call.samples)),
    ("prompt", .str call.prompt),
    ("stop", .arr (call.stop.map .str)),
    ("temperature", .num (.float 0))]

/-- The authorization that the credentials of an address give. -/
def basicAuthorization (c : Credentials) : String :=
  "Basic " ++ String.ofList (Text.Base64.encode (c.user ++ ":" ++ c.password.getD "").toUTF8.toList)

/-- The authorization that a key gives. -/
def bearerAuthorization (key : String) : Except (List String) String :=
  if key.toList.all inHeader then .ok ("Bearer " ++ key)
  else .error ["builder error", "failed to parse header value"]

/-- The authorizations of a request: that of the address first. -/
def authorizationsOf (url : Url) (key : Option String) : Except (List String) (List String) := do
  let basic := (url.credentials.map basicAuthorization).toList
  match key with
  | none => .ok basic
  | some key => do .ok (basic ++ [← bearerAuthorization key])

/-- The request for a call, or the chain that tells why there is none. -/
def requestOf (e : Endpoint) (call : Call) : Except (List String) Request := do
  let url ← (Url.parse e.url).mapError UrlError.causes
  let authorizations ← authorizationsOf url e.key
  if url.isWeb then .ok ⟨"POST", url, authorizations, "application/json", (bodyOf e call).compact⟩
  else .error (UrlError.badScheme url.text).causes

/-! ## Responses -/

/-- The number of bytes after which a string ends that was begun before some bytes, if it ends. -/
def stringEnd : List UInt8 → Option Nat
  | [] => none
  | b :: rest =>
    if b.toNat = 0x22 then some 1
    else if b.toNat = 0x5C then
      match rest with
      | [] => none
      | _ :: rest => (stringEnd rest).map (· + 2)
    else (stringEnd rest).map (· + 1)

/-- The line and the column after some bytes. -/
def placeAfter (bytes : List UInt8) : String :=
  let line := (bytes.filter (·.toNat == 10)).length + 1
  let column := (bytes.reverse.takeWhile (·.toNat != 10)).length
  " at line " ++ toString line ++ " column " ++ toString column

/-- The longest beginning of some bytes that is text. -/
def textBefore (bytes : List UInt8) : List Char :=
  ((Text.Utf8.units bytes).takeWhile Option.isSome).filterMap id

/-- What is wrong with bytes that are no text: inside a string they are faulty characters, and
elsewhere they are no part of a document. -/
def faultOfBytes (bytes : List UInt8) : String :=
  let before := textBefore bytes
  let read := Json.byteSize before
  match Json.parse before with
  | .error ⟨.endInString, _⟩ =>
    match stringEnd (bytes.drop read) with
    | some count => "invalid unicode code point" ++ placeAfter (bytes.take (read + count))
    | none => Json.Reason.endInString.message ++ placeAfter bytes
  | _ =>
    let marked := before ++ [Text.Utf8.replacement]
    match Json.parse marked with
    | .error fault => fault.message marked
    | .ok _ => Json.Reason.trailingCharacters.message ++ placeAfter (bytes.take (read + 1))

/-- The document in a body. -/
def readBody (body : List UInt8) : Except String Json :=
  match Text.Utf8.decode body with
  | some text => Json.ofText text
  | none => .error (faultOfBytes body)

/-- The completions of a document; a choice without a text is an empty completion. -/
def completionsOf (v : Json) : Reply :=
  match (v.member? "choices").bind Json.items? with
  | some choices =>
    .ok (choices.map fun choice => ((choice.member? "text").bind Json.text?).getD "")
  | none => .error (.note ("unexpected completion response shape: " ++ v.compact))

/-- What a response of an endpoint says. -/
def replyOf (e : Endpoint) (response : Response) : Reply :=
  if 200 ≤ response.status ∧ response.status < 300 then
    match readBody response.body with
    | .ok v => completionsOf v
    | .error message =>
      .error ⟨.note ("Invalid completion response from " ++ e.url),
        [.note "error decoding response body", .json message]⟩
  else
    .error (.note ("HTTP " ++ toString response.status ++ " from " ++ e.url ++ ": " ++
      Text.decodeMarked response.body))

/-! ## Models -/

/-- The model behind an endpoint. -/
def Endpoint.asModel [Monad m] (e : Endpoint) (transport : Transport m) : Model m :=
  fun call => do
    let context := "Request to " ++ e.url ++ " failed"
    match requestOf e call with
    | .error causes => pure (.error ⟨.note context, causes.map .note⟩)
    | .ok request =>
      match ← transport request with
      | .error f => pure (.error (f.within context))
      | .ok response => pure (replyOf e response)

end Assay.Http
