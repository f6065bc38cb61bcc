import Assay.Model.Host

/-!
# Addresses of servers

The address of a request: a scheme, a host and, below it, what the request line asks for. Addresses
are taken as they are commonly written: a backslash is as good as a slash, dots in the path are
resolved, and what may not stand in an address is written as percent-encoded bytes. Who asks may be
told before the host; that is kept beside the address and is no part of its text.
-/

namespace Assay

/-- Who asks a server, and with which password. -/
structure Credentials where
  user : String
  password : Option String
  deriving DecidableEq, Repr

/-- The address of a request. -/
structure Url where
  scheme : String
  credentials : Option Credentials
  host : Host
  /-- The port, unless it is the usual one of the scheme. -/
  port : Option Nat
  path : String
  query : Option String
  fragment : Option String
  deriving DecidableEq, Repr

/-- Why a text is no address. -/
inductive UrlError where
  | noScheme
  | badHost (error : HostError)
  | badPort
  /-- Only two schemes are allowed. -/
  | badScheme (url : String)
  deriving DecidableEq, Repr

/-- The links of the chain that tells of an error. -/
def UrlError.causes : UrlError → List String
  | .noScheme => ["builder error", "relative URL without a base"]
  | .badHost error => ["builder error", error.message]
  | .badPort => ["builder error", "invalid port number"]
  | .badScheme url => ["builder error for url (" ++ url ++ ")", "URL scheme is not allowed"]

namespace Url

/-! ## Percent-encoding -/

/-- The upper-case hexadecimal digit of a number below sixteen. -/
def hexDigit (d : Nat) : Char :=
  if d < 10 then Char.ofNat (48 + d) else Char.ofNat (55 + d)

/-- A byte as a percent sign and two digits. -/
def percentByte (b : UInt8) : List Char :=
  ['%', hexDigit (b.toNat / 16), hexDigit (b.toNat % 16)]

/-- Encodes control characters, everything beyond ASCII, and some further characters. -/
def percentEncode (further : List Char) (cs : List Char) : List Char :=
  cs.flatMap fun c =>
    if c.toNat < 0x20 ∨ 0x7F ≤ c.toNat ∨ c ∈ further then
      c.toString.toUTF8.toList.flatMap percentByte
    else [c]

/-- What is encoded in a fragment. -/
def fragmentMarks : List Char := [' ', '"', '<', '>', Char.ofNat 0x60]

/-- What is encoded in a path. -/
def pathMarks : List Char := fragmentMarks ++ ['#', '?', '\x7b', '\x7d']

/-- What is encoded in a query. -/
def queryMarks : List Char := [' ', '"', '#', '<', '>', '\'']

/-! ## Parts -/

/-- Splits before the first character that satisfies a test. -/
def splitBefore (test : Char → Bool) (cs : List Char) : List Char × List Char :=
  (cs.takeWhile fun c => !test c, cs.dropWhile fun c => !test c)

/-- A text without blanks and control characters at its ends and without tabs and line breaks. -/
def clean (cs : List Char) : List Char :=
  let edge (c : Char) : Bool := decide (c.toNat ≤ 0x20)
  let kept := ((cs.dropWhile edge).reverse.dropWhile edge).reverse
  kept.filter fun c => c != '\t' && c != '\n' && c != '\r'

/-- The scheme of an address in lower case, and what follows its colon. -/
def splitScheme (cs : List Char) : Option (String × List Char) :=
  match splitBefore (· == ':') cs with
  | (c :: name, ':' :: rest) =>
    let allowed (c : Char) : Bool := c.isAlphanum || c == '+' || c == '-' || c == '.'
    if c.isAlpha && name.all allowed then
      some (String.ofList ((c :: name).map Char.toLower), rest)
    else none
  | _ => none

/-- The usual port of a scheme. -/
def usualPort (scheme : String) : Option Nat :=
  [("http", 80), ("https", 443), ("ws", 80), ("wss", 443), ("ftp", 21)].lookup scheme

/-- Whether a segment is one dot, also when it is encoded. -/
def isDot (segment : List Char) : Bool :=
  [".", "%2e"].contains (String.ofList (segment.map Char.toLower))

/-- Whether a segment is two dots, also when they are encoded. -/
def isDots (segment : List Char) : Bool :=
  ["..", ".%2e", "%2e.", "%2e%2e"].contains (String.ofList (segment.map Char.toLower))

/-- Adds the segments of a path to those before them, which are in reverse order. Dots at the end
leave an empty segment. -/
def resolveDots : List (List Char) → List (List Char) → List (List Char)
  | before, [] => before.reverse
  | before, segment :: rest =>
    let last := rest.isEmpty
    if isDots segment then
      resolveDots (if last then [] :: before.drop 1 else before.drop 1) rest
    else if isDot segment then resolveDots (if last then [] :: before else before) rest
    else resolveDots (segment :: before) rest

/-- The path of an address, with a slash at its beginning. -/
def pathText (cs : List Char) : String :=
  let slashed := cs.map fun c => if c = '\\' then '/' else c
  let segments := (if slashed.head? = some '/' then slashed.drop 1 else slashed).splitOn '/'
  let encoded := segments.map (percentEncode pathMarks)
  String.ofList ((resolveDots [] encoded).flatMap fun segment => '/' :: segment)

/-- The part of an authority before the last at sign, and the part after it. -/
def splitUser (cs : List Char) : List Char × List Char :=
  let hosted := (cs.reverse.takeWhile (· != '@')).reverse
  (cs.take (cs.length - hosted.length - 1), hosted)

/-- Who asks, as told before the at sign. A name alone or a password alone is enough; an empty
password is none. -/
def credentialsOf (cs : List Char) : Option Credentials := do
  let (user, password) := splitBefore (· == ':') cs
  let name ← Host.percentDecode user
  match password.drop 1 with
  | [] => if name.isEmpty then none else some ⟨String.ofList name, none⟩
  | secret => some ⟨String.ofList name, (Host.percentDecode secret).map String.ofList⟩

/-- The text of a host, and what follows it: the port. -/
def splitPort (cs : List Char) : List Char × List Char :=
  if cs.head? = some '[' then
    let (inner, rest) := splitBefore (· == ']') cs
    (inner ++ rest.take 1, rest.drop 1)
  else splitBefore (· == ':') cs

/-- The port after a host, unless it is the usual one. -/
def portOf (scheme : String) (cs : List Char) : Except UrlError (Option Nat) :=
  match cs with
  | [] => .ok none
  | [':'] => .ok none
  | ':' :: ds =>
    let value := Decimal.ofDigits ds
    if ¬ ds.all Decimal.isDigit ∨ 65536 ≤ value then .error .badPort
    else if usualPort scheme = some value then .ok none
    else .ok (some value)
  | _ => .error .badPort

/-! ## Reading and writing -/

/-- The host and, unless it is the usual one, the port. -/
def authority (u : Url) : String :=
  u.host.text ++ (u.port.map fun n => ":" ++ String.ofList (Decimal.digits n)).getD ""

/-- An address as text. -/
def text (u : Url) : String :=
  u.scheme ++ "://" ++ u.authority ++ u.path ++
    (u.query.map ("?" ++ ·)).getD "" ++ (u.fragment.map ("#" ++ ·)).getD ""

/-- Whether requests can be sent to an address. -/
def isWeb (u : Url) : Bool :=
  u.scheme == "http" || u.scheme == "https"

/-- What a request line asks for. -/
def target (u : Url) : String :=
  u.path ++ (u.query.map ("?" ++ ·)).getD ""

/-- The address that follows the slashes after a scheme. -/
def ofAuthority (scheme : String) (usual : Bool) (cs : List Char) : Except UrlError Url := do
  let isSlash (c : Char) : Bool := c == '/' || (usual && c == '\\')
  let (authority, rest) := splitBefore (fun c => isSlash c || c == '?' || c == '#') cs
  let (path, rest) := splitBefore (fun c => c == '?' || c == '#') rest
  let (query, fragment) := splitBefore (· == '#') rest
  let (user, hosted) := splitUser authority
  let (name, port) := splitPort hosted
  let host ←
    if usual then (Host.parse name).mapError .badHost
    else .ok (.name (String.ofList (percentEncode [] name)))
  let port ← portOf scheme port
  .ok {
    scheme, host, port
    credentials := credentialsOf user
    path := if usual ∨ path ≠ [] then pathText path else ""
    query := (query.head?).map fun _ => String.ofList (percentEncode queryMarks (query.drop 1))
    fragment := (fragment.head?).map fun _ =>
      String.ofList (percentEncode fragmentMarks (fragment.drop 1)) }

/-- The address that a text writes. An address without a host is none that a request could have. -/
def parse (address : String) : Except UrlError Url := do
  let some (scheme, rest) := splitScheme (clean address.toList) | .error .noScheme
  if (usualPort scheme).isSome then
    ofAuthority scheme true (rest.dropWhile fun c => c = '/' ∨ c = '\\')
  else
    match rest with
    | '/' :: '/' :: rest =>
      let url ← ofAuthority scheme false rest
      if url.host = .name "" then .error (.badScheme url.text) else .ok url
    | _ => .error (.badScheme (scheme ++ ":" ++ String.ofList (percentEncode [] rest)))

end Url

end Assay
