import Assay.Model.Http
import Assay.Text.Blank

/-!
# Messages on the wire

A request as the bytes that are sent over a connection, and the response in the bytes that come
back until the server closes it. A body is delimited by its length, divided into chunks, or goes on
to the end.
-/

namespace Assay.Http

/-! ## Requests -/

/-- The end of a line. -/
def lineEnd : String := "\r\n"

/-- The headers of a request, and its body. -/
def Request.wireText (r : Request) : String :=
  let head := [r.line, "host: " ++ r.url.authority] ++
    r.authorizations.map ("authorization: " ++ ·) ++
    ["content-type: " ++ r.contentType, "content-length: " ++ toString r.body.utf8ByteSize,
      "accept: */*", "connection: close"]
  String.join (head.map (· ++ lineEnd)) ++ lineEnd ++ r.body

/-! ## Responses -/

/-- The bytes up to the end of a line, and those after it. -/
def splitLine : List UInt8 → Option (List UInt8 × List UInt8)
  | [] => none
  | [_] => none
  | a :: b :: rest =>
    if a.toNat = 13 ∧ b.toNat = 10 then some ([], rest)
    else (splitLine (b :: rest)).map fun (line, after) => (a :: line, after)

theorem length_splitLine {bytes line after : List UInt8}
    (h : splitLine bytes = some (line, after)) : after.length < bytes.length := by
  fun_induction splitLine bytes generalizing line with
  | case1 => simp at h
  | case2 => simp at h
  | case3 a b rest hab =>
    obtain ⟨-, rfl⟩ : ([], rest) = (line, after) := by simpa using h
    simp only [List.length_cons]
    omega
  | case4 a b rest hab ih =>
    obtain ⟨⟨l, r⟩, hl, he⟩ := Option.map_eq_some_iff.1 h
    obtain ⟨-, rfl⟩ : (a :: l, r) = (line, after) := he
    have := ih hl
    simp only [List.length_cons] at this ⊢
    omega

/-- The lines up to an empty one, and the bytes after it. -/
def splitHead (bytes : List UInt8) : Option (List String × List UInt8) :=
  match h : splitLine bytes with
  | none => none
  | some ([], after) => some ([], after)
  | some (line, after) =>
    have := length_splitLine h
    (splitHead after).map fun (lines, body) => (Text.Utf8.decodeLossy line :: lines, body)
termination_by bytes.length

/-- The value of a header; the case of its name does not count. -/
def header? (name : String) (lines : List String) : Option String :=
  lines.findSome? fun line =>
    let cs := line.toList
    if String.ofList ((cs.takeWhile (· != ':')).map Char.toLower) = name then
      some (String.ofList (Text.trim ((cs.dropWhile (· != ':')).drop 1)))
    else none

/-- The number that hexadecimal digits at the beginning of a text write. -/
def leadingHex (cs : List Char) : Nat :=
  ((cs.takeWhile fun c => (Json.hexValue c).isSome).filterMap Json.hexValue).foldl
    (fun n d => 16 * n + d) 0

/-- The bytes of a body that comes in chunks, each led by its length. -/
def joinChunks (bytes : List UInt8) : List UInt8 :=
  match h : splitLine bytes with
  | none => []
  | some (line, after) =>
    let size := leadingHex (Text.Utf8.decodeLossy line).toList
    have := length_splitLine h
    if size = 0 then [] else after.take size ++ joinChunks (after.drop (size + 2))
termination_by bytes.length
decreasing_by simp only [List.length_drop]; omega

/-- The code in the first line of a response. -/
def statusOf (line : String) : Option Nat :=
  match line.splitOn " " with
  | _ :: code :: _ =>
    if code ≠ "" ∧ code.toList.all Decimal.isDigit then some (Decimal.ofDigits code.toList)
    else none
  | _ => none

/-- The response in some bytes. -/
def Response.ofWire (bytes : List UInt8) : Option Response := do
  let (lines, rest) ← splitHead bytes
  let status ← statusOf (← lines.head?)
  let body :=
    if header? "transfer-encoding" lines = some "chunked" then joinChunks rest
    else
      match header? "content-length" lines with
      | some count => rest.take (Decimal.ofDigits count.toList)
      | none => rest
  .some ⟨status, body⟩

end Assay.Http
