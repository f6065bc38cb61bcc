import Assay.Model.Http
import Assay.Proofs.FirstFailure
import Assay.Proofs.Json.RoundTrip
import Assay.Proofs.Text.Utf8
import Mathlib.Data.List.TakeWhile

/-!
# Asking an endpoint for completions

Main statement: a model behind an endpoint sends one request for a call, to the root of the interface
without the slashes at its end and with the endpoint after it. The key, if there is one, is told in a
header, and the body is a JSON text of the call. The response is understood just when it is one of
success whose body is a JSON object with a list of choices (`Offers`): each of them is then one
completion, in order (`Says`). What else the server answers with a status of failure is told with
this status and the text of the body.
-/

namespace Assay.Http

open Text (byteOrderMark)
open Text.Utf8 (encode)

/-! ## Where to ask -/

/-- A text without the slashes at its end has none there, and only these were left out. -/
theorem trimSlashes_eq (base : String) : ∃ count,
    base = Endpoint.trimSlashes base ++ String.ofList (List.replicate count '/') ∧
      (Endpoint.trimSlashes base).toList.getLast? ≠ some '/' := by
  obtain ⟨slashes, slashes_eq⟩ : ∃ cs, cs = base.toList.reverse.takeWhile (· == '/') := ⟨_, rfl⟩
  have all : slashes = List.replicate slashes.length '/' := by
    refine List.eq_replicate_of_mem ?_
    intro c mem
    rw [slashes_eq] at mem
    exact eq_of_beq (List.mem_takeWhile_imp (p := (· == '/')) mem)
  refine ⟨slashes.length, ?_, ?_⟩
  · apply String.toList_inj.mp
    have parts := congrArg List.reverse (List.takeWhile_append_dropWhile (p := (· == '/'))
      (l := base.toList.reverse))
    rw [List.reverse_append, List.reverse_reverse, ← slashes_eq, all, List.reverse_replicate] at parts
    rw [String.toList_append, Endpoint.trimSlashes, String.toList_ofList, String.toList_ofList, parts]
  · rw [Endpoint.trimSlashes, String.toList_ofList, List.getLast?_reverse]
    intro slash
    have other := List.head?_dropWhile_not (· == '/') base.toList.reverse
    rw [slash] at other
    exact absurd other (by decide)

/-! ## Who asks -/

theorem bearerAuthorization_of_inHeader {key : String}
    (header : ∀ c ∈ key.toList, inHeader c = true) :
    bearerAuthorization key = .ok ("Bearer " ++ key) :=
  if_pos (List.all_eq_true.mpr header)

/-- What tells who asks are the credentials of the address, if there are some, and the key. -/
theorem authorizationsOf_of_inHeader (url : Url) {key : Option String}
    (header : ∀ k, key = some k → ∀ c ∈ k.toList, inHeader c = true) :
    authorizationsOf url key =
      .ok ((url.credentials.map basicAuthorization).toList ++
        (key.map fun k => "Bearer " ++ k).toList) := by
  cases key with
  | none => simp [authorizationsOf]
  | some k =>
    rw [authorizationsOf, bearerAuthorization_of_inHeader (header k rfl)]
    rfl

/-- The credentials of an address are not taken for a key. -/
theorem bearer_mem_iff {url : Url} {key : Option String} {k : String} :
    "Bearer " ++ k ∈ (url.credentials.map basicAuthorization).toList ++
        (key.map fun k => "Bearer " ++ k).toList ↔ key = some k := by
  have basic : "Bearer " ++ k ∉ (url.credentials.map basicAuthorization).toList := by
    rw [Option.mem_toList, Option.map_eq_some_iff]
    rintro ⟨c, -, same⟩
    have chars := congrArg String.toList same
    simp [basicAuthorization] at chars
  rw [List.mem_append, or_iff_right basic, Option.mem_toList, Option.map_eq_some_iff]
  constructor
  · rintro ⟨k', rfl, same⟩
    rw [(String.append_right_inj _).mp same]
  · rintro rfl
    exact ⟨k, rfl, rfl⟩

/-! ## What is asked -/

theorem rereads_zero : (Json.Number.float 0).Rereads where
  finite := by
    show (0 : Float).isFinite = true
    decide +kernel
  parses := Json.foundFloat_iff.mp (by decide +kernel)

theorem rereads_natCast {n : Nat} (small : n < 2 ^ 64) : (Json.Number.int n).Rereads := by
  refine Json.Number.IsWord.rereads ?_
  show -2 ^ 63 ≤ (n : Int) ∧ (n : Int) < 2 ^ 64
  omega

theorem everywhere_strings {P : Json → Prop} {texts : List String}
    (list : P (.arr (texts.map .str))) (each : ∀ s, P (.str s)) :
    (Json.arr (texts.map .str)).Everywhere P := by
  refine Json.everywhere_arr.mpr ⟨list, ?_⟩
  intro v mem
  obtain ⟨s, -, rfl⟩ := List.mem_map.mp mem
  exact each s

theorem depth_strings_le (texts : List String) (d : Nat) :
    (Json.arr (texts.map .str)).depth ≤ d + 1 := by
  refine Json.depth_arr_le.mpr ?_
  intro v mem
  obtain ⟨s, -, rfl⟩ := List.mem_map.mp mem
  exact Nat.zero_le d

/-- The body of a request is a text of the call. -/
theorem ofText_bodyOf (e : Endpoint) {call : Call} (samples : call.samples < 2 ^ 64)
    (length : call.maxLength < 2 ^ 64) :
    Json.ofText (bodyOf e call).compact = .ok (bodyOf e call) := by
  have numbers : (bodyOf e call).Everywhere (Json.Numbers Json.Number.Rereads) := by
    refine Json.everywhere_obj.mpr ⟨trivial, ?_⟩
    simp only [List.forall_mem_cons]
    exact ⟨rereads_natCast length, trivial, rereads_natCast samples, trivial,
      everywhere_strings trivial fun _ => trivial, rereads_zero, List.forall_mem_nil _⟩
  have ascend : (bodyOf e call).Everywhere Json.NamesAscend := by
    refine Json.everywhere_obj.mpr ⟨?_, ?_⟩
    · have names : ["max_tokens", "model", "n", "prompt", "stop", "temperature"].Pairwise
          (· < ·) := by decide
      exact List.pairwise_map.mp names
    · simp only [List.forall_mem_cons]
      exact ⟨trivial, trivial, trivial, trivial, everywhere_strings trivial fun _ => trivial,
        trivial, List.forall_mem_nil _⟩
  have shallow : (bodyOf e call).depth ≤ Json.depthLimit := by
    refine Json.depth_obj_le.mpr ?_
    simp only [List.forall_mem_cons]
    exact ⟨Nat.zero_le _, Nat.zero_le _, Nat.zero_le _, Nat.zero_le _, depth_strings_le _ _,
      Nat.zero_le _, List.forall_mem_nil _⟩
  exact Json.ofText_compact numbers ascend shallow

/-! ## What is answered -/

/-- The choices that a response offers: its status is one of success, and its body is the text of an
object with a list of them. What is such a text is up to the reader: it refuses documents that are
nested deeper than `Json.depthLimit`, and numbers beyond the range of floating-point numbers. -/
def Offers (response : Response) (choices : List Json) : Prop :=
  200 ≤ response.status ∧ response.status < 300 ∧
    ∃ text members, response.body = encode text ∧ Json.ofText text = .ok (.obj members) ∧
      members.lookup "choices" = some (.arr choices)

/-- The completion that a choice is: its text, or the empty one if it has none. -/
inductive Says : Json → String → Prop
  | text {members : List (String × Json)} {s : String}
      (found : members.lookup "text" = some (.str s)) : Says (.obj members) s
  | nothing {choice : Json}
      (silent : ∀ members s, choice = .obj members → members.lookup "text" ≠ some (.str s)) :
      Says choice ""

/-- A body holds a text: it is the bytes of this text, perhaps with a byte order mark before them. -/
def HoldsText (body : List UInt8) (text : String) : Prop :=
  (body = encode text ∧ text.toList.head? ≠ some byteOrderMark) ∨
    body = encode (String.ofList (byteOrderMark :: text.toList))

/-- How a reply understands a response: it has the completions that are offered, and fails if there
are none; a status of failure is told together with the text of the body. -/
structure Understands (url : String) (response : Response) (reply : Reply) : Prop where
  completions : ∀ texts, reply = .ok texts ↔
    ∃ choices, Offers response choices ∧ List.Forall₂ Says choices texts
  refused : ¬ (200 ≤ response.status ∧ response.status < 300) → ∃ f, reply = .error f ∧
    f.message = "HTTP " ++ toString response.status ++ " from " ++ url ++ ": " ++
      Text.decodeMarked response.body ∧
    ∀ text, HoldsText response.body text → Text.decodeMarked response.body = text

theorem HoldsText.decodeMarked {body : List UInt8} {text : String} (h : HoldsText body text) :
    Text.decodeMarked body = text := by
  rcases h with ⟨rfl, unmarked⟩ | rfl
  · exact Text.decodeMarked_encode unmarked
  · exact Text.decodeMarked_encode_marked text

theorem member?_eq_some_iff {name : String} {v found : Json} :
    v.member? name = some found ↔ ∃ members, v = .obj members ∧
      members.lookup name = some found := by
  cases v <;> simp [Json.member?]

/-- What is found in a member of an object, if it is of the wanted kind. -/
theorem member_bind_eq_some_iff {name : String} {kind : Json → Option β} {make : β → Json}
    (kinds : ∀ found b, kind found = some b ↔ found = make b) {v : Json} {b : β} :
    (v.member? name).bind kind = some b ↔ ∃ members, v = .obj members ∧
      members.lookup name = some (make b) := by
  rw [Option.bind_eq_some_iff]
  constructor
  · rintro ⟨found, member, of⟩
    obtain rfl := (kinds found b).mp of
    exact member?_eq_some_iff.mp member
  · intro member
    exact ⟨make b, member?_eq_some_iff.mpr member, (kinds _ b).mpr rfl⟩

theorem text?_eq_some_iff (v : Json) (s : String) : v.text? = some s ↔ v = .str s := by
  cases v <;> simp [Json.text?]

theorem items?_eq_some_iff (v : Json) (items : List Json) :
    v.items? = some items ↔ v = .arr items := by
  cases v <;> simp [Json.items?]

/-- The completion that is read from a choice is the one that it is. -/
theorem says_iff {choice : Json} {s : String} :
    Says choice s ↔ ((choice.member? "text").bind Json.text?).getD "" = s := by
  constructor
  · intro said
    cases said with
    | text found =>
      rw [(member_bind_eq_some_iff text?_eq_some_iff).mpr ⟨_, rfl, found⟩]
      rfl
    | nothing silent =>
      have none : (choice.member? "text").bind Json.text? = none := by
        rw [Option.eq_none_iff_forall_ne_some]
        intro s told
        obtain ⟨members, same, found⟩ := (member_bind_eq_some_iff text?_eq_some_iff).mp told
        exact silent members s same found
      rw [none]
      rfl
  · rintro rfl
    cases told : (choice.member? "text").bind Json.text? with
    | none =>
      refine .nothing ?_
      intro members s same found
      rw [(member_bind_eq_some_iff text?_eq_some_iff).mpr ⟨members, same, found⟩] at told
      cases told
    | some s =>
      obtain ⟨members, rfl, found⟩ := (member_bind_eq_some_iff text?_eq_some_iff).mp told
      exact .text found

theorem forall₂_says_iff {choices : List Json} {texts : List String} :
    List.Forall₂ Says choices texts ↔
      (choices.map fun choice => ((choice.member? "text").bind Json.text?).getD "") = texts := by
  rw [← List.forall₂_eq_eq_eq, List.forall₂_map_left_iff]
  exact ⟨fun said => said.imp fun _ _ => says_iff.mp, fun read => read.imp fun _ _ => says_iff.mpr⟩

/-- The completions of a document are those that its choices are, if it is an object with a list of
them. -/
theorem completionsOf_eq_ok_iff {v : Json} {texts : List String} :
    completionsOf v = .ok texts ↔ ∃ members choices, v = .obj members ∧
      members.lookup "choices" = some (.arr choices) ∧ List.Forall₂ Says choices texts := by
  simp only [forall₂_says_iff]
  unfold completionsOf
  split
  · next choices told =>
    obtain ⟨members, rfl, found⟩ := (member_bind_eq_some_iff items?_eq_some_iff).mp told
    constructor
    · intro read
      exact ⟨members, choices, rfl, found, Except.ok.inj read⟩
    · rintro ⟨_, choices', ⟨⟩, found', said⟩
      obtain rfl := Json.arr.inj (Option.some.inj (found.symm.trans found'))
      rw [said]
  · next none =>
    refine iff_of_false nofun ?_
    rintro ⟨members, choices, same, found, -⟩
    rw [(member_bind_eq_some_iff items?_eq_some_iff).mpr ⟨members, same, found⟩] at none
    cases none

theorem readBody_eq_ok_iff {body : List UInt8} {v : Json} :
    readBody body = .ok v ↔ ∃ text, body = encode text ∧ Json.ofText text = .ok v := by
  unfold readBody
  split
  · next text read =>
    obtain rfl := Text.Utf8.decode_eq_some_iff.mp read
    constructor
    · intro found
      exact ⟨text, rfl, found⟩
    · rintro ⟨text', same, found⟩
      rw [Text.Utf8.decode_eq_some_iff.mpr same] at read
      rwa [← Option.some.inj read]
  · next none =>
    refine iff_of_false nofun ?_
    rintro ⟨text, same, -⟩
    rw [Text.Utf8.decode_eq_some_iff.mpr same] at none
    cases none

/-- A response of success offers the choices of the document in its body. -/
theorem offers_iff {response : Response} (success : 200 ≤ response.status ∧ response.status < 300)
    {choices : List Json} : Offers response choices ↔ ∃ members,
      readBody response.body = .ok (.obj members) ∧
        members.lookup "choices" = some (.arr choices) := by
  simp only [Offers, success, true_and, readBody_eq_ok_iff]
  constructor
  · rintro ⟨text, members, bytes, read, found⟩
    exact ⟨members, ⟨text, bytes, read⟩, found⟩
  · rintro ⟨members, ⟨text, bytes, read⟩, found⟩
    exact ⟨text, members, bytes, read, found⟩

/-- What an endpoint replies to a call is what its response says. -/
theorem understands_replyOf (e : Endpoint) (response : Response) :
    Understands e.url response (replyOf e response) := by
  unfold replyOf
  split
  · next success =>
    refine ⟨?_, fun failure => absurd success failure⟩
    intro texts
    simp only [offers_iff success]
    cases read : readBody response.body with
    | ok v =>
      rw [completionsOf_eq_ok_iff]
      constructor
      · rintro ⟨members, choices, rfl, found, said⟩
        exact ⟨choices, ⟨members, rfl, found⟩, said⟩
      · rintro ⟨choices, ⟨members, same, found⟩, said⟩
        exact ⟨members, choices, Except.ok.inj same, found, said⟩
    | error message =>
      refine iff_of_false nofun ?_
      rintro ⟨choices, ⟨members, ⟨⟩, -⟩, -⟩
  · next failure =>
    refine ⟨?_, fun _ => ⟨_, rfl, ?_, fun _ => HoldsText.decodeMarked⟩⟩
    · intro texts
      refine iff_of_false nofun ?_
      rintro ⟨choices, ⟨least, most, -⟩, -⟩
      exact failure ⟨least, most⟩
    · simp [Failure.message, Failure.causes, Failure.note, Failure.of, Cause.message]

/-! ## Asking -/

/-- A transport to a server that may answer each request in the light of those before it. What was
sent is kept. -/
def recording (serve : List Request → Request → Except Failure Response) :
    Transport (StateM (List Request)) :=
  fun request sent => (serve sent request, sent ++ [request])

theorem asModel_recording {e : Endpoint} {call : Call} {request : Request}
    (made : requestOf e call = .ok request)
    (serve : List Request → Request → Except Failure Response) (sent : List Request) :
    ∃ reply, ((e.asModel (recording serve)) call).run sent = (reply, sent ++ [request]) ∧
      ∀ response, serve sent request = .ok response → reply = replyOf e response := by
  have sends : (recording serve request).run sent =
      pure (serve sent request, sent ++ [request]) := rfl
  rw [Endpoint.asModel, made]
  cases served : serve sent request with
  | error f =>
    refine ⟨.error (f.within ("Request to " ++ e.url ++ " failed")), ?_, nofun⟩
    rw [StateT.run_bind, sends, served]
    rfl
  | ok response =>
    refine ⟨replyOf e response, ?_, fun _ same => by rw [← Except.ok.inj same]⟩
    rw [StateT.run_bind, sends, served]
    rfl

/-- The request for a call is made if the address is one of the web and the key fits a header. -/
theorem requestOf_eq {e : Endpoint} {url : Url} (call : Call) (address : Url.parse e.url = .ok url)
    (web : url.isWeb = true)
    (header : ∀ k, e.key = some k → ∀ c ∈ k.toList, inHeader c = true) :
    requestOf e call = .ok ⟨"POST", url, (url.credentials.map basicAuthorization).toList ++
      (e.key.map fun k => "Bearer " ++ k).toList, "application/json", (bodyOf e call).compact⟩ := by
  rw [requestOf, address]
  show (do
    let authorizations ← authorizationsOf url e.key
    if url.isWeb then
      .ok (Request.mk "POST" url authorizations "application/json" (bodyOf e call).compact)
    else .error (UrlError.badScheme url.text).causes) = _
  rw [authorizationsOf_of_inHeader url header]
  exact if_pos web

/-- **A model behind an endpoint sends one request for a call and understands every response.** If
the root of an interface with the endpoint after it is an address of the web, the key fits a header
and the numbers fit a machine word, then a call sends one POST request and no other: to the root
without the slashes at its end and with the endpoint after it, with the key in a header just when
there is one, and with a JSON text of exactly the members that tell the call. Whatever the server
answers, the reply has the completions of the choices that the response offers, and fails if there
are none. -/
theorem completions_of_endpoint {base model : String} {key : Option String} {url : Url}
    {call : Call} (address : Url.parse (Endpoint.trimSlashes base ++ "/completions") = .ok url)
    (web : url.isWeb = true) (header : ∀ k, key = some k → ∀ c ∈ k.toList, inHeader c = true)
    (samples : call.samples < 2 ^ 64) (length : call.maxLength < 2 ^ 64) :
    ∃ root count request,
      base = root ++ String.ofList (List.replicate count '/') ∧ root.toList.getLast? ≠ some '/' ∧
      (Endpoint.ofBase base model).url = root ++ "/completions" ∧
      Url.parse (root ++ "/completions") = .ok request.url ∧
      request.line = "POST " ++ request.url.target ++ " HTTP/1.1" ∧
      (∀ k, "Bearer " ++ k ∈ request.authorizations ↔ key = some k) ∧
      request.contentType = "application/json" ∧
      Json.ofText request.body = .ok (.obj [
        ("max_tokens", .num (.int call.maxLength)), ("model", .str model),
        ("n", .num (.int call.samples)), ("prompt", .str call.prompt),
        ("stop", .arr (call.stop.map .str)), ("temperature", .num (.float 0))]) ∧
      ∀ serve sent, ∃ reply,
        ((Endpoint.asModel { Endpoint.ofBase base model with key } (recording serve)) call).run
          sent = (reply, sent ++ [request]) ∧
        ∀ response, serve sent request = .ok response →
          Understands (root ++ "/completions") response reply := by
  obtain ⟨count, split, trimmed⟩ := trimSlashes_eq base
  let e : Endpoint := ⟨Endpoint.trimSlashes base ++ "/completions", model, key⟩
  have made := requestOf_eq (e := e) call address web header
  refine ⟨Endpoint.trimSlashes base, count, ⟨"POST", url,
      (url.credentials.map basicAuthorization).toList ++ (key.map fun k => "Bearer " ++ k).toList,
      "application/json", (bodyOf e call).compact⟩,
    split, trimmed, rfl, address, rfl, ?_, rfl, ?_, ?_⟩
  · intro k
    exact bearer_mem_iff
  · exact ofText_bodyOf e samples length
  · intro serve sent
    obtain ⟨reply, ran, understood⟩ := asModel_recording made serve sent
    refine ⟨reply, ran, ?_⟩
    intro response served
    rw [understood response served]
    exact understands_replyOf e response

/-- An address with a port, whose path has a slash at its end too many. -/
def localBase : String := "http://localhost:8080/v1//"

/-- A prompt with quotes, a line break and a character of four bytes. -/
def awkwardCall : Call := ⟨"char *s = \"\\n\";\n\u2028", 2, 16, ["[eod]", "\""]⟩

/-- A choice with a text, and one that has none. -/
def twoChoices : List Json :=
  [.obj [("text", .str "['p']")], .obj [("text", .num (.int 7))]]

/-- A response that offers them. -/
def twoOffered : Response :=
  ⟨200, encode (Json.obj [("choices", .arr twoChoices)]).compact⟩

theorem offers_twoOffered : Offers twoOffered twoChoices := by
  refine ⟨by decide, by decide, _, [("choices", .arr twoChoices)], rfl, ?_, rfl⟩
  refine Json.ofText_compact ?_ ?_ (by decide)
  · have seven : (Json.Number.int 7).Rereads := @rereads_natCast 7 (by decide)
    simp [twoChoices, Json.Everywhere, Json.EverywhereIn, Json.EverywhereUnder, Json.Numbers, seven]
  · simp [twoChoices, Json.Everywhere, Json.EverywhereIn, Json.EverywhereUnder, Json.NamesAscend,
      Json.Ascending]

/-- The endpoint is asked once, and both choices count. -/
theorem completions_of_endpoint_local : ∃ request,
    request.url.text = "http://localhost:8080/v1/completions" ∧
      "Bearer k" ∈ request.authorizations ∧
      ((Endpoint.asModel { Endpoint.ofBase localBase "qwen" with key := some "k" }
        (recording fun _ _ => .ok twoOffered)) awkwardCall).run [] =
          (.ok ["['p']", ""], [request]) := by
  have address : Url.parse (Endpoint.trimSlashes localBase ++ "/completions") =
      .ok ⟨"http", none, .name "localhost", some 8080, "/v1/completions", none, none⟩ := by
    decide +kernel
  have header : ∀ k, some "k" = some k → ∀ c ∈ k.toList, inHeader c = true := by
    rintro k ⟨⟩
    simp [inHeader]
  obtain ⟨root, count, request, -, -, root_eq, parses, -, bearer, -, -, asked⟩ :=
    @completions_of_endpoint localBase "qwen" (some "k") _ awkwardCall address (by decide) header
      (by decide) (by decide)
  obtain ⟨reply, ran, understood⟩ := asked (fun _ _ => .ok twoOffered) []
  have said : List.Forall₂ Says twoChoices ["['p']", ""] := by
    refine .cons (.text rfl) (.cons (.nothing ?_) .nil)
    rintro members s ⟨⟩ ⟨⟩
  rw [((understood _ rfl).completions _).mpr ⟨_, offers_twoOffered, said⟩] at ran
  rw [← root_eq] at parses
  have url := Except.ok.inj (address.symm.trans parses)
  refine ⟨request, ?_, (bearer "k").mpr rfl, ran⟩
  rw [← url]
  decide +kernel

end Assay.Http
