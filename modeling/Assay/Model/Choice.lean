import Assay.Model.Http
import Assay.Yaml.Decode

/-!
# The choice of a model

A configuration names the model under evaluation: the null model, or the one behind an endpoint,
with the name of the variable that holds the key. The key itself is looked up when the model is
made.
-/

namespace Assay

/-- The model that a configuration asks for. -/
inductive ModelChoice where
  | null
  | http (url model : String) (keyVariable : Option String)
  deriving DecidableEq, Repr

namespace ModelChoice

/-! ## JSON -/

/-- A choice as a JSON object that names its type first. -/
def toJson : ModelChoice → Json
  | .null => .obj [("type", .str "null")]
  | .http url model keyVariable =>
    .obj [("type", .str "http"), ("url", .str url), ("model", .str model),
      ("api_key_env", (keyVariable.map .str).getD .null)]

/-! ## YAML -/

/-- The fields of an endpoint, in their order. -/
def endpointFields : List String := ["url", "model", "api_key_env"]

/-- What a node stands for where no special form is wanted; lists, records and scalars that are
admitted anywhere have no meaning of their own. -/
def meaningOf (node : Yaml.Node) : Except Yaml.Problem (Option Yaml.Meaning) :=
  match node with
  | .scalar .. =>
    match node.meaning? with
    | some .unsupported => .error "unsupported number"
    | some meaning => .ok (some meaning)
    | none => .error "unsupported tag"
  | _ => .ok none

/-- Checks that a node and everything below it can be kept until its type is known. -/
def keepable (node : Yaml.Node) : Bool :=
  node.all fun inner =>
    match inner with
    | .scalar .. => (meaningOf inner).isOk
    | .sequence tag _ => (Yaml.variantTag? tag).isNone
    | .mapping tag _ => (Yaml.variantTag? tag).isNone
    | .alias _ => false

/-- A node that is kept until the type is known, with all that its aliases stand for. A record of
settings and the choice in it are around the node. -/
def keep : Yaml.Decoder Yaml.Node := fun node => do
  let expanded ← node.expand (Yaml.maxDepth - 2)
  if keepable expanded then return expanded else throw "unsupported value"

/-- A text that was kept. -/
def keptText (node : Yaml.Node) : Except Yaml.Problem String := do
  match ← meaningOf node with
  | some (.text text) => .ok text
  | _ => .error "expected a string"

/-- A text that was kept, or nothing. -/
def keptOption (node : Yaml.Node) : Except Yaml.Problem (Option String) := do
  match ← meaningOf node with
  | some .null => .ok none
  | _ => (keptText node).map some

/-- The name of the field that a key stands for: its text, or its place among the fields. -/
def fieldName (key : Yaml.Node) : Except Yaml.Problem String := do
  match ← meaningOf key with
  | some (.text name) => .ok name
  | some (.natural i) => .ok (endpointFields[i]?.getD "")
  | _ => .error "expected a field"

/-- The endpoint that some fields describe. -/
def ofFields (fields : List (String × Yaml.Node)) : Except Yaml.Problem ModelChoice := do
  let url ← Yaml.required fields "url" keptText
  let model ← Yaml.required fields "model" keptText
  .ok (.http url model (← Yaml.withDefault fields "api_key_env" keptOption none))

/-- The choice of a type with named fields. The null model passes over them. -/
def ofRecord (type : String) (entries : List (Yaml.Node × Yaml.Node)) :
    Except Yaml.Problem ModelChoice := do
  if type = "null" then .ok .null
  else if type = "http" then
    ofFields (← entries.mapM fun (key, value) => do .ok (← fieldName key, value))
  else .error ("unknown variant `" ++ type ++ "`")

/-- The choice of a type with fields in their order. -/
def ofList (type : String) (items : List Yaml.Node) : Except Yaml.Problem ModelChoice :=
  if endpointFields.length < items.length then .error "too many fields"
  else if type = "null" then
    if items.isEmpty then .ok .null else .error "too many fields"
  else if type = "http" then ofFields (endpointFields.zip items)
  else .error ("unknown variant `" ++ type ++ "`")

/-- Whether a key of a record is the one that names the type. -/
def isTypeKey (key : Yaml.Node) : Bool :=
  match meaningOf key with
  | .ok (some (.text name)) => name == "type"
  | _ => false

/-- An entry of a choice. The value that names the type is read at once, all others are kept. -/
def keepEntry (entry : Yaml.Node × Yaml.Node) : Yaml.Reading (Yaml.Node × Yaml.Node) := do
  let key ← keep entry.1
  if isTypeKey key then return (key, entry.2)
  else
    let value ← keep entry.2
    return (key, value)

/-- The choice that a node describes: a record with its type, or a list that begins with it. -/
def ofYaml : Yaml.Decoder ModelChoice := fun node => do
  match ← node.follow with
  | .mapping tag entries =>
    if (Yaml.variantTag? tag).isSome then throw "unsupported tag"
    else
      let kept ← entries.mapM keepEntry
      let (types, fields) := kept.partition fun entry => isTypeKey entry.1
      match types with
      | [(_, type)] => ofRecord (← type.text) fields
      | [] => throw "missing field `type`"
      | _ => throw "duplicate field `type`"
  | .sequence tag items =>
    if (Yaml.variantTag? tag).isSome then throw "unsupported tag"
    else
      match items with
      | [] => throw "missing field `type`"
      | type :: rest =>
        let kept ← rest.mapM keep
        ofList (← type.text) kept
  | _ => throw "expected a mapping"

/-! ## Models -/

/-- Makes the model of a choice; the key of an endpoint is the value of its variable. -/
def build [Monad m] (choice : ModelChoice) (environment : String → Option String)
    (transport : Http.Transport m) : Except Failure (Model m) :=
  match choice with
  | .null => .ok Model.null
  | .http url model none => .ok ((Http.Endpoint.ofBase url model).asModel transport)
  | .http url model (some name) =>
    match environment name with
    | some key =>
      .ok ({ Http.Endpoint.ofBase url model with key := some key }.asModel transport)
    | none =>
      .error ((Failure.note "environment variable not found").within (name ++ " is not set"))

end ModelChoice

end Assay
