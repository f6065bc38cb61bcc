import Assay.Json.Record
import Assay.Task.Vocabulary
import Assay.Yaml.Decode

/-!
# Task descriptions

A task describes itself in a JSON or a YAML document. The enumerated fields of a description are
texts as they are written; a description is valid when each of them has a meaning.
-/

namespace Assay

/-- A task description as it is written. -/
structure Description where
  name : String
  description : String
  taskType : String
  tags : List String
  language : String
  authors : String
  metric : Option String
  outputType : Option String
  filePattern : String
  answerPath : String
  deriving DecidableEq, Repr

/-- A valid task description. -/
structure TaskConfig where
  name : String
  description : String
  kind : TaskKind
  tags : List String
  language : Language
  authors : String
  metric : Metric
  shape : Option Shape
  filePattern : String
  answerPath : String
  deriving DecidableEq, Repr

namespace Description

/-- Where the gold answers are unless a description says otherwise. -/
def defaultAnswerPath : String := "answers"

/-! ## Validity -/

/-- The meaning of a description, or the first of its enumerated fields that has none. -/
def validate (d : Description) : Except ConfigError TaskConfig := do
  let kind ← TaskKind.vocabulary.find d.taskType
  let language ← Language.vocabulary.find d.language
  let metric ←
    match d.metric with
    | some metric => Metric.vocabulary.find metric
    | none => .ok .prf1
  let shape ←
    match d.outputType with
    | some text => ((Shape.parse text).mapError ConfigError.shape).map some
    | none => .ok none
  .ok {
    name := d.name, description := d.description, kind, tags := d.tags, language,
    authors := d.authors, metric, shape, filePattern := d.filePattern, answerPath := d.answerPath }

/-! ## JSON -/

/-- The fields of a description that were read so far. -/
structure Draft where
  name : Option String
  description : Option String
  taskType : Option String
  tags : Option (List String)
  language : Option String
  authors : Option String
  metric : Option (Option String)
  outputType : Option (Option String)
  filePattern : Option String
  answerPath : Option String

/-- A draft without fields. -/
def Draft.empty : Draft := ⟨none, none, none, none, none, none, none, none, none, none⟩

/-- A field that must be given. -/
def requiredField (name : String) (get : Draft → Option β) (set : Draft → β → Draft)
    (read : List Char → Except Json.Fault (β × List Char)) : Json.Field Draft where
  name := name
  present d := (get d).isSome
  read d cs := (read cs).map fun (value, rest) => (set d value, rest)
  required := true
  positional := true

/-- A field that may be left out. -/
def optionalField (name : String) (get : Draft → Option β) (set : Draft → β → Draft)
    (read : List Char → Except Json.Fault (β × List Char)) : Json.Field Draft :=
  { requiredField name get set read with required := false, positional := false }

open Json in
/-- Descriptions as records. -/
def format : Json.Format Draft where
  name := "TaskMetadata"
  fields := [
    requiredField "name" Draft.name (fun d v => { d with name := v }) readString,
    optionalField "description" Draft.description (fun d v => { d with description := v })
      readString,
    requiredField "task_type" Draft.taskType (fun d v => { d with taskType := v }) readString,
    optionalField "tags" Draft.tags (fun d v => { d with tags := some v }) readStrings,
    requiredField "language" Draft.language (fun d v => { d with language := v }) readString,
    optionalField "authors" Draft.authors (fun d v => { d with authors := v }) readString,
    optionalField "metric" Draft.metric (fun d v => { d with metric := some v })
      (readOption readString),
    optionalField "output_type" Draft.outputType (fun d v => { d with outputType := some v })
      (readOption readString),
    requiredField "file_pattern" Draft.filePattern (fun d v => { d with filePattern := v })
      readString,
    optionalField "answer_path" Draft.answerPath (fun d v => { d with answerPath := v })
      readString]

/-- The description of a draft; the reader sees to it that the required fields are there. -/
def ofDraft (d : Draft) : Description where
  name := d.name.getD ""
  description := d.description.getD ""
  taskType := d.taskType.getD ""
  tags := d.tags.getD []
  language := d.language.getD ""
  authors := d.authors.getD ""
  metric := d.metric.getD none
  outputType := d.outputType.getD none
  filePattern := d.filePattern.getD ""
  answerPath := d.answerPath.getD defaultAnswerPath

/-- The description of a JSON text, or the message that tells what is wrong with it. -/
def ofJson (text : String) : Except String Description :=
  (format.ofText .empty text).map ofDraft

/-- A description as a JSON object with all its fields. -/
def toJson (d : Description) : Json :=
  let optional : Option String → Json
    | some s => .str s
    | none => .null
  .obj [
    ("name", .str d.name), ("description", .str d.description), ("task_type", .str d.taskType),
    ("tags", .arr (d.tags.map .str)), ("language", .str d.language), ("authors", .str d.authors),
    ("metric", optional d.metric), ("output_type", optional d.outputType),
    ("file_pattern", .str d.filePattern), ("answer_path", .str d.answerPath)]

/-! ## YAML -/

open Yaml in
/-- The description of a YAML text. -/
def ofYaml (text : String) : Except Yaml.Problem Description :=
  ofRecord text fun entries => return {
    name := ← required entries "name" Node.text
    description := ← withDefault entries "description" Node.text ""
    taskType := ← required entries "task_type" Node.text
    tags := ← withDefault entries "tags" (Node.list Node.text) []
    language := ← required entries "language" Node.text
    authors := ← withDefault entries "authors" Node.text ""
    metric := ← withDefault entries "metric" (Node.optional Node.text) none
    outputType := ← withDefault entries "output_type" (Node.optional Node.text) none
    filePattern := ← required entries "file_pattern" Node.text
    answerPath := ← withDefault entries "answer_path" Node.text defaultAnswerPath }

end Description

end Assay
