import Assay.Shape.Check

/-!
# Shapes as schemas

An answer is checked against the JSON Schema of its shape. Here the keywords that such schemas use
have their meaning as in JSON Schema: `type` names a kind of documents, `items` is a schema for each
item of a list, and `uniqueItems` forbids a list to have equal items; the last two ask nothing of
what is no list. A schema that has another keyword, or one of these with a value of another kind, has
no meaning here. The schema of a shape has one: the departures of an answer from a shape are its
violations of the schema, in the order of the keywords.
-/

namespace Assay

/-- The kind of a document as schemas name it. -/
def Json.typeName : Json → String
  | .null => "null"
  | .bool _ => "boolean"
  | .num _ => "number"
  | .str _ => "string"
  | .arr _ => "array"
  | .obj _ => "object"

namespace Shape

mutual

/-- Whether a schema is written in these keywords only, at every depth. -/
def isWritten : Json → Bool
  | .obj keywords => areWritten keywords
  | _ => false

/-- Whether each keyword of a schema is one of these, with a value of its kind. -/
def areWritten : List (String × Json) → Bool
  | [] => true
  | (keyword, value) :: rest =>
    (match keyword, value with
      | "items", schema => isWritten schema
      | "type", .str _ => true
      | "uniqueItems", .bool _ => true
      | _, _ => false) && areWritten rest

end

mutual

/-- The places where an answer violates the keywords of a schema. -/
def schemaViolations : Json → Json → List (List Nat × Departure)
  | .obj keywords, answer => keywordViolations keywords answer
  | _, _ => []

/-- The places where an answer violates some of these keywords. -/
def keywordViolations : List (String × Json) → Json → List (List Nat × Departure)
  | [], _ => []
  | (keyword, value) :: rest, answer =>
    (match keyword, value, answer with
      | "items", schema, .arr items => itemDepartures (schemaViolations schema) items
      | "type", .str wanted, _ =>
        if answer.typeName = wanted then [] else [([], .wrongKind wanted answer)]
      | "uniqueItems", .bool unique, .arr items => repetition unique answer items
      | _, _, _ => []) ++ keywordViolations rest answer

end

/-- The places where an answer violates a schema, if that is written in the keywords that have a
meaning here. -/
def violations (schema answer : Json) : Option (List (List Nat × Departure)) :=
  if isWritten schema then some (schemaViolations schema answer) else none

/-- What holds of strings, and of lists and sets as soon as it holds of the shape of their items, if
there is one, holds of every shape. -/
@[induction_eliminator]
theorem shape_induction {motive : Shape → Prop} (str : motive .str)
    (list : ∀ item, (∀ inner, item = some inner → motive inner) → motive (.list item))
    (set : ∀ item, (∀ inner, item = some inner → motive inner) → motive (.set item))
    (shape : Shape) : motive shape :=
  Shape.rec (motive_1 := motive) (motive_2 := fun item => ∀ inner, item = some inner → motive inner)
    str list set (fun _ none => nomatch none) (fun _ inner _ same => Option.some.inj same ▸ inner)
    shape

/-- The schema of a shape is written in these keywords. -/
theorem isWritten_schema (shape : Shape) : isWritten shape.schema = true := by
  induction shape with
  | str => rfl
  | list item ih =>
    cases item with
    | none => rfl
    | some inner => simp [schema, isWritten, areWritten, ih inner rfl]
  | set item ih =>
    cases item with
    | none => rfl
    | some inner => simp [schema, isWritten, areWritten, ih inner rfl]

theorem schemaViolations_schema (shape : Shape) (answer : Json) :
    schemaViolations shape.schema answer = shape.departures answer := by
  -- the members of a schema stand in the order in which the check lists departures
  induction shape generalizing answer with
  | str =>
    cases answer <;> simp [schema, schemaViolations, keywordViolations, departures, Json.typeName]
  | list item ih =>
    cases item with
    | none =>
      cases answer <;> simp [schema, schemaViolations, keywordViolations, departures, Json.typeName]
    | some inner =>
      have items : schemaViolations inner.schema = departures inner := funext (ih inner rfl)
      cases answer <;>
        simp [schema, schemaViolations, keywordViolations, departures, Json.typeName, items]
  | set item ih =>
    cases item with
    | none =>
      cases answer <;> simp [schema, schemaViolations, keywordViolations, departures, Json.typeName]
    | some inner =>
      have items : schemaViolations inner.schema = departures inner := funext (ih inner rfl)
      cases answer <;>
        simp [schema, schemaViolations, keywordViolations, departures, Json.typeName, items]

/-- The departures of an answer from a shape are its violations of the schema of the shape. -/
theorem violations_schema (shape : Shape) (answer : Json) :
    violations shape.schema answer = some (shape.departures answer) := by
  rw [violations, if_pos (isWritten_schema shape), schemaViolations_schema]

end Shape

end Assay
