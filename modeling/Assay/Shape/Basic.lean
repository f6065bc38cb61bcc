import Assay.Json.Printer

/-!
# Shapes of answers

A task may declare the shape of its answers: a string, or a list or a set whose items may have a
shape of their own. A shape has a canonical spelling and a JSON Schema.
-/

namespace Assay

/-- The shape of an answer. -/
inductive Shape where
  | str
  | list (item : Option Shape)
  | set (item : Option Shape)
  deriving Repr

namespace Shape

/-- The canonical spelling of a shape. -/
def spellChars : Shape → List Char
  | .str => ['s', 't', 'r']
  | .list none => ['L', 'i', 's', 't']
  | .list (some item) => ['L', 'i', 's', 't', '['] ++ spellChars item ++ [']']
  | .set none => ['S', 'e', 't']
  | .set (some item) => ['S', 'e', 't', '['] ++ spellChars item ++ [']']

/-- The canonical spelling of a shape as text. -/
def spell (shape : Shape) : String :=
  String.ofList shape.spellChars

/-- The JSON Schema that answers of a shape satisfy. -/
def schema : Shape → Json
  | .str => .obj [("type", .str "string")]
  | .list none => .obj [("type", .str "array")]
  | .list (some item) => .obj [("items", schema item), ("type", .str "array")]
  | .set none => .obj [("type", .str "array"), ("uniqueItems", .bool true)]
  | .set (some item) =>
    .obj [("items", schema item), ("type", .str "array"), ("uniqueItems", .bool true)]

/-! ## Equality -/

/-- Whether two shapes are the same. -/
def same : Shape → Shape → Bool
  | .str, .str => true
  | .list none, .list none => true
  | .list (some a), .list (some b) => same a b
  | .set none, .set none => true
  | .set (some a), .set (some b) => same a b
  | _, _ => false

theorem same_iff (a b : Shape) : same a b = true ↔ a = b := by
  fun_induction same a b with
  | case1 => simp
  | case2 => simp
  | case3 a b ih => simpa using ih
  | case4 => simp
  | case5 a b ih => simpa using ih
  | case6 a b h₁ h₂ h₃ h₄ h₅ =>
    refine iff_of_false (by simp) ?_
    rintro rfl
    rcases a with _ | ⟨_ | item⟩ | ⟨_ | item⟩ <;> simp_all

instance : DecidableEq Shape := fun a b => decidable_of_iff _ (same_iff a b)

end Shape

end Assay
