import Assay.Shape.Basic

/-!
# Checking an answer against a shape

The check lists every place of an answer that departs from the shape, by its JSON pointer. The
items of a list come first, then the list itself; below a place of the wrong kind nothing is
looked at. A set has no two equal items, where numbers are equal by value.
-/

namespace Assay

/-! ## Equal documents -/

/-- Whether `± mantissa * 2 ^ exponent` is an integer, and which. -/
def wholeValue (x : Float) : Option Int :=
  match Decimal.Binary64.ofFloat x with
  | .finite negative mantissa exponent =>
    let up := mantissa * Decimal.Binary64.upPower 2 exponent
    let down := Decimal.Binary64.downPower 2 exponent
    if up % down = 0 then
      some (if negative then -((up / down : Nat) : Int) else ((up / down : Nat) : Int))
    else none
  | _ => none

/-- Whether two numbers have the same value. -/
def Json.Number.sameValue : Json.Number → Json.Number → Bool
  | .int a, .int b => a == b
  | .int a, .float b => wholeValue b == some a
  | .float a, .int b => wholeValue a == some b
  | .float a, .float b => a == b

/-- Whether two numbers have the same value and the same form. -/
def Json.Number.sameForm : Json.Number → Json.Number → Bool
  | .int a, .int b => a == b
  | .float a, .float b => a.toBits == b.toBits
  | _, _ => false

namespace Json

mutual

/-- Whether two documents are equal, given when two numbers are. -/
def equalBy (number : Number → Number → Bool) : Json → Json → Bool
  | .null, .null => true
  | .bool a, .bool b => a == b
  | .num a, .num b => number a b
  | .str a, .str b => a == b
  | .arr as, .arr bs => equalItems number as bs
  | .obj as, .obj bs => equalMembers number as bs
  | _, _ => false

/-- Whether two lists are equal item by item. -/
def equalItems (number : Number → Number → Bool) : List Json → List Json → Bool
  | [], [] => true
  | a :: as, b :: bs => equalBy number a b && equalItems number as bs
  | _, _ => false

/-- Whether two sorted lists of members are equal member by member. -/
def equalMembers (number : Number → Number → Bool) :
    List (String × Json) → List (String × Json) → Bool
  | [], [] => true
  | (j, a) :: as, (k, b) :: bs => j == k && equalBy number a b && equalMembers number as bs
  | _, _ => false

end

end Json

/-- Lists of more items than this compare numbers also by their form. -/
def exactComparisonLimit : Nat := 15

/-- Whether no two items of a list are equal. -/
def allDifferent (items : List Json) : Bool :=
  let number :=
    if items.length ≤ exactComparisonLimit then Json.Number.sameValue else Json.Number.sameForm
  distinct (Json.equalBy number) items
where
  /-- Whether no two items are related. -/
  distinct (equal : Json → Json → Bool) : List Json → Bool
    | [] => true
    | item :: rest => !rest.any (equal item) && distinct equal rest

/-! ## Departures -/

/-- How a place departs from its shape. -/
inductive Departure where
  /-- The place holds something of another kind than the wanted one. -/
  | wrongKind (wanted : String) (found : Json)
  /-- The place holds a set with equal items. -/
  | repeatedItems (found : Json)

/-- The wording of a departure. -/
def Departure.message : Departure → String
  | .wrongKind wanted found => found.compact ++ " is not of type \"" ++ wanted ++ "\""
  | .repeatedItems found => found.compact ++ " has non-unique elements"

namespace Shape

/-- Whether a kind of list admits equal items, as departures of a given list. -/
def repetition (unique : Bool) (answer : Json) (items : List Json) : List (List Nat × Departure) :=
  if unique && !allDifferent items then [([], .repeatedItems answer)] else []

/-- The departures of each item, led by its position. -/
def itemDepartures (check : Json → List (List Nat × Departure)) (items : List Json) :
    List (List Nat × Departure) :=
  items.zipIdx.flatMap fun (item, i) => (check item).map fun (place, d) => (i :: place, d)

/-- Every departure of an answer from a shape, with the positions that lead to its place. -/
def departures : Shape → Json → List (List Nat × Departure)
  | .str, .str _ => []
  | .str, answer => [([], .wrongKind "string" answer)]
  | .list none, .arr _ => []
  | .list (some item), .arr items => itemDepartures (departures item) items
  | .list _, answer => [([], .wrongKind "array" answer)]
  | .set none, .arr items => repetition true (.arr items) items
  | .set (some item), .arr items =>
    itemDepartures (departures item) items ++ repetition true (.arr items) items
  | .set _, answer => [([], .wrongKind "array" answer)]

/-- The JSON pointer of a place. -/
def pointer (place : List Nat) : String :=
  String.join (place.map fun i => "/" ++ toString i)

/-- Checks an answer; a reason lists every departure with its place. -/
def check (shape : Shape) (answer : Json) : Except String Unit :=
  match shape.departures answer with
  | [] => .ok ()
  | found =>
    .error (String.intercalate "; "
      (found.map fun (place, d) => pointer place ++ ": " ++ d.message))

end Shape

end Assay
