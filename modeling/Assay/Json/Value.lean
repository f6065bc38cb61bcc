/-!
# JSON documents

The values that a JSON text can hold. The members of an object are a list of named values; a
document that was read from a text has them in ascending order of their names, each name once,
because `insertMember` is how the reader adds them.
-/

namespace Assay

/-- A number of a document: an integer that fits 64 bits, or a finite floating-point number. -/
inductive Json.Number where
  | int (value : Int)
  | float (value : Float)
  deriving Repr, Inhabited

/-- A JSON document. -/
inductive Json where
  | null
  | bool (value : Bool)
  | num (value : Json.Number)
  | str (value : String)
  | arr (items : List Json)
  | obj (members : List (String × Json))
  deriving Repr, Inhabited

namespace Json

/-- A floating-point number as a document; what is not finite has no JSON number and is null. -/
def ofFloat (x : Float) : Json :=
  if x.isFinite then .num (.float x) else .null

/-- Adds a member in ascending order of names; a name that is there already takes the new value. -/
def insertMember (name : String) (value : Json) : List (String × Json) → List (String × Json)
  | [] => [(name, value)]
  | (key, old) :: rest =>
    if name < key then (name, value) :: (key, old) :: rest
    else if name = key then (name, value) :: rest
    else (key, old) :: insertMember name value rest

/-- The members of an object in ascending order; of several with one name the last counts. -/
def sortMembers (members : List (String × Json)) : List (String × Json) :=
  members.foldl (fun sorted m => insertMember m.1 m.2 sorted) []

/-- The items of an array. -/
def items? : Json → Option (List Json)
  | .arr items => some items
  | _ => none

/-- The text of a string. -/
def text? : Json → Option String
  | .str s => some s
  | _ => none

/-- The member of an object with a given name. -/
def member? (name : String) : Json → Option Json
  | .obj members => members.lookup name
  | _ => none

end Json

end Assay
