import ComponentManifest.Number.Binary64

/-!
# JSON values

Objects keep their members in the order in which the keys first appeared; a key that is given again
keeps its place and takes the new value.

1. The type and its shape tests.
2. Members of an object.
-/

namespace ComponentManifest

/-- A JSON value. -/
inductive Json where
  | null
  | bool (b : Bool)
  | int (n : Int)
  | float (x : Binary64)
  | str (t : Text)
  | arr (elements : List Json)
  | obj (members : List (Text × Json))
  deriving Inhabited

/-- The members of an object, in order. -/
abbrev Members := List (Text × Json)

/-- Sets a member: in place when the key is there, at the end otherwise. -/
def Members.set (key : Text) (value : Json) : Members → Members
  | [] => [(key, value)]
  | m :: ms => if m.1 = key then (key, value) :: ms else m :: Members.set key value ms

/-- The value of a key. -/
def Members.get? (ms : Members) (key : Text) : Option Json := List.lookup key ms

/-- The keys in order. -/
def Members.keys (ms : Members) : List Text := ms.map (·.1)

namespace Json

/-- The object with the given members, a repeated key counting once. -/
def ofMembers (ms : List (Text × Json)) : Json :=
  .obj (ms.foldl (fun acc m => Members.set m.1 m.2 acc) [])

/-- A list of texts. -/
def ofTexts (ts : List Text) : Json := .arr (ts.map .str)

/-- A text, or null for none. -/
def ofText? : Option Text → Json
  | some t => .str t
  | none => .null

/-- Does the value count as given? Null, false, zero and everything empty do not. -/
def isGiven : Json → Bool
  | .null => false
  | .bool b => b
  | .int n => n != 0
  | .float x => !x.isZero
  | .str t => !t.isEmpty
  | .arr xs => !xs.isEmpty
  | .obj ms => !ms.isEmpty

/-- The text of a string value. -/
def text? : Json → Option Text
  | .str t => some t
  | _ => none

/-- The texts of an array of strings. -/
def texts? : Json → Option (List Text)
  | .arr xs => xs.mapM text?
  | _ => none

end Json

end ComponentManifest
