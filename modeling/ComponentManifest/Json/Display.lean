import ComponentManifest.Json.Value
import ComponentManifest.Text.Quoted

/-!
# Showing JSON values

The plain text of a value where a text is expected: a string is itself, and inside a list or a
mapping it is quoted.
-/

namespace ComponentManifest.Json

mutual

/-- A value inside a list or mapping. -/
def shown : Json → Text
  | .null => Text.ofString "None"
  | .bool b => Text.ofString (if b then "True" else "False")
  | .int n => Text.ofInt n
  | .float x => x.toText (Text.ofString "inf") (Text.ofString "nan")
  | .str t => Text.quoted t
  | .arr xs => '[' :: shownElements xs ++ [']']
  | .obj ms => '\x7b' :: shownMembers ms ++ ['\x7d']

/-- Elements with a comma and a blank between them. -/
def shownElements : List Json → Text
  | [] => []
  | [x] => shown x
  | x :: xs => shown x ++ ',' :: ' ' :: shownElements xs

/-- Members with a comma and a blank between them. -/
def shownMembers : List (Text × Json) → Text
  | [] => []
  | [(k, v)] => Text.quoted k ++ ':' :: ' ' :: shown v
  | (k, v) :: ms => Text.quoted k ++ ':' :: ' ' :: shown v ++ ',' :: ' ' :: shownMembers ms

end

/-- The plain text of a value. -/
def display : Json → Text
  | .str t => t
  | v => shown v

end ComponentManifest.Json
