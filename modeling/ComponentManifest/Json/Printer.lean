import ComponentManifest.Json.Value
import ComponentManifest.Text.Quoted

/-!
# Writing JSON

A value is written on one line, or with one element or member a line and two blanks for each level.
Strings escape the quote, the backslash and control characters, and on request all that is not
ASCII.

1. Strings.
2. The two layouts.
-/

namespace ComponentManifest.Json

/-! ## Strings -/

/-- Which characters of a string are written as they are. -/
inductive Charset where
  | unicode
  | ascii
  deriving DecidableEq, Repr

/-- The escape of a sixteen-bit unit. -/
def unitEscape (n : Nat) : Text := '\\' :: 'u' :: Text.hexadecimal 4 n

/-- One character inside a string. -/
def stringChar (set : Charset) (c : Char) : Text :=
  if c = '"' ∨ c = '\\' then ['\\', c]
  else if c = '\n' then ['\\', 'n']
  else if c = '\r' then ['\\', 'r']
  else if c = '\t' then ['\\', 't']
  else if c = '\x0c' then ['\\', 'f']
  else if c = '\x08' then ['\\', 'b']
  else if c.toNat < 0x20 then unitEscape c.toNat
  else if set = .unicode ∨ c.toNat < 0x7F then [c]
  else if Text.isHalf c then unitEscape (Text.halfUnit c)
  else if c.toNat < 0x10000 then unitEscape c.toNat
  else
    let k := c.toNat - 0x10000
    unitEscape (0xD800 + k / 0x400) ++ unitEscape (0xDC00 + k % 0x400)

/-- A string in quotes. -/
def stringText (set : Charset) (t : Text) : Text := '"' :: t.flatMap (stringChar set) ++ ['"']

/-- The text of a number that may be out of range. -/
def floatText (x : Binary64) : Text :=
  x.toText (Text.ofString "Infinity") (Text.ofString "NaN")

/-! ## Layouts -/

/-- A line break followed by two blanks for each level. -/
def newline (level : Nat) : Text := '\n' :: List.replicate (2 * level) ' '

mutual

/-- The value on one line. -/
def line (set : Charset) : Json → Text
  | .null => Text.ofString "null"
  | .bool b => Text.ofString (if b then "true" else "false")
  | .int n => Text.ofInt n
  | .float x => floatText x
  | .str t => stringText set t
  | .arr xs => '[' :: lineElements set xs ++ [']']
  | .obj ms => '\x7b' :: lineMembers set ms ++ ['\x7d']

/-- Elements with a comma and a blank between them. -/
def lineElements (set : Charset) : List Json → Text
  | [] => []
  | [x] => line set x
  | x :: xs => line set x ++ ',' :: ' ' :: lineElements set xs

/-- Members with a comma and a blank between them. -/
def lineMembers (set : Charset) : List (Text × Json) → Text
  | [] => []
  | [(k, v)] => stringText set k ++ ':' :: ' ' :: line set v
  | (k, v) :: ms => stringText set k ++ ':' :: ' ' :: line set v ++ ',' :: ' ' :: lineMembers set ms

end

mutual

/-- The value with an element or member a line, at a level of nesting. -/
def block (set : Charset) (level : Nat) : Json → Text
  | .null => Text.ofString "null"
  | .bool b => Text.ofString (if b then "true" else "false")
  | .int n => Text.ofInt n
  | .float x => floatText x
  | .str t => stringText set t
  | .arr [] => ['[', ']']
  | .arr (x :: xs) =>
    '[' :: blockElements set (level + 1) (x :: xs) ++ newline level ++ [']']
  | .obj [] => ['\x7b', '\x7d']
  | .obj (m :: ms) =>
    '\x7b' :: blockMembers set (level + 1) (m :: ms) ++ newline level ++ ['\x7d']

/-- Elements, each on a line of its own. -/
def blockElements (set : Charset) (level : Nat) : List Json → Text
  | [] => []
  | [x] => newline level ++ block set level x
  | x :: xs => newline level ++ block set level x ++ ',' :: blockElements set level xs

/-- Members, each on a line of its own. -/
def blockMembers (set : Charset) (level : Nat) : List (Text × Json) → Text
  | [] => []
  | [(k, v)] => newline level ++ stringText set k ++ ':' :: ' ' :: block set level v
  | (k, v) :: ms =>
    newline level ++ stringText set k ++ ':' :: ' ' :: block set level v ++
      ',' :: blockMembers set level ms

end

end ComponentManifest.Json
