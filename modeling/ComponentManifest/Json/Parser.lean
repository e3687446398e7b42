import ComponentManifest.Json.Value
import ComponentManifest.Report.Nesting

/-!
# Reading JSON

A strict reader: no raw control characters in strings, no comments, no trailing commas, nothing
after the value. Besides the standard numbers it reads `NaN`, `Infinity` and `-Infinity`. It gives
up where an array or object begins for which the stack has no room.

1. Blanks and strings.
2. Numbers.
3. Values; each one uses up one unit of fuel, and a text has no more values than characters.
-/

namespace ComponentManifest.Json

/-! ## Blanks and strings -/

/-- The blanks between the tokens of a value. -/
def isSpace (c : Char) : Bool := c == ' ' || c == '\t' || c == '\n' || c == '\r'

/-- What follows the leading blanks. -/
def skipSpace (t : Text) : Text := t.dropWhile isSpace

/-- The value of a hexadecimal digit. -/
def hexValue? (c : Char) : Option Nat :=
  if '0' ≤ c ∧ c ≤ '9' then some (c.toNat - 0x30)
  else if 'a' ≤ c ∧ c ≤ 'f' then some (c.toNat - 0x57)
  else if 'A' ≤ c ∧ c ≤ 'F' then some (c.toNat - 0x37)
  else none

/-- The number that four hexadecimal digits write. -/
def unit? (a b c d : Char) : Option Nat := do
  let a ← hexValue? a
  let b ← hexValue? b
  let c ← hexValue? c
  let d ← hexValue? d
  return ((a * 16 + b) * 16 + c) * 16 + d

/-- The character of a code unit, which may be half of a pair. -/
def unitChar (n : Nat) : Char :=
  if 0xD800 ≤ n ∧ n < 0xE000 then Text.half n else Char.ofNat n

/-- The character that two code units write, if they are a pair. -/
def pairChar? (high low : Nat) : Option Char :=
  if 0xD800 ≤ high ∧ high < 0xDC00 ∧ 0xDC00 ≤ low ∧ low < 0xE000 then
    some (Char.ofNat (0x10000 + (high - 0xD800) * 0x400 + (low - 0xDC00)))
  else none

/-- The character that a one-letter escape stands for. -/
def escaped? : Char → Option Char
  | '"' => some '"'
  | '\\' => some '\\'
  | '/' => some '/'
  | 'b' => some '\x08'
  | 'f' => some '\x0c'
  | 'n' => some '\n'
  | 'r' => some '\r'
  | 't' => some '\t'
  | _ => none

/-- Puts a character before the text that was read. -/
def consRead (c : Char) (r : Option (Text × Text)) : Option (Text × Text) :=
  r.map fun p => (c :: p.1, p.2)

/-- The text up to the closing quote, and what follows it. -/
def readString : Text → Option (Text × Text)
  | [] => none
  | '"' :: r => some ([], r)
  | '\\' :: 'u' :: a :: b :: c :: d :: '\\' :: 'u' :: e :: f :: g :: h :: r =>
    match unit? a b c d, unit? e f g h with
    | some u, some v =>
      match pairChar? u v with
      | some x => consRead x (readString r)
      | none => consRead (unitChar u) (readString ('\\' :: 'u' :: e :: f :: g :: h :: r))
    | _, _ => none
  | '\\' :: 'u' :: a :: b :: c :: d :: r =>
    match unit? a b c d with
    | some u => consRead (unitChar u) (readString r)
    | none => none
  | '\\' :: e :: r =>
    match escaped? e with
    | some x => consRead x (readString r)
    | none => none
  | c :: r => if c.toNat < 0x20 ∨ c = '\\' then none else consRead c (readString r)

/-! ## Numbers -/

/-- Is the character an ASCII digit? -/
def isDigit (c : Char) : Bool := '0' ≤ c && c ≤ '9'

/-- The number that a run of digits writes. -/
def digitsValue (ds : Text) : Nat := ds.foldl (fun n d => n * 10 + (d.toNat - 0x30)) 0

/-- Integers of more digits are refused. -/
def maxIntegerDigits : Nat := 4300

/-- The digits of a fraction, when a point with a digit follows. -/
def readFraction : Text → Text × Text
  | '.' :: d :: r => if isDigit d then (d :: r).span isDigit else ([], '.' :: d :: r)
  | r => ([], r)

/-- The exponent, when a letter with digits follows. -/
def readExponent (t : Text) : Option Int × Text :=
  match t with
  | e :: r =>
    if e = 'e' ∨ e = 'E' then
      let signed := match r with
        | '-' :: s => (true, s)
        | '+' :: s => (false, s)
        | s => (false, s)
      let digits := signed.2.span isDigit
      if digits.1.isEmpty then (none, t)
      else
        let n := digitsValue digits.1
        (some (if signed.1 then -(n : Int) else n), digits.2)
    else (none, t)
  | [] => (none, t)

/-- A number after its sign, and what follows it. -/
def readUnsigned (negative : Bool) (t : Text) : Option (Json × Text) :=
  let whole := match t with
    | '0' :: r => (['0'], r)
    | r => r.span isDigit
  if whole.1.isEmpty then none
  else
    let fraction := readFraction whole.2
    let exponent := readExponent fraction.2
    if fraction.1.isEmpty && exponent.1.isNone then
      if maxIntegerDigits < whole.1.length then none
      else
        let n := digitsValue whole.1
        some (.int (if negative then -(n : Int) else n), whole.2)
    else
      let digits := digitsValue (whole.1 ++ fraction.1)
      let e := exponent.1.getD 0 - fraction.1.length
      some (.float (Binary64.ofDecimal negative digits e), exponent.2)

/-- A number, and what follows it. -/
def readNumber : Text → Option (Json × Text)
  | '-' :: r =>
    match (Text.ofString "Infinity").isPrefixOf? r with
    | some s => some (.float (.infinite true), s)
    | none => readUnsigned true r
  | r => readUnsigned false r

/-- The value that a word stands for. -/
def words : List (Text × Json) :=
  [(Text.ofString "null", .null), (Text.ofString "true", .bool true),
    (Text.ofString "false", .bool false), (Text.ofString "NaN", .float .nan),
    (Text.ofString "Infinity", .float (.infinite false))]

/-- A word, and what follows it. -/
def readWord (t : Text) : Option (Json × Text) :=
  words.findSome? fun w => (w.1.isPrefixOf? t).map fun r => (w.2, r)

/-! ## Values -/

/-- Why a text has no value. What comes first in the text decides. -/
inductive Failure where
  | malformed
  | tooDeep (what : Nested)
  deriving DecidableEq, Repr

/-- What was read; a text of another form is malformed. -/
def found {α : Type} : Option α → Except Failure α
  | some a => .ok a
  | none => .error .malformed

mutual

/-- A value that begins at once, and what follows it. `room` is how many arrays and objects it may
have one inside the other. -/
def readValue : Nat → Nat → Text → Except Failure (Json × Text)
  | 0, _, _ => .error .malformed
  | n + 1, room, t =>
    match t with
    | '"' :: r => found ((readString r).map fun p => (.str p.1, p.2))
    | '[' :: r =>
      match room with
      | 0 => .error (.tooDeep .array)
      | room + 1 =>
        match skipSpace r with
        | ']' :: s => .ok (.arr [], s)
        | s => (readElements n room s).map fun p => (.arr p.1, p.2)
    | '{' :: r =>
      match room with
      | 0 => .error (.tooDeep .object)
      | room + 1 =>
        match skipSpace r with
        | '}' :: s => .ok (.obj [], s)
        | s => (readMembers n room s).map fun p => (ofMembers p.1, p.2)
    | _ =>
      match readWord t with
      | some w => .ok w
      | none => found (readNumber t)

/-- The elements up to the closing bracket. -/
def readElements : Nat → Nat → Text → Except Failure (List Json × Text)
  | 0, _, _ => .error .malformed
  | n + 1, room, t =>
    match readValue n room t with
    | .error e => .error e
    | .ok (v, r) =>
      match skipSpace r with
      | ']' :: s => .ok ([v], s)
      | ',' :: s => (readElements n room (skipSpace s)).map fun p => (v :: p.1, p.2)
      | _ => .error .malformed

/-- The members up to the closing brace. -/
def readMembers : Nat → Nat → Text → Except Failure (List (Text × Json) × Text)
  | 0, _, _ => .error .malformed
  | n + 1, room, t =>
    match t with
    | '"' :: r =>
      match readString r with
      | none => .error .malformed
      | some (key, r) =>
        match skipSpace r with
        | ':' :: r =>
          match readValue n room (skipSpace r) with
          | .error e => .error e
          | .ok (v, r) =>
            match skipSpace r with
            | '}' :: s => .ok ([(key, v)], s)
            | ',' :: s => (readMembers n room (skipSpace s)).map fun p => ((key, v) :: p.1, p.2)
            | _ => .error .malformed
        | _ => .error .malformed
    | _ => .error .malformed

end

/-- The value that a text writes. -/
def parse (t : Text) : Except Failure Json :=
  match readValue (2 * t.length + 1) maxLevels (skipSpace t) with
  | .error e => .error e
  | .ok (v, r) => if (skipSpace r).isEmpty then .ok v else .error .malformed

/-- The value that a text writes, if it is well formed and not nested too deep. -/
def parse? (t : Text) : Option Json := (parse t).toOption

end ComponentManifest.Json
