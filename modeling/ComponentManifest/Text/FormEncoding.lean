import ComponentManifest.Text.Utf8

/-!
# Form encoding

Name and value pairs as a query string (application/x-www-form-urlencoded): letters, digits and
`* - . _` stand for themselves, a space is a plus sign, and every other byte of the UTF-8 encoding
is a percent sign with two hexadecimal digits. A text with halves of pairs has no encoding.
-/

namespace ComponentManifest.Text

/-- An upper-case hexadecimal digit. -/
def hexDigit (n : Nat) : Char := if n < 10 then Char.ofNat (0x30 + n) else Char.ofNat (0x37 + n)

/-- Does the character stand for itself in a query? -/
def isFormSafe (c : Char) : Bool :=
  c.isAlphanum || c == '*' || c == '-' || c == '.' || c == '_'

/-- One byte of a name or value. -/
def formByte (b : UInt8) : Text :=
  let c := Char.ofNat b.toNat
  if isFormSafe c then [c]
  else if c = ' ' then ['+']
  else ['%', hexDigit (b.toNat / 16), hexDigit (b.toNat % 16)]

/-- How a name or value is spelled inside a query. -/
def formSpelling (t : Text) : Text := (encodeUtf8 t).flatMap formByte

/-- A name or value inside a query, or its first halves and how many characters are before them. -/
def formEncode (t : Text) : Except (Nat × Text) Text :=
  match firstHalves? t with
  | some halves => .error halves
  | none => .ok (formSpelling t)

/-- A name and its value inside a query. -/
def formPair (p : Text × Text) : Except (Nat × Text) Text := do
  let name ← formEncode p.1
  let value ← formEncode p.2
  return name ++ '=' :: value

/-- The pairs of a query, in their order. -/
def formQuery (pairs : List (Text × Text)) : Except (Nat × Text) Text := do
  let parts ← pairs.mapM formPair
  return joinWith ['&'] parts

end ComponentManifest.Text
