/-!
# Text

A text is the list of its characters (Unicode scalar values): lengths count characters, and texts
are ordered by scalar value, character by character.

1. Replacing and cutting.
2. Decimal numerals.
3. Halves of surrogate pairs, which have no UTF-8 encoding.
-/

namespace ComponentManifest

/-- A text is the list of its characters. -/
abbrev Text := List Char

namespace Text

/-- The characters of a string. -/
abbrev ofString (s : String) : Text := s.toList

/-! ## Replacing and cutting -/

/-- Every occurrence of one character becomes another. -/
def replaceChar (old new : Char) (t : Text) : Text :=
  t.map fun c => if c = old then new else c

/-- The first occurrence of `old` becomes `new`; a text without one stays as it is. -/
def replaceFirst (old new : Text) : Text → Text
  | [] => []
  | c :: cs =>
    match old.isPrefixOf? (c :: cs) with
    | some rest => new ++ rest
    | none => c :: replaceFirst old new cs

/-- Drops the leading characters that satisfy `p` and those at the end. -/
def trim (p : Char → Bool) (t : Text) : Text :=
  ((t.dropWhile p).reverse.dropWhile p).reverse

/-- The parts put one after another with `sep` between them. -/
def joinWith (sep : Text) (parts : List Text) : Text := List.intercalate sep parts

/-! ## Decimal numerals -/

/-- The decimal numeral of a natural number. -/
def ofNat (n : Nat) : Text := Nat.toDigits 10 n

/-- The decimal numeral of an integer, with a minus sign when it is negative. -/
def ofInt : Int → Text
  | .ofNat n => ofNat n
  | .negSucc n => '-' :: ofNat (n + 1)

/-! ## Halves of pairs -/

/-- The character that stands for half of a surrogate pair, which is given by its sixteen-bit unit.
JSON can write a half alone. The price: 2048 characters for private use count as halves, which have
no encoding, and a half is ordered as such a character, above all that are assigned. -/
def half (unit : Nat) : Char := Char.ofNat (0x100000 + unit)

/-- Is the character half of a pair? -/
def isHalf (c : Char) : Bool := 0x10D800 ≤ c.toNat && c.toNat < 0x10E000

/-- The sixteen-bit unit of a half. -/
def halfUnit (c : Char) : Nat := c.toNat - 0x100000

/-- Does the half stand for a byte? So are bytes kept that no UTF-8 text has, in the names of
files. -/
def isByteHalf (c : Char) : Bool := 0x10DC80 ≤ c.toNat && c.toNat < 0x10DD00

/-- The halves in a row that begin with the first lost character, and how many characters are
before them. -/
def firstLost? (lost : Char → Bool) (t : Text) : Option (Nat × Text) :=
  if t.any lost then
    let before := t.takeWhile fun c => !lost c
    some (before.length, (t.drop before.length).takeWhile isHalf)
  else none

/-- The first halves in a row, and how many characters are before them. -/
def firstHalves? (t : Text) : Option (Nat × Text) := firstLost? isHalf t

end Text

end ComponentManifest
