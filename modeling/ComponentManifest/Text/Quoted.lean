import ComponentManifest.Text.Basic
import ComponentManifest.Unicode.Printable

/-!
# Quoted text

How a text is shown inside a message: between single quotes, or between double quotes when it holds
single quotes only; the quote, the backslash and what is not printable are escaped.
-/

namespace ComponentManifest.Text

/-- The lower-case hexadecimal numeral of `n`, filled up with zeros to `width` digits. -/
def hexadecimal (width n : Nat) : Text :=
  let digits := Nat.toDigits 16 n
  List.replicate (width - digits.length) '0' ++ digits

/-- The quote for a text: single, unless the text holds single quotes and no double ones. -/
def quoteFor (t : Text) : Char :=
  if t.contains '\'' && !t.contains '"' then '"' else '\''

/-- One character inside a text quoted with `q`. -/
def quotedChar (q c : Char) : Text :=
  if c = q ∨ c = '\\' then ['\\', c]
  else if c = '\n' then ['\\', 'n']
  else if c = '\r' then ['\\', 'r']
  else if c = '\t' then ['\\', 't']
  else if isHalf c then '\\' :: 'u' :: hexadecimal 4 (halfUnit c)
  else if Unicode.isPrintable c then [c]
  else if c.toNat < 0x100 then '\\' :: 'x' :: hexadecimal 2 c.toNat
  else if c.toNat < 0x10000 then '\\' :: 'u' :: hexadecimal 4 c.toNat
  else '\\' :: 'U' :: hexadecimal 8 c.toNat

/-- A text in quotes. -/
def quoted (t : Text) : Text :=
  let q := quoteFor t
  q :: t.flatMap (quotedChar q) ++ [q]

end ComponentManifest.Text
