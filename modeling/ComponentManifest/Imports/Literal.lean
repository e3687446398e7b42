import ComponentManifest.Files.Path
import ComponentManifest.Unicode.Blank

/-!
# Import literals

The module literals of a source text and what can be read off one. A literal is a path-like text
such as `@scope/name/part`, `./local` or `@/components/ui/button`.

1. `literals`, the literals of the disjoint import clauses of a text.
2. Relative literals, the shared helper module, package names and local components.
-/

namespace ComponentManifest.Imports

open Text (ofString)

/-! ## Import clauses -/

/-- The words that introduce a literal. -/
def keywords : List Text := [ofString "import", ofString "from"]

/-- Is the character a quote? -/
def isQuote (c : Char) : Bool := c == '\'' || c == '"'

/-- The literal at the beginning of a text that follows a keyword: white space, a quote, characters
other than quotes, a quote. Also the size of all this. -/
def clauseTail? (t : Text) : Option (Text × Nat) :=
  let blanks := t.takeWhile Unicode.isBlank
  match t.drop blanks.length with
  | q :: r =>
    let literal := r.takeWhile fun c => !isQuote c
    if blanks.isEmpty || !isQuote q || literal.isEmpty || (r.drop literal.length).isEmpty then
      none
    else some (literal, blanks.length + literal.length + 2)
  | [] => none

/-- The import clause that a text begins with: its literal and its size. -/
def clause? (t : Text) : Option (Text × Nat) :=
  keywords.findSome? fun k =>
    (k.isPrefixOf? t).bind fun r => (clauseTail? r).map fun p => (p.1, k.length + p.2)

/-- The literals of a text whose first `skip` characters belong to a clause before it. -/
def literalsFrom (skip : Nat) : Text → List Text
  | [] => []
  | c :: cs =>
    match skip with
    | n + 1 => literalsFrom n cs
    | 0 =>
      match clause? (c :: cs) with
      | some (literal, size) => literal :: literalsFrom (size - 1) cs
      | none => literalsFrom 0 cs

/-- The literals of the import clauses of a text, in order. A clause that begins inside an earlier
one does not count. -/
def literals (t : Text) : List Text := literalsFrom 0 t

/-! ## Reading a literal -/

/-- A literal that begins with a dot names a file near the importing one. -/
def isRelative (t : Text) : Bool := t.head? == some '.'

/-- A text without one line feed at its end. -/
def dropFinalNewline (t : Text) : Text := if t.getLast? = some '\n' then t.dropLast else t

/-- Does the literal end in the shared helper module `lib/utils`? -/
def isSharedHelpers (t : Text) : Bool :=
  let body := dropFinalNewline t
  body == ofString "lib/utils" || (ofString "/lib/utils").isSuffixOf body

/-- The package of a literal: the scope and name of a scoped one, the first segment otherwise. An
incomplete scope leaves the literal as it is. -/
def packageName (t : Text) : Text :=
  if t.head? = some '@' then
    match Path.segments t with
    | scope :: name :: _ => if name.isEmpty then t else scope ++ '/' :: name
    | _ => t
  else (Path.segments t).head?.getD []

/-- The component at the beginning of a text `components/ui/name`. -/
def componentAt? (t : Text) : Option Text :=
  ((ofString "components/ui/").isPrefixOf? t).bind fun r =>
    let name := r.takeWhile (· != '/')
    if name.isEmpty then none else some name

/-- The first component that follows a slash. -/
def componentBelow? : Text → Option Text
  | [] => none
  | c :: cs =>
    if c = '/' then
      match componentAt? cs with
      | some name => some name
      | none => componentBelow? cs
    else componentBelow? cs

/-- The local component that a literal names: the segment after `components/ui`. -/
def componentName? (t : Text) : Option Text :=
  match componentAt? t with
  | some name => some name
  | none => componentBelow? t

end ComponentManifest.Imports
