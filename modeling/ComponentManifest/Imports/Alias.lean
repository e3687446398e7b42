import ComponentManifest.Json.Display
import ComponentManifest.Report.Event
import ComponentManifest.Text.FormEncoding
import ComponentManifest.Unicode.Normalization

/-!
# Registry aliases

An alias maps the literals that begin with a key to addresses of a remote registry. The address is
a template in which the rest of the literal takes the place of `{name}`, followed by query
parameters. A table is tried in order, and the first alias whose key matches decides.

1. Aliases.
2. Tables.
3. Reading a table from a configuration.
-/

namespace ComponentManifest

open Text (ofString)

/-! ## Aliases -/

/-- One alias. -/
structure Alias where
  key : Text
  template : Text
  params : List (Text × Text)
  headers : List (Text × Text)
  deriving Repr, DecidableEq

namespace Alias

/-- The alias of a key in any spelling. -/
def make (key template : Text) (params headers : List (Text × Text)) : Alias :=
  ⟨Unicode.nfkc key, template, params, headers⟩

/-- Does the key match whole segments at the beginning of a literal? A single line feed after the
key counts as its end. -/
def matchesLiteral (a : Alias) (t : Text) : Bool :=
  match a.key.isPrefixOf? t with
  | some [] => true
  | some ('/' :: _) => true
  | some ['\n'] => true
  | _ => false

/-- What follows the key and a slash. -/
def rest (a : Alias) (t : Text) : Text := t.drop (a.key.length + 1)

/-- The place of the name in a template. -/
def placeholder : Text := ofString "\x7bname\x7d"

/-- What follows an address: a question mark and the parameters, if there are any. -/
def query (a : Alias) : Except Fault Text :=
  if a.params.isEmpty then .ok []
  else
    match Text.formQuery a.params with
    | .ok q => .ok ('?' :: q)
    | .error (position, halves) => .error (.unencodable position halves)

/-- The address of a name. -/
def url (a : Alias) (name : Text) : Except Fault Text :=
  a.query.map fun q => Text.replaceFirst placeholder name a.template ++ q

end Alias

/-! ## Tables -/

/-- Aliases in the order in which they are tried. -/
abbrev AliasTable := List Alias

/-- The address of a literal: that of the first alias which matches, unless nothing follows the
key. -/
def AliasTable.resolve : AliasTable → Text → Except Fault (Option Text)
  | [], _ => .ok none
  | a :: as, t =>
    if a.matchesLiteral t then
      let name := a.rest t
      if name.isEmpty then .ok none else (a.url name).map some
    else AliasTable.resolve as t

/-! ## Reading a table -/

/-- The name of a value's shape in messages. -/
def Json.shapeName : Json → Text
  | .null => ofString "NoneType"
  | .bool _ => ofString "bool"
  | .int _ => ofString "int"
  | .float _ => ofString "float"
  | .str _ => ofString "str"
  | .arr _ => ofString "list"
  | .obj _ => ofString "dict"

namespace Alias

/-- The texts of a mapping's values; a value that counts as missing is an empty mapping. -/
def textPairs (v : Option Json) : Except Fault (List (Text × Text)) :=
  match v with
  | none => .ok []
  | some v =>
    if !v.isGiven then .ok []
    else
      match v with
      | .obj ms => .ok (ms.map fun m => (m.1, m.2.display))
      | _ => .error (.notMapping v.shapeName)

/-- One entry of a table: an address, or an object with an address and more. -/
def ofJson (key : Text) : Json → Except Fault Alias
  | .str template => .ok (make key template [] [])
  | .obj ms =>
    match Members.get? ms (ofString "url") with
    | some (.str template) => do
      let params ← textPairs (Members.get? ms (ofString "params"))
      let headers ← textPairs (Members.get? ms (ofString "headers"))
      return make key template params headers
    | _ => .error (.aliasShape key)
  | _ => .error (.aliasShape key)

end Alias

/-- The entries of a table, in order. -/
def AliasTable.ofMembers : Members → Except Fault AliasTable
  | [] => .ok []
  | m :: ms => do
    let a ← Alias.ofJson m.1 m.2
    let as ← AliasTable.ofMembers ms
    return a :: as

/-- The table of a configuration value; a value that counts as missing is an empty table. -/
def AliasTable.ofJson (registries : Json) : Outcome AliasTable :=
  if !registries.isGiven then .value []
  else
    match registries with
    | .obj ms =>
      match AliasTable.ofMembers ms with
      | .ok table => ⟨[.aliasesLoaded table.length], .ok table⟩
      | .error e => .fail e
    | _ => .fail .registriesNotObject

end ComponentManifest
