import ComponentManifest.Report.Event

/-!
# Registry types

The type of an item or file is read off its path: the deepest segment that names a known kind of
directory decides. A path without one passes its first segment through.

1. Kinds and tags.
2. The table of directory names.
3. `TagMemo`, the tags found so far.
-/

namespace ComponentManifest

open Text (ofString)

/-! ## Kinds and tags -/

/-- The known kinds of registry items and files. -/
inductive Kind where
  | lib
  | block
  | component
  | ui
  | hook
  | composable
  | page
  | file
  | theme
  | style
  | item
  deriving DecidableEq, Repr

namespace Kind

/-- All kinds. -/
def all : List Kind :=
  [lib, block, component, ui, hook, composable, page, file, theme, style, item]

/-- The word for a kind. -/
def word : Kind → Text
  | lib => ofString "lib"
  | block => ofString "block"
  | component => ofString "component"
  | ui => ofString "ui"
  | hook => ofString "hook"
  | composable => ofString "composable"
  | page => ofString "page"
  | file => ofString "file"
  | theme => ofString "theme"
  | style => ofString "style"
  | item => ofString "item"

end Kind

/-- The type of a path: a known kind, or a segment that is passed through. -/
inductive Tag where
  | known (k : Kind)
  | passed (segment : Option Text)
  deriving DecidableEq, Repr

/-- How a tag is written. -/
def Tag.text : Tag → Text
  | .known k => ofString "registry:" ++ k.word
  | .passed s => ofString "registry:" ++ s.getD []

/-- Is the tag a known kind? -/
def Tag.isKnown : Tag → Bool
  | .known _ => true
  | .passed _ => false

/-! ## The table -/

/-- Directory names and their kinds. -/
abbrev TagTable := List (Text × Kind)

namespace TagTable

/-- The directory names of a component library, in singular and plural. -/
def standard : TagTable :=
  [(ofString "lib", .lib), (ofString "block", .block), (ofString "blocks", .block),
    (ofString "component", .component), (ofString "components", .component),
    (ofString "ui", .ui), (ofString "hook", .hook), (ofString "composable", .composable),
    (ofString "composables", .composable), (ofString "page", .page), (ofString "pages", .page),
    (ofString "file", .file), (ofString "files", .file), (ofString "theme", .theme),
    (ofString "style", .style), (ofString "item", .item)]

/-- The kind of the deepest segment that is in the table; segments are given last to first. -/
def deepest (table : TagTable) (reversed : List Text) : Option Kind :=
  reversed.findSome? fun s => table.lookup s

/-- The tag of a path. -/
def tag (table : TagTable) (path : Text) : Tag :=
  let ss := Path.segments path
  match table.deepest ss.reverse with
  | some k => .known k
  | none => .passed ss.head?

end TagTable

/-! ## The memo -/

/-- Paths with the tags that were found for them. -/
abbrev TagMemo := List (Text × Tag)

/-- The tag of a path with the memo after it; only a path that is new is looked at, and a segment
that is passed through is reported then. -/
def TagMemo.tag (table : TagTable) (memo : TagMemo) (path : Text) :
    List Event × Tag × TagMemo :=
  match memo.lookup path with
  | some t => ([], t, memo)
  | none =>
    let t := table.tag path
    let events := match t with
      | .known _ => []
      | .passed s => [.typeFallback path (s.getD [])]
    (events, t, memo ++ [(path, t)])

end ComponentManifest
