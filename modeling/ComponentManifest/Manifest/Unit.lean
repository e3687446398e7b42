import ComponentManifest.Manifest.Name
import ComponentManifest.Report.Event
import ComponentManifest.Source.Filter

/-!
# Component units

Source files are grouped into units: all files of a directory that has an entry file, and each file
of a directory that has none. Directories and files keep the order in which they come first.

1. Units.
2. Grouping files.
3. Discovering units below a directory.
-/

namespace ComponentManifest

/-! ## Units -/

/-- One component: a directory with its files, or a loose file. -/
structure ComponentUnit where
  directory : Text
  files : List Text
  fileBased : Bool
  deriving DecidableEq, Repr

/-- What identifies a unit: the file of a loose one, the directory otherwise. -/
def ComponentUnit.key (u : ComponentUnit) : Text :=
  if u.fileBased then u.files.head?.getD u.directory else u.directory

/-! ## Grouping -/

/-- Directories with their files, both in order of first appearance. -/
abbrev Groups := List (Text × List Text)

/-- Adds a file to its directory, unless it is there already. -/
def Groups.add (dir file : Text) : Groups → Groups
  | [] => [(dir, [file])]
  | g :: gs =>
    if g.1 = dir then (dir, if g.2.contains file then g.2 else g.2 ++ [file]) :: gs
    else g :: Groups.add dir file gs

/-- The groups of a list of files. -/
def Groups.ofFiles (files : List Text) : Groups :=
  files.foldl (fun gs f => Groups.add (Path.dirname f) f gs) []

/-- The units of one directory. -/
def unitsOf (g : Text × List Text) : List ComponentUnit :=
  if g.2.any isEntryFile then [⟨g.1, g.2, false⟩] else g.2.map fun f => ⟨g.1, [f], true⟩

/-- The units of a list of files. -/
def groupFiles (files : List Text) : List ComponentUnit := (Groups.ofFiles files).flatMap unitsOf

/-! ## Discovery -/

/-- The pattern of component files: three levels below the scan directory. -/
def defaultComponentPattern : Text := Text.ofString "*/*/*"

/-- The units of the sources that a pattern stands for. `shown` is the pattern in reports. -/
def discover (f : SourceFilter) (w : Workspace) (root pattern shown : Text) :
    Outcome (List ComponentUnit) := do
  let files ← Outcome.ofExcept (f.list w root pattern)
  Outcome.report (.patternMatched shown files.length root)
  return groupFiles files

end ComponentManifest
