import ComponentManifest.Imports.Alias
import ComponentManifest.Imports.Literal
import ComponentManifest.Source.Filter
import ComponentManifest.Text.Newline

/-!
# Classifying imports

Every import literal belongs to one of three buckets: packages that the project depends on,
packages it needs for development, and references to other registry items. The latter are local
components, addresses of remote items, or the literal itself.

1. The classifier and its decision on one literal.
2. Source texts.
3. Files, also in batches: a file that cannot be read is skipped and noted.
-/

namespace ComponentManifest

/-! ## One literal -/

/-- Where a classified import goes. -/
inductive Bucket where
  | dependencies
  | devDependencies
  | registryDependencies
  deriving DecidableEq, Repr

/-- A bucket and the name that goes into it. -/
structure Classification where
  bucket : Bucket
  name : Text
  deriving DecidableEq, Repr

/-- What the project declares, and which files are sources. -/
structure Classifier where
  dependencies : List Text
  devDependencies : List Text
  aliases : AliasTable
  filter : SourceFilter

namespace Classifier

/-- The reference to a registry item of a literal in normal form. -/
def reference (k : Classifier) (t : Text) : Except Fault Text :=
  match Imports.componentName? t with
  | some name => .ok name
  | none => (k.aliases.resolve t).map fun
    | some url => if url.isEmpty then t else url
    | none => t

/-- The classification of a literal in normal form. -/
def classifyNormal (k : Classifier) (t : Text) : Except Fault (Option Classification) :=
  if Imports.isSharedHelpers t then .ok none
  else
    let package := Imports.packageName t
    if k.dependencies.contains package then .ok (some ⟨.dependencies, package⟩)
    else if k.devDependencies.contains package then .ok (some ⟨.devDependencies, package⟩)
    else (k.reference t).map fun name => some ⟨.registryDependencies, name⟩

/-- The classification of a literal as written; empty and relative ones have none. -/
def classifyLiteral (k : Classifier) (t : Text) : Except Fault (Option Classification) :=
  if t.isEmpty || Imports.isRelative t then .ok none else k.classifyNormal (Unicode.nfkc t)

/-! ## Source texts -/

/-- The classifications of some literals, in order. -/
def classifyLiterals (k : Classifier) (ts : List Text) : Except Fault (List Classification) := do
  let cs ← ts.mapM k.classifyLiteral
  return cs.filterMap id

/-- The classifications of the literals of a text, in order. -/
def classifySource (k : Classifier) (t : Text) : Except Fault (List Classification) :=
  k.classifyLiterals (Imports.literals t)

end Classifier

/-! ## Files -/

/-- The names of the three buckets, each list ascending. -/
structure DependencyLists where
  dependencies : List Text
  devDependencies : List Text
  registryDependencies : List Text
  deriving DecidableEq, Repr

namespace DependencyLists

/-- The lists of the distinct names of each bucket. -/
def ofNames (dependencies devDependencies registryDependencies : List Text) : DependencyLists :=
  ⟨sortDistinct dependencies, sortDistinct devDependencies, sortDistinct registryDependencies⟩

/-- The lists of some classifications. -/
def ofClassifications (cs : List Classification) : DependencyLists :=
  let names (b : Bucket) := (cs.filter fun c => c.bucket == b).map (·.name)
  ofNames (names .dependencies) (names .devDependencies) (names .registryDependencies)

/-- Is there no dependency at all? -/
def isEmpty (d : DependencyLists) : Bool :=
  d.dependencies.isEmpty && d.devDependencies.isEmpty && d.registryDependencies.isEmpty

/-- The lists as an object. -/
def toJson (d : DependencyLists) : Json :=
  .obj [(Text.ofString "dependencies", .ofTexts d.dependencies),
    (Text.ofString "devDependencies", .ofTexts d.devDependencies),
    (Text.ofString "registryDependencies", .ofTexts d.registryDependencies)]

end DependencyLists

namespace Workspace

/-- The text of a file with plain line ends; none if the file cannot be read or is not UTF-8. -/
def readText? (w : Workspace) (p : Text) : Option Text :=
  match w.read p with
  | .ok content => (Text.decodeUtf8? content).map Text.unifyNewlines
  | .error _ => none

end Workspace

/-- What the scan of some files found, and the files that were skipped, in order. -/
structure Scan where
  found : List Classification
  skipped : List Text
  deriving DecidableEq, Repr

namespace Classifier

/-- Scans one file. A path that the operating system cannot be given cannot even be tried. -/
def scanFile (k : Classifier) (w : Workspace) (p : Text) : Outcome Scan :=
  if !k.filter.isSource p then .value ⟨[], []⟩
  else if !Path.isUsable p then .fail (.ofPath p)
  else
    match w.readText? p with
    | some t => .ofExcept ((k.classifySource t).map fun cs => ⟨cs, []⟩)
    | none => ⟨[.fileSkipped p], .ok ⟨[], [p]⟩⟩

/-- Scans files one after another. -/
def scanFiles (k : Classifier) (w : Workspace) : List Text → Outcome Scan
  | [] => .value ⟨[], []⟩
  | p :: ps => do
    let first ← k.scanFile w p
    let rest ← k.scanFiles w ps
    return ⟨first.found ++ rest.found, first.skipped ++ rest.skipped⟩

/-- The dependency lists of some files, and the files that were skipped. -/
def classifyFiles (k : Classifier) (w : Workspace) (paths : List Text) :
    Outcome (DependencyLists × List Text) := do
  let scan ← k.scanFiles w paths
  let lists := DependencyLists.ofClassifications scan.found
  Outcome.report (.importsClassified lists.dependencies.length lists.devDependencies.length
    lists.registryDependencies.length)
  return (lists, scan.skipped)

/-- The dependency lists of batches of files, one batch after another. With the lists of a batch
come all files that were skipped so far, after those that were skipped before. -/
def classifyBatches (k : Classifier) (w : Workspace) (skipped : List Text) :
    List (List Text) → Outcome (List (DependencyLists × List Text))
  | [] => .value []
  | batch :: batches => do
    let (lists, more) ← k.classifyFiles w batch
    let rest ← k.classifyBatches w (skipped ++ more) batches
    return (lists, skipped ++ more) :: rest

end Classifier

end ComponentManifest
