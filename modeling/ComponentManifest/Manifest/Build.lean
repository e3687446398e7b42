import ComponentManifest.Manifest.Schema
import ComponentManifest.Project.Load

/-!
# Building a manifest

The items of a manifest are made one after another from the units found in the scan directory. The
builder remembers the tags of paths and the files it had to skip, so that a second run can use it.

1. The builder's memory, and the classifier of a project.
2. One item.
3. All items.
4. Writing the manifest.
-/

namespace ComponentManifest

/-! ## Memory -/

/-- What a builder keeps from run to run: the classifier once it is made, the tags found, and the
files skipped. -/
structure BuildMemory where
  classifier : Option Classifier
  memo : TagMemo
  skipped : List Text
  deriving Inhabited

/-- Nothing remembered. -/
def BuildMemory.fresh : BuildMemory := ⟨none, [], []⟩

/-- The classifier of a project. Packages named in the configuration are added to the declared
ones, and its alias table, if it has one, replaces the project's. -/
def makeClassifier (c : Config) (p : ProjectDependencies) (f : SourceFilter) :
    Outcome Classifier := do
  let aliases ← AliasTable.ofJson (.obj (c.registries.getD p.registries))
  return ⟨p.dependencies ++ c.dependencies, p.devDependencies ++ c.devDependencies, aliases, f⟩

/-- The classifier of a configuration; what the project declares is read from its files unless it
is given. -/
def configClassifier (w : Workspace) (c : Config) (given : Option ProjectDependencies)
    (f : SourceFilter) : Outcome Classifier :=
  match given with
  | some p => makeClassifier c p f
  | none => do
    let loaded ← loadProject w c.root
    makeClassifier c loaded f

/-! ## One item -/

/-- The tags of some paths, in order, with the memo after them. -/
def tagPaths (memo : TagMemo) : List Text → List Event × List ItemFile × TagMemo
  | [] => ([], [], memo)
  | p :: ps =>
    let (events, tag, memo) := memo.tag .standard p
    let (moreEvents, files, memo) := tagPaths memo ps
    (events ++ moreEvents, ⟨p, tag⟩ :: files, memo)

/-- The files of a unit: the file of a loose one, all that the file pattern finds below the
directory otherwise. -/
def unitFiles (f : SourceFilter) (w : Workspace) (c : Config) (u : ComponentUnit) :
    Except Fault (List Text) :=
  if u.fileBased then .ok u.files
  else do
    let found ← f.list w u.directory c.filePattern.display
    return if found.isEmpty then u.files else found

/-- The path of a file in the manifest, relative to the scan directory. -/
def manifestPath (relativeDir dir file : Text) : Text :=
  Path.normalize (Path.join relativeDir (Path.relative file dir))

/-- The item of a unit, the memo after it, and the files skipped. -/
def makeItem (k : Classifier) (w : Workspace) (c : Config) (memo : TagMemo) (u : ComponentUnit) :
    Outcome (Item × TagMemo × List Text) := do
  let files ← Outcome.ofExcept (unitFiles k.filter w c u)
  let relativeDir := Path.relative u.directory c.cwd
  let name := componentName u.directory u.files
  let (fileEvents, itemFiles, memo) :=
    tagPaths memo (files.map (manifestPath relativeDir u.directory))
  ⟨fileEvents, .ok ()⟩
  let (lists, skipped) ← k.classifyFiles w files
  let (itemEvents, tag, memo) := memo.tag .standard relativeDir
  ⟨itemEvents, .ok ()⟩
  Outcome.report (.componentProcessed name tag.text itemFiles.length)
  return (⟨name, tag, itemFiles, lists.dependencies, lists.devDependencies,
    lists.registryDependencies⟩, memo, skipped)

/-! ## All items -/

/-- The items of some units, in order, with the memo and the skipped files after them. -/
def makeItems (k : Classifier) (w : Workspace) (c : Config) (memo : TagMemo)
    (skipped : List Text) : List ComponentUnit → Outcome (List Item × TagMemo × List Text)
  | [] => .value ([], memo, skipped)
  | u :: us => do
    let (item, memo, more) ← makeItem k w c memo u
    let (items, memo, skipped) ← makeItems k w c memo (skipped ++ more) us
    return (item :: items, memo, skipped)

/-- Can some units be shared out? A single unit needs no workers, more need at least one; without a
number there are as many as the machine likes. -/
def canShare (workers : Option Int) (units : List ComponentUnit) : Bool :=
  match workers with
  | some n => units.length ≤ 1 || 0 < n
  | none => true

/-- Builds the manifest of a configuration. The result does not depend on the number of workers. -/
def build (w : Workspace) (c : Config) (given : Option ProjectDependencies) (f : SourceFilter)
    (workers : Option Int) (memory : BuildMemory) : Outcome (Manifest × BuildMemory) := do
  if !w.isDir c.cwd then Outcome.fail (.directoryNotFound c.cwd)
  let k ← match memory.classifier with
    | some k => Outcome.value k
    | none => configClassifier w c given f
  let units ← discover f w c.cwd c.componentPattern.display c.componentPattern.shown
  Outcome.report (.componentsFound units.length c.cwd)
  if !canShare workers units then Outcome.fail .noWorkers
  let (items, memo, skipped) ← makeItems k w c memory.memo memory.skipped units
  if !skipped.isEmpty then Outcome.report (.filesSkipped skipped.length)
  Outcome.report (.manifestBuilt items.length)
  return (⟨schemaUrl, c.name, c.homepage, items⟩, ⟨some k, memo, skipped⟩)

/-- Builds the manifest of a configuration once, with the standard filter and the project's own
files. -/
def buildOnce (w : Workspace) (c : Config) : Outcome Manifest :=
  let built := build w c none .standard none .fresh
  ⟨built.events, built.result.map (·.1)⟩

/-! ## Writing -/

/-- The name of the manifest file. -/
def manifestFile : Text := Text.ofString "registry.json"

/-- The content of the manifest file. -/
def Manifest.content (m : Manifest) : Bytes := Text.encodeUtf8 (m.text ++ ['\n'])

/-- Writes the manifest to a file. The file is opened, and so emptied, before its content is
encoded. -/
def Manifest.writeFile (m : Manifest) (w : Workspace) (p : Text) : Tree × Outcome Text :=
  match Text.firstHalves? m.text with
  | none =>
    let (tree, result) := writeOne w p m.content
    match result with
    | .ok p => (tree, ⟨[.manifestWritten p], .ok p⟩)
    | .error e => (tree, .fail e)
  | some (position, halves) =>
    let (tree, result) := writeOne w p []
    match result with
    | .ok _ => (tree, .fail (.unencodable position halves))
    | .error e => (tree, .fail e)

/-- Writes the manifest into a directory, which is made if it is missing, and returns the path of
the file. -/
def Manifest.write (m : Manifest) (w : Workspace) (dir : Text) : Tree × Outcome Text :=
  let made := w.makeDirs dir
  match made.failure with
  | some f => (made.tree, .fail f.fault)
  | none => m.writeFile (w.withTree made.tree) (Path.join dir manifestFile)

end ComponentManifest
