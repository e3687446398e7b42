import ComponentManifest.Files.Change
import ComponentManifest.Imports.Classification
import ComponentManifest.Json.Parser
import ComponentManifest.Json.Printer
import ComponentManifest.Project.Config

/-!
# Project files

Finding and reading the files that describe a project: its configuration, its alias table and its
declared packages.

1. Searching a directory and those above it.
2. The configuration file.
3. Aliases and packages; files that cannot be used are reported and count as empty, unless they
   are nested too deep.
4. A starter configuration.
-/

namespace ComponentManifest

open Text (ofString)

/-! ## Searching upward -/

/-- A directory and those above it, the nearest first, as many as asked for. -/
def ancestorsWithin : Nat → Text → List Text
  | 0, _ => []
  | n + 1, dir =>
    let above := Path.dirname dir
    dir :: if above = dir then [] else ancestorsWithin n above

/-- A directory and those above it up to the root. Each path is shorter than the one before. -/
def ancestors (dir : Text) : List Text := ancestorsWithin (dir.length + 1) dir

/-- The first file with one of the names, in the directory or the nearest one above it. -/
def findUp (w : Workspace) (names : List Text) (start : Text) : Option Text :=
  (ancestors (w.absolute start)).findSome? fun dir =>
    (names.map (Path.join dir)).find? w.isFile

/-! ## The configuration file -/

/-- The name of the configuration file. -/
def configFile : Text := ofString "registry.config.json"

/-- The value in a JSON file. A file that cannot be read is as good as a malformed one. -/
def readJson (w : Workspace) (p : Text) : Except Json.Failure Json :=
  match w.readText? p with
  | some t => Json.parse t
  | none => .error .malformed

/-- The path of the configuration file: the one given, or the nearest one from `start` upward. -/
def locateConfig (w : Workspace) (start given : Text) : Except Fault Text :=
  if given.isEmpty then
    match findUp w [configFile] start with
    | some p => .ok p
    | none => .error .noConfigFile
  else if w.isFile given then .ok (w.absolute given)
  else .error (.configFileNotFound given)

/-- The configuration in the given file, or in the nearest configuration file from `start` upward;
an empty `start` is the working directory. -/
def loadConfig (w : Workspace) (start given : Text) : Outcome Config := do
  let path ← Outcome.ofExcept
    (locateConfig w (if start.isEmpty then w.cwdPath else start) given)
  match readJson w path with
  | .error .malformed => Outcome.fail (.malformedConfig path)
  | .error (.tooDeep what) => Outcome.fail (.tooDeep what)
  | .ok v =>
    Outcome.report (.configLoaded path)
    Outcome.ofExcept (Config.ofJson w (Path.dirname path) (some path) v)

/-! ## Aliases and packages -/

/-- What the project's own files declare. -/
structure ProjectDependencies where
  dependencies : List Text
  devDependencies : List Text
  registries : Members
  deriving Inhabited

/-- The name of the file with the alias table. -/
def componentsFile : Text := ofString "components.json"

/-- The name of the file with the declared packages. -/
def packageFile : Text := ofString "package.json"

/-- The alias table in a components file; a value without one has an empty table. -/
def registriesOf : Json → Members
  | .obj ms =>
    match Members.get? ms (ofString "registries") with
    | some (.obj rs) => rs
    | _ => []
  | _ => []

/-- The alias table of the nearest components file. -/
def loadRegistries (w : Workspace) (root : Text) : Outcome Members :=
  match findUp w [componentsFile] root with
  | none => ⟨[.componentsAbsent root], .ok []⟩
  | some p =>
    match readJson w p with
    | .ok v => .value (registriesOf v)
    | .error .malformed => ⟨[.componentsUnreadable p], .ok []⟩
    | .error (.tooDeep what) => .fail (.tooDeep what)

/-- The keys of a section; a section that does not count as given has none. -/
def sectionKeys? (ms : Members) (key : Text) : Option (List Text) :=
  match givenField ms key with
  | none => some []
  | some (.obj names) => some (Members.keys names)
  | some _ => none

/-- The names of the two sections of a package file, unless one of them has the wrong shape. -/
def packagesOf? : Json → Option (List Text × List Text)
  | .obj ms => do
    let dependencies ← sectionKeys? ms (ofString "dependencies")
    let devDependencies ← sectionKeys? ms (ofString "devDependencies")
    return (dependencies, devDependencies)
  | _ => none

/-- The packages that the package file in the root declares. -/
def loadPackages (w : Workspace) (root : Text) : Outcome (List Text × List Text) :=
  let p := Path.join root packageFile
  if !w.exists? p then ⟨[.packageAbsent root], .ok ([], [])⟩
  else
    match (readJson w p).map packagesOf? with
    | .ok (some names) => .value names
    | .ok none | .error .malformed => ⟨[.packageUnreadable], .ok ([], [])⟩
    | .error (.tooDeep what) => .fail (.tooDeep what)

/-- What the files of a project declare. -/
def loadProject (w : Workspace) (root : Text) : Outcome ProjectDependencies := do
  let registries ← loadRegistries w root
  let packages ← loadPackages w root
  return ⟨packages.1, packages.2, registries⟩

/-! ## A starter configuration -/

/-- The configuration to begin with. -/
def starterConfig : Json :=
  .obj [(ofString "root", .str ['.']), (ofString "name", .str []), (ofString "homepage", .str [])]

/-- The path and content of the starter configuration in a directory. -/
def starterFile (w : Workspace) (dir name : Text) : Text × Bytes :=
  (Path.join (w.absolute dir) name, Text.encodeUtf8 (starterConfig.block .ascii 0 ++ ['\n']))

/-- The fault of a change that failed. -/
def ChangeFailure.fault : ChangeFailure → Fault
  | .access why p => .access why p
  | .unusable p => .ofPath p
  | .tooDeep => .tooDeep .directories

/-- Writes one file and returns its path. -/
def writeOne (w : Workspace) (p : Text) (content : Bytes) : Tree × Except Fault Text :=
  let written := w.writeFile p content
  match written.failure with
  | some f => (written.tree, .error f.fault)
  | none => (written.tree, .ok p)

/-- Writes the starter configuration into a directory and returns its path. -/
def writeStarter (w : Workspace) (dir name : Text) : Tree × Except Fault Text :=
  let file := starterFile w dir name
  writeOne w file.1 file.2

end ComponentManifest
