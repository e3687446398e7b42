import ComponentManifest.Imports.Alias
import ComponentManifest.Manifest.Unit

/-!
# Configurations

The configuration of a registry: where its sources are, where the manifest goes, what the project
depends on, and how components are found. Directories are kept as normalised absolute paths.

1. The record and its defaults.
2. Reading the fields of a JSON object.
3. `Config.ofJson`, `Config.override` and `Config.toJson`.
-/

namespace ComponentManifest

open Text (ofString)

/-! ## The record -/

/-- A configuration. Patterns are kept as they were given; they may be any value that counts as
given. -/
structure Config where
  root : Text
  name : Text
  homepage : Text
  cwd : Text
  output : Text
  dependencies : List Text
  devDependencies : List Text
  registries : Option Members
  componentPattern : Json
  filePattern : Json
  configPath : Option Text
  deriving Inhabited

/-- The pattern of a component's files: all below its directory. -/
def defaultFilePattern : Text := ofString "**/*"

/-! ## Fields -/

/-- A text field; a missing one is empty. -/
def textField (ms : Members) (key : Text) : Except Fault Text :=
  match ms.get? key with
  | none => .ok []
  | some .null => .ok []
  | some (.str t) => .ok t
  | some _ => .error (.fieldNotText key)

/-- A field that lists names; a missing one is empty. -/
def namesField (ms : Members) (key : Text) : Except Fault (List Text) :=
  match ms.get? key with
  | none => .ok []
  | some .null => .ok []
  | some v =>
    match v.texts? with
    | some ts => .ok ts
    | none => .error (.fieldNotNames key)

/-- A field that counts as given. -/
def givenField (ms : Members) (key : Text) : Option Json :=
  match ms.get? key with
  | some v => if v.isGiven then some v else none
  | none => none

/-- The scan patterns; when they do not count as given there are none. -/
def patternsField (ms : Members) : Except Fault Members :=
  match givenField ms (ofString "scanPatterns") with
  | none => .ok []
  | some (.obj ps) => .ok ps
  | some _ => .error .scanPatternsNotObject

/-- The alias table; null means that there is none. -/
def registriesField (ms : Members) : Except Fault (Option Members) :=
  match ms.get? (ofString "registries") with
  | none => .ok none
  | some .null => .ok none
  | some (.obj rs) => .ok (some rs)
  | some _ => .error .registriesNotObject

/-- The root seen from the directory of the configuration, if there is one; a root that is no text
cannot be joined to it. -/
def rootField (base : Text) (root : Json) : Except Fault Json :=
  if base.isEmpty then .ok root
  else
    match root with
    | .str t => .ok (.str (Path.join base t))
    | v => .error (.rootNotPath v.shapeName)

namespace Config

/-! ## Making a configuration -/

/-- A directory seen from the root; an empty one is the root. -/
def directory (w : Workspace) (root dir : Text) : Text :=
  if dir.isEmpty then root else w.absolute (Path.join root dir)

/-- The configuration that a JSON value describes. A relative root is resolved against `base`, and
then against the working directory. -/
def ofJson (w : Workspace) (base : Text) (configPath : Option Text) (v : Json) :
    Except Fault Config :=
  match v with
  | .obj ms =>
    match givenField ms (ofString "root") with
    | none => .error .rootUnspecified
    | some root => do
      let patterns ← patternsField ms
      let registries ← registriesField ms
      let joined ← rootField base root
      let name ← textField ms (ofString "name")
      let homepage ← textField ms (ofString "homepage")
      let cwd ← textField ms (ofString "cwd")
      let output ← textField ms (ofString "output")
      let dependencies ← namesField ms (ofString "dependencies")
      let devDependencies ← namesField ms (ofString "devDependencies")
      match joined with
      | .str path =>
        let root := w.absolute path
        return {
          root, name, homepage, dependencies, devDependencies, registries, configPath
          cwd := directory w root cwd
          output := directory w root output
          componentPattern :=
            (givenField patterns (ofString "componentPattern")).getD (.str defaultComponentPattern)
          filePattern :=
            (givenField patterns (ofString "filePattern")).getD (.str defaultFilePattern) }
      | other => .error (.rootNotPath other.shapeName)
  | _ => .error .configNotObject

/-- The configuration with another scan or output directory, when one is given; they are resolved
against the working directory. -/
def override (c : Config) (w : Workspace) (cwd output : Option Text) : Config :=
  let given (dir : Option Text) (old : Text) : Text :=
    match dir with
    | some d => if d.isEmpty then old else w.absolute d
    | none => old
  { c with cwd := given cwd c.cwd, output := given output c.output }

/-- The configuration with another component pattern. -/
def withPattern (c : Config) (pattern : Text) : Config :=
  { c with componentPattern := .str pattern }

/-- The configuration as an object; without an alias table it shows an empty one. -/
def toJson (c : Config) : Json :=
  .obj [(ofString "root", .str c.root), (ofString "name", .str c.name),
    (ofString "homepage", .str c.homepage), (ofString "cwd", .str c.cwd),
    (ofString "output", .str c.output), (ofString "dependencies", .ofTexts c.dependencies),
    (ofString "devDependencies", .ofTexts c.devDependencies),
    (ofString "registries", .obj (c.registries.getD [])),
    (ofString "scanPatterns",
      .obj [(ofString "componentPattern", c.componentPattern),
        (ofString "filePattern", c.filePattern)]),
    (ofString "configPath", .ofText? c.configPath)]

end Config

end ComponentManifest
