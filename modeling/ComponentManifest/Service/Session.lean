import ComponentManifest.Manifest.Build
import ComponentManifest.Project.Check

/-!
# Sessions

A session serves one project: its directory and the configuration that was loaded for it. The
operations either succeed or fail as a whole; only choosing a project changes the session.

1. The session and its checks.
2. Choosing a project, and showing the configuration.
3. Generating the manifest.
4. Questions: the dependencies of files, registry types and component names.
-/

namespace ComponentManifest

open Text (ofString)

/-! ## The session -/

/-- The project of a session. A session that is not attached to a client has no place to keep
one. -/
structure Session where
  attached : Bool
  basePath : Text
  config : Option Config
  deriving Inhabited

namespace Session

/-- The session before a project is chosen. -/
def start : Session := ⟨true, [], none⟩

/-- The session without a client. -/
def detached : Session := ⟨false, [], none⟩

/-- The session with another project directory. -/
def setBasePath (s : Session) (path : Text) : Session :=
  if s.attached then { s with basePath := path } else s

/-- The session with another configuration. -/
def setConfig (s : Session) (c : Option Config) : Session :=
  if s.attached then { s with config := c } else s

/-- Why the session has no usable project, if it has none. -/
def refusal? (s : Session) (w : Workspace) : Option ProjectRefusal :=
  if s.basePath.isEmpty then some .unset
  else if !w.exists? s.basePath then some (.missing s.basePath)
  else if !w.isDir s.basePath then some (.notDirectory s.basePath)
  else none

/-- Fails unless the session has a usable project. -/
def requireProject (s : Session) (w : Workspace) : Except Fault Unit :=
  match s.refusal? w with
  | some why => .error (.project why)
  | none => .ok ()

/-- The configuration of the session's project. -/
def requireConfig (s : Session) (w : Workspace) : Except Fault Config := do
  s.requireProject w
  match s.config with
  | some c => return c
  | none => throw (.noConfigLoaded s.basePath)

/-- Fails unless the path names a source file of the project. -/
def requireFile (s : Session) (w : Workspace) (path : Text) : Except Fault Unit := do
  match ← checkFile w path s.basePath with
  | some why => throw (.file why)
  | none => return ()

/-- Fails at the first path that names no source file of the project. -/
def requireFiles (s : Session) (w : Workspace) : List Text → Except Fault Unit
  | [] => .ok ()
  | p :: ps => do
    s.requireFile w p
    s.requireFiles w ps

/-! ## The project -/

/-- Chooses a project: its configuration is loaded from the directory or the nearest one above. -/
def chooseProject (s : Session) (w : Workspace) (path : Text) : Outcome (Text × Session) :=
  match checkDirectory w path with
  | some why => .fail (.directory why)
  | none => do
    let full := w.absolute path
    let c ← loadConfig w full []
    let shown := c.configPath.getD (ofString "None")
    Outcome.report (.projectSet full shown)
    return (ofString "Project path set to: " ++ full ++ ofString ". Loaded configuration from " ++
        shown ++ ofString "; scanning " ++ c.cwd,
      (s.setBasePath full).setConfig (some c))

/-- The session's configuration as JSON text. -/
def configText (s : Session) (w : Workspace) : Text :=
  let v : Json :=
    match s.refusal? w with
    | some _ =>
      .obj [(ofString "status", .str (ofString "not_configured")),
        (ofString "message", .str ProjectRefusal.unset.message)]
    | none =>
      .obj [(ofString "base_path", .str s.basePath),
        (ofString "config", (s.config.map Config.toJson).getD .null)]
  v.block .ascii 0

/-! ## Generating -/

/-- The configuration to generate with; a pattern, when one is given, replaces the configured
one. -/
def generateConfig (s : Session) (w : Workspace) (pattern : Text) : Except Fault Config := do
  let c ← s.requireConfig w
  if pattern.isEmpty then return c
  else
    match checkPattern pattern with
    | some why => throw (.pattern why)
    | none => return c.withPattern pattern

/-- The answer to a request to generate: the number of items, the manifest, and where it was
written. -/
def generatedAnswer (m : Manifest) (path : Option Text) : Json :=
  .obj ([(ofString "item_count", .int m.items.length), (ofString "registry", m.toJson)] ++
    match path with
    | some p => [(ofString "output_path", .str p)]
    | none => [])

/-- Builds the manifest and, on request, writes it. -/
def generate (s : Session) (w : Workspace) (write : Bool) (pattern : Text) :
    Tree × Outcome Json :=
  match s.generateConfig w pattern with
  | .error e => (w.tree, .fail e)
  | .ok c =>
    let built := buildOnce w c
    match built.result with
    | .error e => (w.tree, ⟨built.events, .error e⟩)
    | .ok m =>
      if write then
        let (tree, written) := m.write w c.output
        (tree, ⟨built.events ++ written.events,
          written.result.map fun p => generatedAnswer m (some p)⟩)
      else (w.tree, ⟨built.events, .ok (generatedAnswer m none)⟩)

/-! ## Questions -/

/-- What a caller declares in place of the project; all of it may be left out. -/
structure Declared where
  dependencies : Option (List Text)
  devDependencies : Option (List Text)
  registries : Option Json
  deriving Inhabited

/-- Is nothing declared? -/
def Declared.isEmpty (d : Declared) : Bool :=
  d.dependencies.isNone && d.devDependencies.isNone && d.registries.isNone

/-- The classifier for a question: the project's, when a configuration is loaded and the caller
declares nothing. -/
def classifierFor (s : Session) (w : Workspace) (d : Declared) : Outcome Classifier :=
  match s.config, d.isEmpty with
  | some c, true => configClassifier w c none .standard
  | _, _ => do
    let aliases ← AliasTable.ofJson (d.registries.getD .null)
    return ⟨d.dependencies.getD [], d.devDependencies.getD [], aliases, .standard⟩

/-- The dependency lists of some files of the project. -/
def classifyDependencies (s : Session) (w : Workspace) (paths : List Text) (d : Declared) :
    Outcome Json := do
  Outcome.ofExcept (s.requireProject w)
  Outcome.ofExcept (s.requireFiles w paths)
  let k ← s.classifierFor w d
  let (lists, _) ← k.classifyFiles w (paths.map (Path.join s.basePath))
  return lists.toJson

/-- The registry type of a path. -/
def registryType (path : Text) : Outcome Text :=
  let (events, tag, _) := TagMemo.tag .standard [] path
  ⟨events, .ok tag.text⟩

end Session

end ComponentManifest
