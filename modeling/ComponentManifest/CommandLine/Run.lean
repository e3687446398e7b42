import ComponentManifest.CommandLine.Arguments
import ComponentManifest.Manifest.Build

/-!
# Running the command

The command generates the manifest of a project, or writes a starter configuration. Its exit code
is 0 when that was done, 1 when it failed, and 2 when the arguments cannot be understood.

1. `generate`.
2. `init`.
3. The command.
-/

namespace ComponentManifest.CommandLine

open Text (ofString)

/-- What a command left behind: the tree, its reports, and its exit code; a fault that it does not
handle takes the place of the code. -/
structure Run where
  tree : Tree
  events : List Event
  exit : Except Fault Nat

/-! ## Generating -/

/-- The configuration that the values ask for, with reports. -/
def resolved (w : Workspace) (v : Values) : Outcome Config := do
  Outcome.report .configLoading
  let c ← loadConfig w [] (v.config.getD [])
  let c := c.override w v.cwd v.output
  Outcome.report .configResolved
  Outcome.report .scanStarting
  Outcome.report (.scanDirectory c.cwd)
  return c

/-- The manifest that the values ask for, and the directory in which it is to be written. -/
def built (w : Workspace) (v : Values) : Outcome (Manifest × Text) := do
  let c ← resolved w v
  let m ← buildOnce w c
  return (m, c.output)

/-- Generates the manifest and writes it. -/
def generate (w : Workspace) (v : Values) : Tree × Outcome Unit :=
  let b := built w v
  match b.result with
  | .error e => (w.tree, ⟨b.events, .error e⟩)
  | .ok (m, dir) =>
    let (tree, written) := m.write w dir
    match written.result with
    | .error e => (tree, ⟨b.events ++ written.events, .error e⟩)
    | .ok p => (tree, ⟨b.events ++ written.events ++ [.generated m.items.length p], .ok ()⟩)

/-! ## Starting a project -/

/-- Writes a starter configuration into the working directory, unless there is a configuration
already. -/
def initProject (w : Workspace) : Tree × Outcome Bool :=
  let path := Path.join w.cwdPath configFile
  if w.exists? path then (w.tree, ⟨[.configExists path], .ok false⟩)
  else
    let (tree, result) := writeStarter w w.cwdPath configFile
    match result with
    | .error e => (tree, .fail e)
    | .ok _ =>
      (tree, ⟨[.configInitialized path, .nextSteps, .stepConfigure, .stepGenerate], .ok true⟩)

/-! ## The command -/

/-- The report of a fault that the command handles. -/
def handled? (e : Fault) : Option Event :=
  match e with
  | .access _ _ => some .fileSystemFailed
  | e => if e.isExpected then some (.commandFailed e.message) else none

/-- The run of an action: its fault is reported and gives exit code 1, if it is one that the command
handles. -/
def finish (tree : Tree) (o : Outcome Nat) : Run :=
  match o.result with
  | .ok code => ⟨tree, o.events, .ok code⟩
  | .error e =>
    match handled? e with
    | some event => ⟨tree, o.events ++ [event], .ok 1⟩
    | none => ⟨tree, o.events, .error e⟩

/-- The number of this release. -/
def versionNumber : Text := ofString "0.1.0"

/-- What `--version` prints. -/
def versionLine : Text := ofString "component-registry " ++ versionNumber ++ ['\n']

/-- How the command is used. -/
def usage : Text :=
  ofString ("usage: component-registry [-h] [--version] [-v] generate [-h] [-o DIR] [-c DIR] " ++
    "[--config FILE]\n       component-registry [-h] [--version] [-v] init [-h]\n")

/-- What a request makes the command print, apart from its reports. -/
def Request.printed : Request → Text
  | .version => versionLine
  | .help | .misuse | .nothing => usage
  | .init | .generate _ => []

/-- Does a request work on files? -/
def Request.usesFiles : Request → Bool
  | .init | .generate _ => true
  | _ => false

/-- Carries out a request. -/
def run (w : Workspace) (r : Request) : Run :=
  match r with
  | .help => ⟨w.tree, [], .ok 0⟩
  | .version => ⟨w.tree, [], .ok 0⟩
  | .misuse => ⟨w.tree, [], .ok 2⟩
  | .nothing => ⟨w.tree, [], .ok 1⟩
  | .init =>
    let (tree, o) := initProject w
    finish tree ⟨o.events, o.result.map fun done => if done then 0 else 1⟩
  | .generate v =>
    let (tree, o) := generate w v
    finish tree ⟨o.events, o.result.map fun _ => 0⟩

/-- Runs the command with some arguments. -/
def runArguments (w : Workspace) (args : List Text) : Bool × Run :=
  let (verbose, r) := request args
  (verbose, run w r)

end ComponentManifest.CommandLine
