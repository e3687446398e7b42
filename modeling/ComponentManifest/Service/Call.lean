import ComponentManifest.Manifest.Name
import ComponentManifest.Service.Answer
import ComponentManifest.Service.Session

/-!
# Calls

What a client can ask of the server, and how the server answers. A server has one session and works
on one file tree, which others may change between two calls.

1. The calls, with the names and shapes of their answers.
2. The server, and what one call does.
3. Runs of calls and of changes made by others.
-/

namespace ComponentManifest

open Text (ofString)

/-! ## Calls -/

/-- A request of a client. An empty pattern stands for none. -/
inductive Call where
  | setProjectPath (path : Text)
  | generateRegistry (write : Bool) (pattern : Text)
  | classifyDependencies (paths : List Text) (declared : Session.Declared)
  | registryType (path : Text)
  | componentName (directory : Text) (files : List Text)
  | showConfig

namespace Call

/-- The name of an operation, as reports have it. -/
def operation : Call → Text
  | setProjectPath _ => ofString "set_project_path"
  | generateRegistry _ _ => ofString "generate_registry"
  | classifyDependencies _ _ => ofString "classify_dependencies"
  | registryType _ => ofString "get_registry_type"
  | componentName _ _ => ofString "resolve_component_name"
  | showConfig => ofString "get_config"

/-- The shape of an operation's answers. -/
def shape : Call → AnswerShape
  | generateRegistry _ _ => .object
  | classifyDependencies _ _ => .object
  | _ => .text

end Call

/-! ## The server -/

/-- A server: the project of its session, and the files it works on. -/
structure Server where
  session : Session
  workspace : Workspace
  deriving Inhabited

namespace Server

/-- A server whose client has not chosen a project yet. -/
def fresh (w : Workspace) : Server := ⟨.start, w⟩

/-- What a call does: the server after it, and the outcome. -/
def call (s : Server) : Call → Server × Outcome Json
  | .setProjectPath path =>
    let chosen := s.session.chooseProject s.workspace path
    (match chosen.result with
      | .ok (_, next) => { s with session := next }
      | .error _ => s,
      ⟨chosen.events, chosen.result.map fun r => .str r.1⟩)
  | .generateRegistry write pattern =>
    let (tree, made) := s.session.generate s.workspace write pattern
    ({ s with workspace := s.workspace.withTree tree }, made)
  | .classifyDependencies paths declared =>
    (s, s.session.classifyDependencies s.workspace paths declared)
  | .registryType path =>
    let found := Session.registryType path
    (s, ⟨found.events, found.result.map .str⟩)
  | .componentName directory files =>
    (s, .value (.str (ComponentManifest.componentName directory files)))
  | .showConfig => (s, .value (.str (s.session.configText s.workspace)))

/-- A call with its answer, in which a failure has its message, and all that was reported. -/
def ask (s : Server) (c : Call) : Server × List Event × Json :=
  let (next, o) := s.call c
  (next, answer c.operation c.shape o)

end Server

/-! ## Runs -/

/-- What can happen to a server: it is called, or the files are changed by others. -/
inductive Happening where
  | call (c : Call)
  | change (t : Tree)

namespace Server

/-- The server after something happened. -/
def after (s : Server) : Happening → Server
  | .call c => (s.call c).1
  | .change t => { s with workspace := s.workspace.withTree t }

/-- The server after several things happened, one after another. -/
def run (s : Server) (hs : List Happening) : Server := hs.foldl after s

end Server

end ComponentManifest
