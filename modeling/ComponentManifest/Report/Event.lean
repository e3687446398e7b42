import ComponentManifest.Report.Fault

/-!
# Events

What an operation reports while it runs, as data: each event has a level and a message.

1. Levels.
2. Events, in the order of the work that they report.
3. `Outcome`: events together with a result or a fault. Events that came before a fault are kept.
-/

namespace ComponentManifest

open Text (ofString quoted)

/-! ## Levels -/

/-- How important an event is. -/
inductive Level where
  | debug
  | info
  | warning
  | error
  | critical
  deriving DecidableEq, Repr

namespace Level

/-- The rank of a level; more important levels are higher. -/
def rank : Level → Nat
  | debug => 10
  | info => 20
  | warning => 30
  | error => 40
  | critical => 50

/-- The name of a level. -/
def name : Level → Text
  | debug => ofString "DEBUG"
  | info => ofString "INFO"
  | warning => ofString "WARNING"
  | error => ofString "ERROR"
  | critical => ofString "CRITICAL"

end Level

/-! ## Events -/

/-- Something that is reported. -/
inductive Event where
  | configLoading
  | configLoaded (path : Text)
  | configResolved
  | scanStarting
  | scanDirectory (path : Text)
  | componentsUnreadable (path : Text)
  | componentsAbsent (root : Text)
  | packageAbsent (root : Text)
  | packageUnreadable
  | aliasesLoaded (count : Nat)
  | patternMatched (pattern : Text) (count : Nat) (root : Text)
  | componentsFound (count : Nat) (dir : Text)
  | fileSkipped (path : Text)
  | importsClassified (dependencies devDependencies registryDependencies : Nat)
  | typeFallback (path segment : Text)
  | componentProcessed (name tag : Text) (files : Nat)
  | filesSkipped (count : Nat)
  | manifestBuilt (items : Nat)
  | manifestWritten (path : Text)
  | generated (items : Nat) (path : Text)
  | configExists (path : Text)
  | configInitialized (path : Text)
  | nextSteps
  | stepConfigure
  | stepGenerate
  | projectSet (path : Text) (config : Text)
  | commandFailed (message : Text)
  | fileSystemFailed
  | operationFailed (operation message : Text)
  | operationBroke (operation : Text)
  | serverStopping
  | serverStarting (host : Option (Text × Int))
  deriving DecidableEq, Repr

namespace Event

/-- The level of an event. -/
def level : Event → Level
  | componentsAbsent _ | aliasesLoaded _ | patternMatched .. | importsClassified ..
  | typeFallback .. | componentProcessed .. => .debug
  | componentsUnreadable _ | packageAbsent _ | packageUnreadable | fileSkipped _
  | filesSkipped _ | operationFailed .. => .warning
  | configExists _ | commandFailed _ | fileSystemFailed | operationBroke _ => .error
  | _ => .info

/-- The message of an event. -/
def message : Event → Text
  | configLoading => ofString "Loading configuration..."
  | configLoaded p => ofString "Loaded configuration from " ++ p
  | configResolved => ofString "Configuration resolved"
  | scanStarting => ofString "Scanning project for components..."
  | scanDirectory p => ofString "Scanning directory: " ++ p
  | componentsUnreadable p =>
    ofString "Failed to read " ++ p ++ ofString ", registry aliases ignored"
  | componentsAbsent r => ofString "No components.json found above " ++ r
  | packageAbsent r =>
    ofString "package.json not found in " ++ r ++
      ofString ", dependency classification may be incomplete."
  | packageUnreadable =>
    ofString "Failed to read package.json, dependency classification may be incomplete"
  | aliasesLoaded n => ofString "Loaded " ++ Text.ofNat n ++ ofString " registry aliases"
  | patternMatched p n r =>
    ofString "Pattern " ++ p ++ ofString " matched " ++ Text.ofNat n ++ ofString " files under " ++ r
  | componentsFound n d =>
    ofString "Found " ++ Text.ofNat n ++ ofString " components in " ++ d
  | fileSkipped p => ofString "Skipping unreadable file " ++ p
  | importsClassified a b c =>
    ofString "Classified " ++ Text.ofNat a ++ ofString " dependencies, " ++ Text.ofNat b ++
      ofString " devDependencies, " ++ Text.ofNat c ++ ofString " registryDependencies"
  | typeFallback p s =>
    ofString "No registry type for " ++ quoted p ++ ofString ", falling back to " ++ quoted s
  | componentProcessed n t k =>
    ofString "Processed component " ++ quoted n ++ ofString " (" ++ t ++ ofString ") with " ++
      Text.ofNat k ++ ofString " files"
  | filesSkipped n => Text.ofNat n ++ ofString " files could not be read and were skipped"
  | manifestBuilt n => ofString "Built registry with " ++ Text.ofNat n ++ ofString " items"
  | manifestWritten p => ofString "registry.json path: " ++ p
  | generated n p =>
    ofString "Done, registry generated successfully (" ++ Text.ofNat n ++ ofString " items): " ++ p
  | configExists p => ofString "Configuration file already exists: " ++ p
  | configInitialized p => ofString "Registry configuration initialized: " ++ p
  | nextSteps => ofString "Next steps:"
  | stepConfigure =>
    ofString "  1. Open registry.config.json and configure the root path, name and homepage"
  | stepGenerate => ofString "  2. Run 'component-registry generate' to create your registry"
  | projectSet p c =>
    ofString "Project path set to " ++ p ++ ofString " (config: " ++ c ++ ofString ")"
  | commandFailed m => m
  | fileSystemFailed => ofString "File system error"
  | operationFailed o m => o ++ ofString " failed: " ++ m
  | operationBroke o => ofString "Unexpected error in " ++ o
  | serverStopping => ofString "Component Registry MCP server shutting down"
  | serverStarting none => ofString "Starting MCP server in stdio mode"
  | serverStarting (some (host, port)) =>
    ofString "Starting MCP server in HTTP/SSE mode on " ++ host ++ ':' :: Text.ofInt port

end Event

/-! ## Outcomes -/

/-- What was reported, and the result or the fault. -/
structure Outcome (α : Type) where
  events : List Event
  result : Except Fault α

namespace Outcome

/-- A result that needs no report. -/
def value {α : Type} (a : α) : Outcome α := ⟨[], .ok a⟩

/-- Gives up. -/
def fail {α : Type} (f : Fault) : Outcome α := ⟨[], .error f⟩

/-- Reports an event. -/
def report (e : Event) : Outcome Unit := ⟨[e], .ok ()⟩

/-- A result or fault without a report. -/
def ofExcept {α : Type} (r : Except Fault α) : Outcome α := ⟨[], r⟩

/-- Goes on with a result; after a fault nothing more happens. -/
def andThen {α β : Type} (x : Outcome α) (f : α → Outcome β) : Outcome β :=
  match x.result with
  | .ok a => ⟨x.events ++ (f a).events, (f a).result⟩
  | .error e => ⟨x.events, .error e⟩

instance : Monad Outcome where
  pure := value
  bind := andThen

end Outcome

end ComponentManifest
