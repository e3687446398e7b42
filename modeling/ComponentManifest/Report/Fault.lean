import ComponentManifest.Files.Resolve
import ComponentManifest.Report.Nesting
import ComponentManifest.Text.Quoted

/-!
# Faults

The causes for which an operation gives up, each with its message.

1. Why a path is refused.
2. All causes, in groups: configuration, scan directory, wrong shapes of values, files, input.
3. Messages.
-/

namespace ComponentManifest

/-! ## Refused paths and patterns -/

/-- Why the path of a source file is refused. -/
inductive FileRefusal where
  | empty
  | noBase
  | absolute (path : Text)
  | traversal (path : Text)
  | outside
  | missing (path : Text)
  deriving DecidableEq, Repr

/-- Why the path of a project directory is refused. -/
inductive DirectoryRefusal where
  | empty
  | missing (path : Text)
  | notDirectory (path : Text)
  deriving DecidableEq, Repr

/-- Why a scan pattern is refused. -/
inductive PatternRefusal where
  | empty
  | rooted
  | leaving
  deriving DecidableEq, Repr

/-- Why there is no usable project. -/
inductive ProjectRefusal where
  | unset
  | missing (path : Text)
  | notDirectory (path : Text)
  deriving DecidableEq, Repr

/-! ## Causes -/

/-- The cause for which an operation gives up. -/
inductive Fault where
  | rootUnspecified
  | configFileNotFound (path : Text)
  | noConfigFile
  | noConfigLoaded (base : Text)
  | configNotObject
  | scanPatternsNotObject
  | registriesNotObject
  | fieldNotText (field : Text)
  | fieldNotNames (field : Text)
  | malformedConfig (path : Text)
  | aliasShape (key : Text)
  | directoryNotFound (path : Text)
  | rootNotPath (shape : Text)
  | notMapping (shape : Text)
  | access (why : AccessError) (path : Text)
  | nullCharacter
  | unencodable (position : Nat) (halves : Text)
  | unfinishedEscape (pattern : Text)
  | reversedRange
  | file (why : FileRefusal)
  | directory (why : DirectoryRefusal)
  | pattern (why : PatternRefusal)
  | project (why : ProjectRefusal)
  | notInteger (numeral : Text)
  | noWorkers
  | tooDeep (what : Nested)
  deriving DecidableEq, Repr

/-- The fault of a path that the operating system cannot be given. -/
def Fault.ofPath (p : Text) : Fault :=
  match Text.firstLost? Path.isLost p with
  | some (position, halves) => .unencodable position halves
  | none => .nullCharacter

/-! ## Messages -/

open Text (ofString quoted)

/-- The message of a refused file path. -/
def FileRefusal.message : FileRefusal → Text
  | .empty => ofString "File path cannot be empty"
  | .noBase => ofString "Base path not set"
  | .absolute p =>
    ofString "Absolute file paths like '" ++ p ++
      ofString "' are not allowed. Please use paths relative to the project root."
  | .traversal p =>
    ofString "Invalid file path: " ++ p ++ ofString " (directory traversal not allowed)"
  | .outside => ofString "Access denied. File path must be within project directory."
  | .missing p => ofString "File not found: " ++ p

/-- The message of a refused project directory. -/
def DirectoryRefusal.message : DirectoryRefusal → Text
  | .empty => ofString "Directory path cannot be empty"
  | .missing p => ofString "Path does not exist: " ++ p
  | .notDirectory p => ofString "Path is not a directory: " ++ p

/-- The message of a refused scan pattern. -/
def PatternRefusal.message : PatternRefusal → Text
  | .empty => ofString "Pattern cannot be empty"
  | .rooted => ofString "Pattern cannot start with path separator"
  | .leaving => ofString "Pattern cannot leave the scan directory"

/-- The message when no project is set, or the one set is gone. -/
def ProjectRefusal.message : ProjectRefusal → Text
  | .unset =>
    ofString ("Project path not set. Please use set_project_path to set a " ++
      "project directory first.")
  | .missing p => ofString "Project path does not exist: " ++ p
  | .notDirectory p => ofString "Project path is not a directory: " ++ p

/-- The number of an access error, as the operating system reports it. -/
def AccessError.number : AccessError → Nat
  | .notFound => 2
  | .exists => 17
  | .notDirectory => 20
  | .isDirectory => 21
  | .linkLoop => 40

/-- The operating system's words for an access error. -/
def AccessError.words : AccessError → Text
  | .notFound => ofString "No such file or directory"
  | .exists => ofString "File exists"
  | .notDirectory => ofString "Not a directory"
  | .isDirectory => ofString "Is a directory"
  | .linkLoop => ofString "Too many levels of symbolic links"

/-- What a message says of the work that went too deep. -/
def Nested.words : Nested → Text
  | .array => ofString " while decoding a JSON array from a unicode string"
  | .object => ofString " while decoding a JSON object from a unicode string"
  | .pattern | .directories => []

/-- How many characters of a quoted numeral a message shows. -/
def shownNumeral : Nat := 200

/-- The message for halves in a row that have no encoding; only a single one is shown. -/
def unencodableMessage (position : Nat) (halves : Text) : Text :=
  let what :=
    match halves with
    | [c] => ofString "character " ++ quoted [c] ++ ofString " in position " ++ Text.ofNat position
    | _ =>
      ofString "characters in position " ++ Text.ofNat position ++
        '-' :: Text.ofNat (position + halves.length - 1)
  ofString "'utf-8' codec can't encode " ++ what ++ ofString ": surrogates not allowed"

/-- The message of a fault. -/
def Fault.message : Fault → Text
  | .rootUnspecified => ofString "Root path is not specified in the configuration."
  | .configFileNotFound p => ofString "Config file not found: " ++ p
  | .noConfigFile => ofString "No config file found (looked for registry.config.json)"
  | .noConfigLoaded b => ofString "No registry configuration loaded for " ++ b
  | .configNotObject => ofString "Configuration must be a JSON object"
  | .scanPatternsNotObject => ofString "'scanPatterns' must be an object"
  | .registriesNotObject => ofString "'registries' must be an object mapping prefixes to URLs"
  | .fieldNotText f => '\'' :: f ++ ofString "' must be a string"
  | .fieldNotNames f => '\'' :: f ++ ofString "' must be a list of package names"
  | .malformedConfig p => ofString "Invalid JSON in " ++ p
  | .aliasShape k =>
    ofString "Registry alias " ++ quoted k ++
      ofString " must be a URL string or an object with a 'url' field"
  | .directoryNotFound p => ofString "Directory not found: " ++ p
  | .rootNotPath s =>
    ofString "join() argument must be str, bytes, or os.PathLike object, not '" ++ s ++ ['\'']
  | .notMapping s => '\'' :: s ++ ofString "' object has no attribute 'items'"
  | .access why p =>
    ofString "[Errno " ++ Text.ofNat why.number ++ ofString "] " ++ why.words ++ ofString ": " ++
      quoted p
  | .nullCharacter => ofString "embedded null byte"
  | .unencodable n halves => unencodableMessage n halves
  | .unfinishedEscape p => ofString "Invalid git pattern: " ++ quoted p
  | .reversedRange => ofString "bad character range"
  | .file why => why.message
  | .directory why => why.message
  | .pattern why => why.message
  | .project why => why.message
  | .notInteger n =>
    ofString "invalid literal for int() with base 10: " ++ (quoted n).take shownNumeral
  | .noWorkers => ofString "max_workers must be greater than 0"
  | .tooDeep what => ofString "maximum recursion depth exceeded" ++ what.words

/-- Does the fault mean that the configuration, an alias or the scan directory is unusable? Such
faults are expected, and callers report them without a trace. -/
def Fault.isExpected : Fault → Bool
  | .rootUnspecified | .configFileNotFound _ | .noConfigFile | .noConfigLoaded _
  | .configNotObject | .scanPatternsNotObject | .registriesNotObject | .fieldNotText _
  | .fieldNotNames _ | .malformedConfig _ | .aliasShape _ | .directoryNotFound _ => true
  | _ => false

end ComponentManifest
