import ComponentManifest.Files.Exclusion
import ComponentManifest.Files.Listing
import ComponentManifest.Text.Ascending
import ComponentManifest.Unicode.LowerCase

/-!
# Source filters

Which files are sources: those with one of the known suffixes that no exclusion rule covers. A
filter has a rule for each excluded directory name, in the order of the names. What the rules say is
up to the reader of ignore files that the filter is made with.

1. The filter.
2. Its two tests.
3. Listing the sources that a pattern stands for.
-/

namespace ComponentManifest

open Text (ofString)

/-- Which files are sources. -/
structure SourceFilter where
  excluded : List Text
  extensions : List Text
  /-- Do the rules exclude a path, in which only slashes separate segments? -/
  excludes : Text → Bool

namespace SourceFilter

/-! ## The filter -/

/-- The directories that are always excluded: installed packages, build results and the history of
versions. -/
def alwaysExcluded : List Text := [ofString "node_modules", ofString "dist", ofString ".git"]

/-- The extensions of sources, unless others are given. -/
def defaultExtensions : List Text :=
  [ofString "vue", ofString "js", ofString "jsx", ofString "ts", ofString "tsx"]

/-- The lines that exclude what is in directories with some names. -/
def linesOf (names : List Text) : List Text := names.map fun n => n ++ ['/']

/-- The filter with more excluded names, and with other extensions if any are given. -/
def make (reader : RuleReader) (more extensions : List Text) : Except Fault SourceFilter := do
  let excluded := sortDistinct (alwaysExcluded ++ more)
  let excludes ← reader.read (linesOf excluded)
  let chosen := if extensions.isEmpty then defaultExtensions else extensions
  return ⟨excluded, chosen.map fun e => e.dropWhile (· == '.'), excludes⟩

/-- The filter that is used when nothing is asked for. -/
def standard : SourceFilter :=
  match make Exclusion.gitignore [] [] with
  | .ok f => f
  | .error _ => ⟨[], [], fun _ => false⟩

/-! ## Tests -/

/-- Does the file have one of the extensions, in upper or lower case? -/
def isSource (f : SourceFilter) (path : Text) : Bool :=
  f.extensions.contains ((Unicode.lower (Path.suffix path)).dropWhile (· == '.'))

/-- Is the path, relative to the listed directory, excluded? -/
def isExcluded (f : SourceFilter) (path : Text) : Bool :=
  f.excludes (Text.replaceChar '\\' '/' path)

/-! ## Listing -/

/-- The sources of one extension that a pattern stands for, as normalised absolute paths. -/
def listExtension (f : SourceFilter) (w : Workspace) (base pattern extension : Text) :
    Except Fault (List Text) := do
  let paths ← w.glob base (pattern ++ '.' :: extension)
  return ((paths.filter fun p => !f.isExcluded p).map (Path.join base)).filter w.isFile
    |>.map Path.normalize

/-- The sources of all given extensions that a pattern stands for. -/
def listEach (f : SourceFilter) (w : Workspace) (base pattern : Text) :
    List Text → Except Fault (List Text)
  | [] => .ok []
  | e :: es => do
    let first ← f.listExtension w base pattern e
    let rest ← f.listEach w base pattern es
    return first ++ rest

/-- The sources below a directory that a pattern without extension stands for, in ascending
order. -/
def list (f : SourceFilter) (w : Workspace) (base pattern : Text) : Except Fault (List Text) := do
  let found ← f.listEach w (w.absolute base) pattern f.extensions
  return sortDistinct found

end SourceFilter

end ComponentManifest
