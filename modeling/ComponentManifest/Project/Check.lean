import ComponentManifest.Files.RealPath
import ComponentManifest.Report.Fault

/-!
# Checking input

What callers may name: source files inside the project directory, directories, and scan patterns
that stay inside the scan directory.
-/

namespace ComponentManifest

/-- Why the path of a source file is refused, if it is. The path is normalised first, and the file
it then denotes must really lie inside the base directory. -/
def checkFile (w : Workspace) (path base : Text) : Except Fault (Option FileRefusal) :=
  if path.isEmpty then .ok (some .empty)
  else if base.isEmpty then .ok (some .noBase)
  else if Path.isAbsolute path || (path.drop 1).head? == some ':' then
    .ok (some (.absolute path))
  else
    let inner := Path.normalize path
    if Path.up.isPrefixOf inner then .ok (some (.traversal path))
    else
      let full := Path.join base inner
      if !Path.isUsable full then .error (.ofPath (Path.untilUnusable full))
      else if !(w.realLocation base).isPrefixOf (w.realLocation full) then .ok (some .outside)
      else if !w.isFile (w.realPath full) then .ok (some (.missing path))
      else .ok none

/-- Why a project directory is refused, if it is. -/
def checkDirectory (w : Workspace) (path : Text) : Option DirectoryRefusal :=
  if path.isEmpty then some .empty
  else
    let full := w.absolute (Path.normalize path)
    if !w.exists? full then some (.missing full)
    else if !w.isDir full then some (.notDirectory full)
    else none

/-- Why a scan pattern is refused, if it is. A backslash counts as a slash here. -/
def checkPattern (pattern : Text) : Option PatternRefusal :=
  if pattern.isEmpty then some .empty
  else if pattern.head? == some '/' || pattern.head? == some '\\' then some .rooted
  else if (Path.segments (Text.replaceChar '\\' '/' pattern)).contains Path.up then some .leaving
  else none

end ComponentManifest
