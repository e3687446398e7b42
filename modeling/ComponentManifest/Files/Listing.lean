import ComponentManifest.Files.Glob
import ComponentManifest.Files.Resolve
import ComponentManifest.Report.Fault

/-!
# Listing files by pattern

A pattern is a path whose segments may be glob patterns; a segment `**` stands for any number of
directories. Names that begin with a dot are matched only by segments that begin with one, and
never by `**`. Links to directories are followed.

1. The names that one segment stands for in a directory.
2. The directories that the leading segments stand for.
3. `Workspace.glob`, the paths that a pattern stands for.
-/

namespace ComponentManifest

namespace Workspace

/-! ## One segment -/

/-- A path inside a directory; an empty part leaves the other as it is. -/
def within (dir p : Text) : Text :=
  if dir.isEmpty then p else if p.isEmpty then dir else Path.join dir p

/-- Does the name begin with a dot? -/
def isHidden (name : Text) : Bool := name.head? == some '.'

/-- The names in a directory, on request only those of directories. -/
def listNames (w : Workspace) (onlyDirs : Bool) (dir : Text) : List Text :=
  (w.list dir).filter fun n => !onlyDirs || w.isDir (Path.join dir n)

/-- The paths below a directory without hidden names, down to a number of levels. -/
def listBelow (w : Workspace) (onlyDirs : Bool) : Nat → Text → List Text
  | 0, _ => []
  | n + 1, dir =>
    ((w.listNames onlyDirs dir).filter fun x => !isHidden x).flatMap fun x =>
      x :: (w.listBelow onlyDirs n (within dir x)).map fun y => within x y

/-- How deep a path can lead: after each link at most the depth of the tree. -/
def maxDepth (w : Workspace) : Nat :=
  let depth := w.tree.entries.foldl (fun d e => max d e.1.length) 0
  (maxLinks + 1) * (depth + 1)

/-- The segment that stands for any number of directories. -/
def anyDepth : Text := ['*', '*']

/-- The names that a segment stands for in a directory. -/
def expand (w : Workspace) (onlyDirs : Bool) (dir segment : Text) : List Text :=
  if segment = anyDepth then [] :: w.listBelow onlyDirs w.maxDepth dir
  else if Glob.hasMagic segment then
    (w.listNames onlyDirs dir).filter fun n =>
      (isHidden segment || !isHidden n) && Glob.matchesName segment n
  else if segment.isEmpty then (if w.isDir dir then [[]] else [])
  else if w.lexists (within dir segment) then [segment] else []

/-! ## Leading segments -/

/-- The text of segments without wildcards, given last to first. Slashes at its end are dropped,
unless there is nothing else. -/
def literalDir (reversed : List Text) : Text :=
  let body := reversed.dropWhile (·.isEmpty)
  if body.isEmpty then List.replicate reversed.length '/' else Path.ofSegments body.reverse

/-- The directories that the leading segments of a pattern stand for, given last to first. -/
def directories (w : Workspace) (base : Text) : List Text → List Text
  | [] => [[]]
  | s :: rest =>
    if !(s :: rest).any Glob.hasMagic then [literalDir (s :: rest)]
    else if s.isEmpty then w.directories base rest
    else (w.directories base rest).flatMap fun d =>
      (w.expand true (within base d) s).map fun n => Path.join d n

/-- The first directory that is listed for a pattern, if any is. -/
def firstListed (base pattern : Text) : Option Text :=
  let reversed := (Path.segments pattern).reverse
  if Glob.hasMagic pattern then
    let literal := (reversed.reverse.takeWhile fun s => !Glob.hasMagic s).reverse
    some (within base (if literal.isEmpty then [] else literalDir literal))
  else none

/-! ## Patterns -/

/-- The paths, relative to `base`, that a pattern stands for. -/
def matchPaths (w : Workspace) (base pattern : Text) : List Text :=
  match (Path.segments pattern).reverse with
  | [] => []
  | s :: rest =>
    if Glob.hasMagic pattern then
      (w.directories base rest).flatMap fun d =>
        (w.expand false (within base d) s).map fun n => Path.join d n
    else if s.isEmpty then
      (if w.isDir (within base (literalDir (s :: rest))) then [pattern] else [])
    else if w.lexists (within base pattern) then [pattern] else []

/-- How many levels the search for a pattern has: one for each segment, from the first one with a
wildcard on. -/
def searchLevels (pattern : Text) : Nat :=
  ((Path.segments pattern).dropWhile fun s => !Glob.hasMagic s).countP fun s => !s.isEmpty

/-- The paths that a pattern stands for. A directory can only be listed if the operating system can
be given its path. -/
def glob (w : Workspace) (base pattern : Text) : Except Fault (List Text) :=
  if maxLevels < searchLevels pattern then .error (.tooDeep .pattern)
  else
    match firstListed base pattern with
    | some d => if Path.isUsable d then .ok (w.matchPaths base pattern) else .error (.ofPath d)
    | none => .ok (w.matchPaths base pattern)

end Workspace

end ComponentManifest
