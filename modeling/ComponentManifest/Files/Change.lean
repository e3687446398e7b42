import ComponentManifest.Files.Resolve
import ComponentManifest.Report.Nesting

/-!
# Changing files

Making directories and writing files, with the causes for which they fail. A failed step leaves the
tree as it is; making several directories may fail after some of them were made.

1. The outcome of a change.
2. Directories.
3. Files, links and removal.
4. Views of the whole tree.
-/

namespace ComponentManifest

/-- Why a change failed: the operating system did not make it or could not be asked, or too many
directories are missing. -/
inductive ChangeFailure where
  | access (why : AccessError) (path : Text)
  | unusable (path : Text)
  | tooDeep
  deriving DecidableEq, Repr

/-- The tree after a change, and the cause when it failed. -/
structure Changed where
  tree : Tree
  failure : Option ChangeFailure
  deriving Inhabited

namespace Workspace

/-- The workspace with another tree. -/
def withTree (w : Workspace) (t : Tree) : Workspace := { w with tree := t }

/-- Nothing changed, and nothing failed. -/
def unchanged (w : Workspace) : Changed := ⟨w.tree, none⟩

/-- Nothing changed, because of a failure. -/
def failing (w : Workspace) (why : AccessError) (p : Text) : Changed :=
  ⟨w.tree, some (.access why p)⟩

/-- A change that is made at a path, if the operating system can be given the path. -/
def changing (w : Workspace) (p : Text) (change : Changed) : Changed :=
  if Path.isUsable p then change else ⟨w.tree, some (.unusable p)⟩

/-! ## Directories -/

/-- A path without slashes at its end, unless it has nothing else. -/
def withoutFinalSlashes (p : Text) : Text :=
  let body := (p.reverse.dropWhile (· == '/')).reverse
  if body.isEmpty then p else body

/-- Makes one directory; the name must be free, and a link there is not followed. Slashes after the
name change nothing. -/
def makeDir (w : Workspace) (p : Text) : Changed :=
  w.changing p <|
    match w.reach false (withoutFinalSlashes p) with
    | .entry _ _ => w.failing .exists p
    | .vacant dir name _ => ⟨w.tree.put (dir ++ [name]) .dir, none⟩
    | .blocked why => w.failing why p

/-- Makes one directory unless it is there already. -/
def ensureDir (w : Workspace) (p : Text) : Changed :=
  let made := w.makeDir p
  if made.failure.isSome && w.isDir p then w.unchanged else made

/-- The path of the directory in which the last named segment lies, and that segment. -/
def parentAndName (p : Text) : Text × Text :=
  if (Path.basename p).isEmpty then (Path.dirname (Path.dirname p), Path.basename (Path.dirname p))
  else (Path.dirname p, Path.basename p)

/-- Makes a directory with all missing directories above it. That one above is there after all is
no failure. A path has fewer directories than characters. -/
def makeDirsWithin (w : Workspace) : Nat → Text → Changed
  | 0, p => w.ensureDir p
  | n + 1, p =>
    let (parent, name) := parentAndName p
    if !parent.isEmpty && !name.isEmpty && !w.exists? parent then
      let above := w.makeDirsWithin n parent
      match above.failure with
      | none => if name = Path.here then above else (w.withTree above.tree).ensureDir p
      | some (.access .exists _) =>
        if name = Path.here then ⟨above.tree, none⟩ else (w.withTree above.tree).ensureDir p
      | some _ => above
    else w.ensureDir p

/-- How many of the directories above a path are missing, at most as many as asked for. -/
def missingAbove (w : Workspace) : Nat → Text → Nat
  | 0, _ => 0
  | n + 1, p =>
    let (parent, name) := parentAndName p
    if !parent.isEmpty && !name.isEmpty && !w.exists? parent then w.missingAbove n parent + 1
    else 0

/-- Makes a directory with all missing directories above it, unless it is there already. -/
def makeDirs (w : Workspace) (p : Text) : Changed :=
  if maxLevels < w.missingAbove p.length p then ⟨w.tree, some .tooDeep⟩
  else w.makeDirsWithin p.length p

/-! ## Files, links and removal -/

/-- Writes a file, new or in place of the old content, at the end of all links. -/
def writeFile (w : Workspace) (p : Text) (content : Bytes) : Changed :=
  w.changing p <|
    match w.reach true p with
    | .entry l (.file _) => ⟨w.tree.put l (.file content), none⟩
    | .entry _ .dir => w.failing .isDirectory p
    | .entry _ (.link _) => w.failing .linkLoop p
    | .vacant dir name slash =>
      if slash then w.failing .isDirectory p
      else ⟨w.tree.put (dir ++ [name]) (.file content), none⟩
    | .blocked why => w.failing why p

/-- Makes a link; the name must be free. -/
def makeLink (w : Workspace) (p target : Text) : Changed :=
  w.changing p <|
    match w.reach false p with
    | .entry _ _ => w.failing .exists p
    | .vacant dir name _ => ⟨w.tree.put (dir ++ [name]) (.link target), none⟩
    | .blocked why => w.failing why p

/-- Puts an entry at a path, with the directories above it. -/
def place (w : Workspace) (p : Text) (e : Entry) : Changed :=
  let parent := Path.dirname p
  let above := if parent.isEmpty then w.unchanged else w.makeDirs parent
  match above.failure with
  | some _ => above
  | none =>
    let v := w.withTree above.tree
    match e with
    | .dir => v.makeDirs p
    | .file content => v.writeFile p content
    | .link target => v.makeLink p target

/-- Removes a file, a link or a directory with all it holds. -/
def remove (w : Workspace) (p : Text) : Changed :=
  match w.reach false p with
  | .entry l _ => ⟨w.tree.remove l, none⟩
  | .vacant _ _ _ => w.failing .notFound p
  | .blocked why => w.failing why p

/-! ## The whole tree -/

/-- The workspace with one directory, in which it is, and those above it. -/
def atDirectory (dir : Text) : Workspace :=
  let w : Workspace := ⟨Tree.empty, Path.names dir⟩
  w.withTree (w.makeDirs w.cwdPath).tree

/-- What the tree holds that another one does not hold in the same place. -/
def changedSince (w : Workspace) (old : Tree) : List (Location × Entry) :=
  w.tree.entries.filter fun e => old.entry? e.1 ≠ some e.2

end Workspace

end ComponentManifest
