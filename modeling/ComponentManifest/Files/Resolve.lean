import ComponentManifest.Files.Path
import ComponentManifest.Files.Tree

/-!
# Resolving paths

How the operating system finds the entry that a path denotes: segment by segment from the root or
the working directory, following links before a later `..` is applied. This differs from
normalising the text, which resolves `..` first.

1. Where a walk ends.
2. `advance` walks up to the next link, and `walk` follows at most forty links.
3. Questions about a path.
-/

namespace ComponentManifest

/-! ## Where a walk ends -/

/-- Why a path cannot be used. -/
inductive AccessError where
  | notFound
  | exists
  | notDirectory
  | isDirectory
  | linkLoop
  deriving DecidableEq, Repr

/-- The end of a walk: an entry, a free name in a directory, or a reason why there is neither. A
free name with a slash after it can only become a directory. -/
inductive Reach where
  | entry (l : Location) (e : Entry)
  | vacant (dir : Location) (name : Text) (slash : Bool)
  | blocked (why : AccessError)
  deriving DecidableEq, Repr

/-- The end of a walk along plain entries, which may also be a link that is to be followed. -/
inductive Stop where
  | reach (r : Reach)
  | link (dir : Location) (target : Text) (rest : List Text)
  deriving DecidableEq, Repr

/-! ## Walking -/

namespace Tree

/-- Walks from a directory along segments until they end or a link has to be followed. The last
segment's link is followed only on request. -/
def advance (t : Tree) (followLast : Bool) (dir : Location) : List Text → Stop
  | [] => .reach (.entry dir .dir)
  | s :: rest =>
    if s = [] ∨ s = Path.here then t.advance followLast dir rest
    else if s = Path.up then t.advance followLast dir.dropLast rest
    else
      match t.entry? (dir ++ [s]) with
      | none =>
        .reach (if rest.all (·.isEmpty) then .vacant dir s !rest.isEmpty else .blocked .notFound)
      | some .dir => t.advance followLast (dir ++ [s]) rest
      | some (.file content) =>
        .reach (if rest.isEmpty then .entry (dir ++ [s]) (.file content) else .blocked .notDirectory)
      | some (.link target) =>
        if rest.isEmpty && !followLast then .reach (.entry (dir ++ [s]) (.link target))
        else .link dir target rest

/-- Where the segments of a path start: at the root when it is absolute. -/
def startOf (dir : Location) (p : Text) : Location := if Path.isAbsolute p then [] else dir

/-- Walks along segments, following at most `links` links. -/
def walk (t : Tree) (followLast : Bool) : Nat → Location → List Text → Reach
  | links, dir, ss =>
    match t.advance followLast dir ss with
    | .reach r => r
    | .link d target rest =>
      match links with
      | 0 => .blocked .linkLoop
      | n + 1 => t.walk followLast n (startOf d target) (Path.segments target ++ rest)

end Tree

/-- How many links one path may lead through. -/
def maxLinks : Nat := 40

/-- A file tree and the working directory, from which relative paths start. -/
structure Workspace where
  tree : Tree
  cwd : Location
  deriving Inhabited

namespace Workspace

/-- The working directory's path. -/
def cwdPath (w : Workspace) : Text := w.cwd.path

/-- The normalised absolute form of a path. -/
def absolute (w : Workspace) (p : Text) : Text := Path.absolute w.cwdPath p

/-- What a path leads to. The empty path leads nowhere. -/
def reach (w : Workspace) (followLast : Bool) (p : Text) : Reach :=
  if p.isEmpty then .blocked .notFound
  else w.tree.walk followLast maxLinks (Tree.startOf w.cwd p) (Path.segments p)

/-! ## Questions about a path -/

/-- The entry that a path denotes, links followed. -/
def entry? (w : Workspace) (p : Text) : Option Entry :=
  match w.reach true p with
  | .entry _ e => some e
  | _ => none

/-- Is there a regular file? -/
def isFile (w : Workspace) (p : Text) : Bool :=
  match w.entry? p with
  | some (.file _) => true
  | _ => false

/-- Is there a directory? -/
def isDir (w : Workspace) (p : Text) : Bool := w.entry? p == some .dir

/-- Is there an entry at the end of all links? -/
def exists? (w : Workspace) (p : Text) : Bool := (w.entry? p).isSome

/-- Is there an entry, be it a link that leads nowhere? -/
def lexists (w : Workspace) (p : Text) : Bool :=
  match w.reach false p with
  | .entry _ _ => true
  | _ => false

/-- The names in a directory; what is no directory has none. -/
def list (w : Workspace) (p : Text) : List Text :=
  match w.reach true p with
  | .entry l .dir => w.tree.children l
  | _ => []

/-- The content of a file. -/
def read (w : Workspace) (p : Text) : Except AccessError Bytes :=
  match w.reach true p with
  | .entry _ (.file content) => .ok content
  | .entry _ .dir => .error .isDirectory
  | .entry _ (.link _) => .error .linkLoop
  | .vacant _ _ _ => .error .notFound
  | .blocked why => .error why

end Workspace

end ComponentManifest
