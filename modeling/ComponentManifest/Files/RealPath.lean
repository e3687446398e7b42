import ComponentManifest.Files.Resolve

/-!
# Real paths

The real path of a path has no links left in it. It is defined for every path: a segment that is
not there is kept as it is, and at a link that leads back to itself the rest is resolved on the
text alone. There is no limit on the number of links.

1. `followWith` walks along segments, entering links by a given function.
2. `follow` enters links that are not being entered already.
-/

namespace ComponentManifest

/-- A location, and whether all links on the way were resolved. -/
structure Traced where
  location : Location
  resolved : Bool
  deriving DecidableEq, Repr

namespace Tree

/-- The rest of a path after a location, resolved on the text; a rest that begins with a slash
starts again at the root. -/
def appendText (l : Location) (rest : List Text) : Location :=
  let base := match rest with
    | [] :: _ :: _ => []
    | _ => l
  (rest.foldl (Path.push true) base.reverse).reverse

/-- Walks along segments; `enter` resolves a link, given its location and target. -/
def followWith (t : Tree) (enter : Location → Text → Traced) (l : Location) :
    List Text → Traced
  | [] => ⟨l, true⟩
  | s :: rest =>
    if s = [] ∨ s = Path.here then t.followWith enter l rest
    else if s = Path.up then t.followWith enter l.dropLast rest
    else
      match t.entry? (l ++ [s]) with
      | some (.link target) =>
        let inner := enter (l ++ [s]) target
        if inner.resolved then t.followWith enter inner.location rest
        else ⟨appendText inner.location rest, false⟩
      | _ => t.followWith enter (l ++ [s]) rest

/-- Walks along segments through at most `depth` nested links; `busy` are the links that are being
entered. -/
def follow (t : Tree) : Nat → List Location → Location → List Text → Traced
  | 0, _, l, ss => ⟨appendText l ss, false⟩
  | n + 1, busy, l, ss =>
    t.followWith (fun link target =>
      if busy.contains link then ⟨link, false⟩
      else t.follow n (link :: busy) (startOf link.dropLast target) (Path.segments target)) l ss

end Tree

namespace Workspace

/-- The location of a path without links. Nested links are all different, so there are no more of
them than entries. -/
def realLocation (w : Workspace) (p : Text) : Location :=
  (w.tree.follow (w.tree.entries.length + 1) [] (Tree.startOf w.cwd p) (Path.segments p)).location

/-- The path without links. -/
def realPath (w : Workspace) (p : Text) : Text := (w.realLocation p).path

end Workspace

end ComponentManifest
