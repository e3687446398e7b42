import ComponentManifest.Text.Basic

/-!
# Paths as text

What can be said of a path without looking at any file. A path is a text whose segments are
separated by slashes; one that begins with a slash is absolute.

1. Segments, joining and splitting.
2. `normalize` resolves `.` and `..` on the text alone.
3. Paths made absolute, and relative to a directory.
4. The suffix of a file name.
5. Paths that the operating system cannot be given.
-/

namespace ComponentManifest.Path

/-! ## Segments, joining and splitting -/

/-- The parts between slashes; there is one more than there are slashes. -/
def segments (p : Text) : List Text := p.splitOn '/'

/-- The text whose segments are given. -/
def ofSegments (ss : List Text) : Text := Text.joinWith ['/'] ss

/-- Does the path begin at the root? -/
def isAbsolute (p : Text) : Bool := p.head? == some '/'

/-- The path `b` seen from `a`: an absolute `b` stands alone. -/
def join (a b : Text) : Text :=
  if isAbsolute b then b
  else if a.isEmpty || a.getLast? == some '/' then a ++ b
  else a ++ '/' :: b

/-- What follows the last slash. -/
def basename (p : Text) : Text := (p.reverse.takeWhile (· != '/')).reverse

/-- What is before the last slash, without slashes at its end unless it has nothing else. -/
def dirname (p : Text) : Text :=
  let head := (p.reverse.dropWhile (· != '/')).reverse
  let body := (head.reverse.dropWhile (· == '/')).reverse
  if body.isEmpty then head else body

/-! ## Normalisation -/

/-- The segment that stands for the directory itself. -/
def here : Text := ['.']

/-- The segment that stands for the directory above. -/
def up : Text := ['.', '.']

/-- The slashes that a normalised path begins with: exactly two are kept, more count as one. -/
def rootSlashes : Text → Nat
  | '/' :: '/' :: '/' :: _ => 1
  | '/' :: '/' :: _ => 2
  | '/' :: _ => 1
  | _ => 0

/-- One segment after the segments kept so far, the last one first. Above the root of an absolute
path is the root; a relative path keeps the steps that lead out of it. -/
def push (rooted : Bool) (kept : List Text) (s : Text) : List Text :=
  if s = [] ∨ s = here then kept
  else if s = up then
    match kept with
    | [] => if rooted then [] else [up]
    | k :: ks => if k = up then up :: k :: ks else ks
  else s :: kept

/-- The segments that remain when `.` and `..` are resolved on the text. -/
def collapse (rooted : Bool) (ss : List Text) : List Text :=
  (ss.foldl (push rooted) []).reverse

/-- The path without empty segments, `.` and resolvable `..`; nothing left is `.`. -/
def normalize (p : Text) : Text :=
  let slashes := rootSlashes p
  let body := ofSegments (collapse (slashes != 0) (segments p))
  let result := List.replicate slashes '/' ++ body
  if result.isEmpty then here else result

/-! ## Absolute and relative paths -/

/-- The normalised path seen from the directory `cwd`. -/
def absolute (cwd p : Text) : Text := normalize (join cwd p)

/-- The segments of a path that name something. -/
def names (p : Text) : List Text := (segments p).filter (· ≠ [])

/-- The longest list that both begin with. -/
def commonPrefix : List Text → List Text → List Text
  | x :: xs, y :: ys => if x = y then x :: commonPrefix xs ys else []
  | _, _ => []

/-- The way from `start` to `p`, both absolute: steps up to where they part, then down. -/
def relative (p start : Text) : Text :=
  let target := names p
  let origin := names start
  let shared := (commonPrefix origin target).length
  let way := List.replicate (origin.length - shared) up ++ target.drop shared
  if way.isEmpty then here else ofSegments way

/-! ## The suffix of a file name -/

/-- The last segment that names something. -/
def finalName (p : Text) : Text :=
  (((segments p).filter fun s => s ≠ [] ∧ s ≠ here).getLast?).getD []

/-- The last dot of the final name and what follows it; a name that begins with its only dot or
ends with a dot has no suffix. -/
def suffix (p : Text) : Text :=
  let name := finalName p
  let tail := (name.reverse.takeWhile (· != '.')).reverse
  let dot := name.length - tail.length
  if 1 < dot ∧ tail ≠ [] then '.' :: tail else []

/-! ## Usable paths -/

/-- Is the character lost in a path, which keeps only those halves that stand for bytes? -/
def isLost (c : Char) : Bool := Text.isHalf c && !Text.isByteHalf c

/-- Can the operating system be given the path? It has no null character, and nothing in it is
lost. -/
def isUsable (p : Text) : Bool := p.all fun c => c != '\x00' && !isLost c

/-- The path up to its first segment that the operating system cannot be given. -/
def untilUnusable (p : Text) : Text :=
  ofSegments ((segments p).takeWhile isUsable ++ ((segments p).dropWhile isUsable).take 1)

end ComponentManifest.Path
