import ComponentManifest.Files.CharSet
import ComponentManifest.Files.Path
import ComponentManifest.Report.Fault

/-!
# Exclusion rules

Rules in the notation of ignore files. A rule names directories; what lies in such a directory, at
any depth, is excluded. A rule without an inner slash holds at every depth, one with an inner or
leading slash from the top. A leading `!` takes back what earlier rules excluded, so the last rule
that matches a path decides.

1. `RuleReader`, whatever reads such rules.
2. Pieces of a rule and the texts that they leave.
3. Reading the pieces of a segment.
4. Reading a rule.
5. Deciding a path, and `gitignore`, the reader of the program.
-/

namespace ComponentManifest

/-- A reader of ignore files. -/
structure RuleReader where
  /-- What a line says about a path: that it is excluded, that it is not, or nothing. -/
  verdict : Text → Text → Option Bool
  /-- Whether lines, if they can be read, exclude a path. -/
  read : List Text → Except Fault (Text → Bool)

namespace Exclusion

/-! ## Pieces -/

/-- A piece of a rule, matched against the beginning of a path. -/
inductive Piece where
  /-- Any number of leading directories. -/
  | anyDepth
  /-- Any number of directories after a directory. -/
  | anyBelow
  /-- Any text within a segment. -/
  | many
  /-- A whole segment. -/
  | segment
  /-- One character of a set. -/
  | one (s : CharSet)
  deriving DecidableEq, Repr

/-- What follows each slash that has a text without line breaks before it. -/
def afterSlashes (started : Bool) : Text → List Text
  | [] => []
  | c :: cs =>
    (if c = '/' ∧ started then [cs] else []) ++
      (if c = '\n' then [] else afterSlashes true cs)

/-- What follows each beginning whose characters satisfy `p`. -/
def afterRun (p : Char → Bool) : Text → List Text
  | [] => [[]]
  | c :: cs => (c :: cs) :: (if p c then afterRun p cs else [])

/-- What a piece can leave of a text. -/
def Piece.rests (t : Text) : Piece → List Text
  | .anyDepth => t :: afterSlashes false t
  | .anyBelow =>
    t :: match t with
      | '/' :: c :: cs => if c = '\n' then [] else afterRun (· != '\n') cs
      | _ => []
  | .many => afterRun (· != '/') t
  | .segment =>
    match t with
    | c :: cs => if c = '/' then [] else afterRun (· != '/') cs
    | [] => []
  | .one s =>
    match t with
    | c :: cs => if s.contains c then [cs] else []
    | [] => []

/-- Do the pieces match a beginning of the text? -/
def startsWith : List Piece → Text → Bool
  | [], _ => true
  | p :: ps, t => (p.rests t).any fun r => startsWith ps r

/-! ## Reading a segment -/

/-- The slash between two segments. -/
def slash : Piece := .one (.single '/')

/-- What stands between an opening bracket and its closing one, and whether it is negated. -/
def bracketBody? (t : Text) : Option (Bool × Text × Nat) :=
  let mark := if t.head? == some '!' || t.head? == some '^' then 1 else 0
  let lead := if (t.drop mark).head? == some ']' then mark + 1 else mark
  let rest := t.drop lead
  let body := rest.takeWhile (· != ']')
  if body.length < rest.length then
    some (mark == 1, (t.take lead).drop mark ++ body, lead + body.length + 1)
  else none

/-- The set of a bracket expression; a range with its ends in the wrong order has none. -/
def bracketSet (negated : Bool) (body : Text) : Except Fault CharSet :=
  let ranges := CharSet.rangesOf (body.map fun c => (c, c == '-'))
  if ranges.any (fun r => r.2 < r.1) then .error .reversedRange
  else .ok ⟨negated, ranges⟩

/-- The pieces of a segment of the rule `rule`; the first `skip` characters belong to a bracket
expression before them, and a backslash before the segment escapes its first character. -/
def segmentPieces (rule : Text) (skip : Nat) (escaped : Bool) :
    Text → Except Fault (List Piece)
  | [] => if escaped then .error (.unfinishedEscape rule) else .ok []
  | c :: cs =>
    match skip with
    | n + 1 => segmentPieces rule n false cs
    | 0 =>
      if escaped then (segmentPieces rule 0 false cs).map (.one (.single c) :: ·)
      else if c = '\\' then segmentPieces rule 0 true cs
      else if c = '*' then (segmentPieces rule 0 false cs).map (.many :: ·)
      else if c = '?' then (segmentPieces rule 0 false cs).map (.one (.except '/') :: ·)
      else if c = '[' then
        match bracketBody? cs with
        | some (negated, body, size) =>
          match bracketSet negated body with
          | .ok s => (segmentPieces rule size false cs).map (.one s :: ·)
          | .error e => .error e
        | none => (segmentPieces rule 0 false cs).map (.one (.single c) :: ·)
      else (segmentPieces rule 0 false cs).map (.one (.single c) :: ·)

/-! ## Reading a rule -/

/-- The segment that stands for any number of directories. -/
def doubleStar : Text := ['*', '*']

/-- Adjacent double stars count once. -/
def mergeStars : List Text → List Text
  | s :: t :: ss =>
    if s = doubleStar ∧ t = doubleStar then mergeStars (t :: ss) else s :: mergeStars (t :: ss)
  | ss => ss

/-- The pieces of the segments of a rule from the given one on. `first` and `joined` say whether it
is the first one, and whether a segment stands before it. -/
def pieces (rule : Text) (first joined : Bool) : List Text → Except Fault (List Piece)
  | [] => .ok []
  | s :: ss =>
    if s = doubleStar then
      if first then (pieces rule false false ss).map (.anyDepth :: ·)
      else if ss.isEmpty then .ok [slash]
      else (pieces rule false true ss).map (.anyBelow :: ·)
    else do
      let here ← if s = ['*'] then .ok [.segment] else segmentPieces rule 0 false s
      let rest ← pieces rule false true ss
      return (if joined then [slash] else []) ++ here ++ rest

/-- What a rule matches. -/
inductive Shape where
  | beginning (ps : List Piece)
  /-- Every path. -/
  | everything
  /-- Every path in a directory. -/
  | nested
  deriving DecidableEq, Repr

/-- A rule, and whether it takes back what earlier rules excluded. -/
structure Rule where
  readmits : Bool
  shape : Shape
  deriving DecidableEq, Repr

/-- The segments of a rule as they are matched from the top: without a leading slash, below any
directories when it is a single name, and with whatever lies in the directory. -/
def anchored (ss : List Text) : List Text :=
  let ss := match ss with
    | [] :: rest => rest
    | [s] => if s = doubleStar then [s] else [doubleStar, s]
    | [s, []] => if s = doubleStar then [s, []] else [doubleStar, s, []]
    | ss => ss
  let ss := match ss.getLast? with
    | some [] => ss.dropLast ++ [doubleStar]
    | _ => ss
  mergeStars ss

/-- The shape of a rule without its exclamation mark. -/
def shapeOf (rule : Text) : Except Fault Shape :=
  match anchored (Path.segments rule) with
  | [s] =>
    if s = doubleStar then .ok (if rule = ['/'] then .everything else .nested)
    else (pieces rule true false [s]).map .beginning
  | ss =>
    if ss = [doubleStar, ['*'], doubleStar] then .ok .nested
    else (pieces rule true false ss).map .beginning

/-- The rule that a line writes; a line that begins with a number sign is a comment. -/
def ruleOf (line : Text) : Except Fault (Option Rule) :=
  match line with
  | '#' :: _ => .ok none
  | '!' :: rule => (shapeOf rule).map fun s => some ⟨true, s⟩
  | rule => (shapeOf rule).map fun s => some ⟨false, s⟩

/-! ## Deciding a path -/

/-- Does the shape match a path? -/
def Shape.matchesPath (p : Text) : Shape → Bool
  | .beginning ps => startsWith ps p
  | .everything => p.any (· != '\n')
  | .nested => p.contains '/'

/-- The path as rules see it: without a slash or `./` at its beginning. -/
def seenPath : Text → Text
  | '/' :: p => p
  | '.' :: '/' :: p => p
  | p => p

/-- What a rule says about a path. -/
def Rule.verdict (r : Rule) (p : Text) : Option Bool :=
  if r.shape.matchesPath (seenPath p) then some !r.readmits else none

/-- Is the path excluded? The last rule that matches decides. -/
def excludes (rules : List Rule) (p : Text) : Bool :=
  (rules.reverse.findSome? fun r => r.verdict p).getD false

/-- The rules of some lines, without the comments. -/
def rulesOf : List Text → Except Fault (List Rule)
  | [] => .ok []
  | line :: lines => do
    let rule ← ruleOf line
    let rest ← rulesOf lines
    return rule.toList ++ rest

/-- The reader of ignore files that the program uses. -/
def gitignore : RuleReader where
  verdict line p :=
    match ruleOf line with
    | .ok (some r) => r.verdict p
    | _ => none
  read lines := (rulesOf lines).map excludes

end Exclusion

end ComponentManifest
