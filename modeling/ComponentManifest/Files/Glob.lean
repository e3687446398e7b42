import ComponentManifest.Files.CharSet

/-!
# Glob patterns of one segment

Within one segment of a pattern `*` stands for any text, `?` for any character and `[...]` for a
set of characters. The match is against the whole name, case and all.

1. Bracket expressions.
2. Tokens of a pattern.
3. Matching.
-/

namespace ComponentManifest.Glob

/-! ## Bracket expressions -/

/-- What stands between an opening bracket and its closing one; the first character does not close
it, nor does the first after an exclamation mark. -/
def bracketBody? (t : Text) : Option Text :=
  let mark := if t.head? == some '!' then 1 else 0
  let lead := if (t.drop mark).head? == some ']' then mark + 1 else mark
  let rest := t.drop lead
  let body := rest.takeWhile (· != ']')
  if body.length < rest.length then some (t.take lead ++ body) else none

/-- Cuts the body of a bracket expression at the dashes that make ranges. Each part but the last has
at least `least` characters before its dash, so that one character cannot end one range and begin
the next. -/
def rangeParts : Nat → Nat → Text → List Text
  | 0, _, t => [t]
  | n + 1, least, t =>
    let part := t.take least ++ (t.drop least).takeWhile (· != '-')
    match t.drop part.length with
    | [] => [t]
    | _ :: rest => part :: rangeParts n 2 rest

/-- A dash at the end makes no range. -/
def settleLast : List Text → List Text
  | [p, []] => [p ++ ['-']]
  | p :: ps => p :: settleLast ps
  | [] => []

/-- Leaves out ranges whose ends are in the wrong order, from the last one on. -/
def dropReversed (parts : List Text) : List Text :=
  parts.foldr (fun p acc =>
    match acc with
    | [] => [p]
    | q :: qs =>
      match p.getLast?, q.head? with
      | some a, some b => if b < a then (p.dropLast ++ q.drop 1) :: qs else p :: q :: qs
      | _, _ => p :: q :: qs) []

/-- The characters of a bracket expression; between two parts stands a dash that makes a range. -/
def marks : List Text → List CharSet.Mark
  | [] => []
  | [p] => p.map fun c => (c, false)
  | p :: ps => (p.map fun c => (c, false)) ++ ('-', true) :: marks ps

/-- The set of a bracket expression with the given body. -/
def bracketSet (body : Text) : CharSet :=
  let least := if body.head? == some '!' then 2 else 1
  let parts :=
    if body.contains '-' then dropReversed (settleLast (rangeParts body.length least body))
    else [body]
  match marks parts with
  | ('!', false) :: ms => ⟨true, CharSet.rangesOf ms⟩
  | ms => ⟨false, CharSet.rangesOf ms⟩

/-! ## Tokens -/

/-- A token of a pattern: any text, or one character of a set. -/
inductive Token where
  | many
  | one (s : CharSet)
  deriving DecidableEq, Repr

/-- The tokens of a pattern; its first `skip` characters belong to a bracket expression before
them. A bracket that nothing closes stands for itself. -/
def tokensFrom (skip : Nat) : Text → List Token
  | [] => []
  | c :: cs =>
    match skip with
    | n + 1 => tokensFrom n cs
    | 0 =>
      if c = '*' then .many :: tokensFrom 0 cs
      else if c = '?' then .one .all :: tokensFrom 0 cs
      else if c = '[' then
        match bracketBody? cs with
        | some body => .one (bracketSet body) :: tokensFrom (body.length + 1) cs
        | none => .one (.single c) :: tokensFrom 0 cs
      else .one (.single c) :: tokensFrom 0 cs

/-- The tokens of a pattern. -/
def tokens (pattern : Text) : List Token := tokensFrom 0 pattern

/-- Does the pattern have a wildcard, or the start of one? -/
def hasMagic (pattern : Text) : Bool := pattern.any fun c => c == '*' || c == '?' || c == '['

/-! ## Matching -/

/-- Do the tokens stand for the whole text? -/
def accepts : List Token → Text → Bool
  | [], t => t.isEmpty
  | .many :: ts, t => (List.range (t.length + 1)).any fun n => accepts ts (t.drop n)
  | .one s :: ts, t =>
    match t with
    | c :: cs => s.contains c && accepts ts cs
    | [] => false

/-- Does the pattern match the whole name? -/
def matchesName (pattern name : Text) : Bool := accepts (tokens pattern) name

end ComponentManifest.Glob
