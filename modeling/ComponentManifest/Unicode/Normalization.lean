import ComponentManifest.Unicode.CombiningClass
import ComponentManifest.Unicode.Composition
import ComponentManifest.Unicode.Decomposition

/-!
# Compatibility normalisation

Normalisation form KC, in the three steps of the standard:

1. every character is decomposed;
2. `reorder` brings the marks that follow a starter into the order of their classes;
3. `compose` merges a starter with the marks that nothing separates from it.
-/

namespace ComponentManifest.Unicode

/-! ## Canonical order -/

/-- Puts a character before a text in canonical order: it moves behind the marks of smaller class,
and a starter moves behind none. -/
def insertMark (c : Char) : Text → Text
  | [] => [c]
  | d :: ds =>
    if 0 < combiningClass d ∧ combiningClass d < combiningClass c then d :: insertMark c ds
    else c :: d :: ds

/-- Each run of marks in ascending order of class; marks of one class keep their order. -/
def reorder (t : Text) : Text := t.foldr insertMark []

/-! ## Composition -/

/-- Is `c` next to the starter, no mark between them having its class or a higher one? `marks` are
the marks kept since the starter, the last one first. -/
def reachesStarter (marks : Text) (c : Char) : Bool :=
  match marks with
  | [] => true
  | m :: _ => combiningClass m < combiningClass c

/-- Composes what follows a starter and the marks kept so far, the last one first. -/
def composeFrom (starter : Char) (marks : Text) : Text → Text
  | [] => starter :: marks.reverse
  | c :: cs =>
    match if reachesStarter marks c then compose? starter c else none with
    | some merged => composeFrom merged marks cs
    | none =>
      if isStarter c then starter :: marks.reverse ++ composeFrom c [] cs
      else composeFrom starter (c :: marks) cs

/-- Marks before the first starter have nothing to merge with. -/
def compose : Text → Text
  | [] => []
  | c :: cs => if isStarter c then composeFrom c [] cs else c :: compose cs

/-- The compatibility normal form of a text. -/
def nfkc (t : Text) : Text := compose (reorder (t.flatMap decompose))

end ComponentManifest.Unicode
