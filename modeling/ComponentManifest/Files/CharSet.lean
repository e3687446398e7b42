import ComponentManifest.Text.Basic

/-!
# Character sets of patterns

The set that a bracket expression stands for: ranges of characters, or everything but them.
-/

namespace ComponentManifest

/-- Ranges of characters, both ends included, or the complement of their union. -/
structure CharSet where
  negated : Bool
  ranges : List (Char × Char)
  deriving DecidableEq, Repr

namespace CharSet

/-- Is the character in the set? -/
def contains (s : CharSet) (c : Char) : Bool :=
  (s.ranges.any fun r => r.1 ≤ c && c ≤ r.2) != s.negated

/-- The set of one character. -/
def single (c : Char) : CharSet := ⟨false, [(c, c)]⟩

/-- The set of all characters. -/
def all : CharSet := ⟨true, []⟩

/-- The set of all characters but one. -/
def except (c : Char) : CharSet := ⟨true, [(c, c)]⟩

/-- A character of a bracket expression, marked when it is a dash that may make a range. -/
abbrev Mark := Char × Bool

/-- The ranges of a bracket expression: a marked dash between two characters joins them. -/
def rangesOf : List Mark → List (Char × Char)
  | (a, _) :: (_, true) :: (b, _) :: ms => (a, b) :: rangesOf ms
  | (a, _) :: ms => (a, a) :: rangesOf ms
  | [] => []

end CharSet

end ComponentManifest
