/-!
# Ranges of characters

A property of characters is given as the list of the ranges in which it holds.
-/

namespace ComponentManifest.Unicode

/-- Ranges of character numbers, both ends included. -/
abbrev Ranges := List (Nat × Nat)

/-- Does the character lie in one of the ranges? -/
def Ranges.contains (rs : Ranges) (c : Char) : Bool :=
  rs.any fun r => r.1 ≤ c.toNat && c.toNat ≤ r.2

end ComponentManifest.Unicode
