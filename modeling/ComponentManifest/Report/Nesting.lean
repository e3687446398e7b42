/-!
# Nesting

Some work goes into itself once for each level of its input: reading a value inside a value,
matching a segment below a segment, making a directory above a directory. The stack ends it at some
level. How deep the directories of a tree lie in one another is not limited here.
-/

namespace ComponentManifest

/-- What is nested too deep. -/
inductive Nested where
  | array
  | object
  | pattern
  | directories
  deriving DecidableEq, Repr

/-- How many levels the stack leaves. The callers have taken their part of it, so that this is a
round number below a thousand. -/
def maxLevels : Nat := 980

end ComponentManifest
