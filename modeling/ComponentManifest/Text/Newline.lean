import ComponentManifest.Text.Basic

/-!
# Line ends

A line ends with a line feed, a carriage return, or both in this order. Readers of source text see
line feeds only.
-/

namespace ComponentManifest.Text

/-- Every line end becomes a single line feed. -/
def unifyNewlines : Text → Text
  | [] => []
  | '\r' :: '\n' :: cs => '\n' :: unifyNewlines cs
  | c :: cs => (if c = '\r' then '\n' else c) :: unifyNewlines cs

end ComponentManifest.Text
