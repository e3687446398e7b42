import ComponentManifest.Unicode.Ranges

/-!
# White space

The characters that separate words: the white-space characters of Unicode 14 together with the
four information separators U+001C to U+001F.
-/

namespace ComponentManifest.Unicode

/-- The white-space characters. -/
def blankRanges : Ranges := [
  (0x9, 0xD), (0x1C, 0x20), (0x85, 0x85), (0xA0, 0xA0), (0x1680, 0x1680), (0x2000, 0x200A),
  (0x2028, 0x2029), (0x202F, 0x202F), (0x205F, 0x205F), (0x3000, 0x3000)]

/-- Is the character white space? -/
def isBlank (c : Char) : Bool := blankRanges.contains c

end ComponentManifest.Unicode
