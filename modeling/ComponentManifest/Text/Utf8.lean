import ComponentManifest.Text.Basic

/-!
# UTF-8

The bytes of a text and back. Decoding is strict: overlong forms, surrogates, numbers above
U+10FFFF and cut sequences have no text.
-/

namespace ComponentManifest

/-- The content of a file. -/
abbrev Bytes := List UInt8

namespace Text

/-- The UTF-8 encoding of a text. -/
def encodeUtf8 (t : Text) : Bytes := t.flatMap String.utf8EncodeChar

/-- The text that the bytes encode, if they are well formed. -/
def decodeUtf8? (bs : Bytes) : Option Text := (String.fromUTF8? bs.toByteArray).map String.toList

/-- Every text is read back from its bytes. -/
theorem decodeUtf8?_encodeUtf8 (t : Text) : decodeUtf8? (encodeUtf8 t) = some t := by
  have h : (encodeUtf8 t).toByteArray = (String.ofList t).toByteArray := by
    rw [String.toByteArray_ofList]; rfl
  unfold decodeUtf8?
  rw [h, String.fromUTF8?, dif_pos (String.ofList t).isValidUTF8]
  show some (String.toList _) = some t
  congr 1
  exact String.toList_ofList

end Text

end ComponentManifest
