import Geocoding.Text.Symbol

/-!
# The bytes of a text

A text is stored as the bytes of its characters, one character after another.  Read symbol
by symbol, they are the characters again, without stray bytes.
-/

namespace Geocoding.Text

/-- The bytes that a text is stored in. -/
def utf8 (text : String) : List UInt8 :=
  text.toList.flatMap String.utf8EncodeChar

namespace Symbol

/-- A character is told from the bytes that begin with its own. -/
theorem first?_utf8EncodeChar_append (character : Char) (rest : List UInt8) :
    first? (String.utf8EncodeChar character ++ rest) = some character := by
  have short : (String.utf8EncodeChar character).length ≤ 4 := by
    rw [String.length_utf8EncodeChar]
    exact character.utf8Size_le_four
  rw [first?, List.take_append, List.take_of_length_le short, List.toByteArray_append]
  exact ByteArray.utf8DecodeChar?_utf8EncodeChar_append

theorem ofBytes_utf8EncodeChar_append (character : Char) (rest : List UInt8) :
    ofBytes (String.utf8EncodeChar character ++ rest) = char character :: ofBytes rest := by
  have first := first?_utf8EncodeChar_append character rest
  have size := String.length_utf8EncodeChar character
  cases bytes : String.utf8EncodeChar character with
  | nil =>
    have positive := character.utf8Size_pos
    rw [bytes, List.length_nil] at size
    omega
  | cons byte more =>
    rw [bytes] at first size
    have behind : (more ++ rest).drop (character.utf8Size - 1) = rest := by
      rw [List.length_cons] at size
      exact List.drop_left' (by omega)
    rw [List.cons_append] at first ⊢
    rw [ofBytes, first]
    simp only [behind]

theorem ofBytes_utf8 (text : String) : ofBytes (utf8 text) = ofString text := by
  rw [utf8, ofString]
  induction text.toList with
  | nil => rw [List.flatMap_nil, ofBytes]; rfl
  | cons character rest ih =>
    rw [List.flatMap_cons, ofBytes_utf8EncodeChar_append, ih]
    rfl

theorem ofString_append (first second : String) :
    ofString (first ++ second) = ofString first ++ ofString second := by
  rw [ofString, String.toList_append, List.map_append]
  rfl

theorem replaceStray_ofString (text : String) : replaceStray (ofString text) = text.toList := by
  rw [replaceStray, ofString]
  induction text.toList with
  | nil => rfl
  | cons character rest ih => exact congrArg (character :: ·) ih

end Symbol

end Geocoding.Text
