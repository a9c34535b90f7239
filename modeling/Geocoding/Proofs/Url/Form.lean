import Geocoding.Proofs.Text.Symbol
import Geocoding.Url.Form

/-!
# Form bodies read back

A form body is read as the pairs it was made from, whatever texts stand in them.  Inside a
name or a value the separators are escaped, so the body falls apart where its parts were
joined, and each part is undone character by character.
-/

namespace Geocoding.Url

open Text (Symbol)

namespace Percent

/-! ## Escapes undone -/

theorem hexValue?_hexDigit {value : Nat} (small : value < 16) :
    hexValue? (hexDigit value) = some value := by
  revert value
  decide

theorem decode_cons_of_ne {character : Char} (plain : character ≠ '%') (rest : List Char) :
    decode (character :: rest) = String.utf8EncodeChar character ++ decode rest := by
  rw [decode]
  intro high low more same
  exact absurd same plain

theorem decode_escape_append (byte : UInt8) (rest : List Char) :
    decode (escape byte ++ rest) = byte :: decode rest := by
  have size : byte.toNat < 256 := byte.toNat_lt
  have upper : hexValue? (hexDigit (byte.toNat / 16)) = some (byte.toNat / 16) :=
    hexValue?_hexDigit (by omega)
  have lower : hexValue? (hexDigit (byte.toNat % 16)) = some (byte.toNat % 16) :=
    hexValue?_hexDigit (by omega)
  have whole : 16 * (byte.toNat / 16) + byte.toNat % 16 = byte.toNat := by omega
  simp only [escape, List.cons_append, List.nil_append, decode, upper, lower, whole,
    UInt8.ofNat_toNat]

theorem decode_flatMap_escape_append (bytes : List UInt8) (rest : List Char) :
    decode (bytes.flatMap escape ++ rest) = bytes ++ decode rest := by
  induction bytes with
  | nil => rfl
  | cons byte bytes ih =>
    rw [List.flatMap_cons, List.append_assoc, decode_escape_append, ih]
    rfl

theorem decode_escapeChar_append (character : Char) (rest : List Char) :
    decode (escapeChar character ++ rest) = String.utf8EncodeChar character ++ decode rest :=
  decode_flatMap_escape_append _ rest

theorem notMem_escapeChar {separator : Char} (noMark : separator ≠ '%')
    (noDigit : ∀ value < 16, hexDigit value ≠ separator) (character : Char) :
    separator ∉ escapeChar character := by
  intro found
  obtain ⟨byte, -, found⟩ := List.mem_flatMap.mp found
  have size : byte.toNat < 256 := byte.toNat_lt
  simp only [escape, List.mem_cons, List.not_mem_nil, or_false] at found
  rcases found with mark | upper | lower
  · exact noMark mark
  · exact noDigit (byte.toNat / 16) (by omega) upper.symm
  · exact noDigit (byte.toNat % 16) (by omega) lower.symm

end Percent

namespace Form

/-! ## Names and values -/

/-- What a character of a form body stands for before escapes are undone. -/
def blankOfPlus (character : Char) : Char :=
  if character = '+' then ' ' else character

theorem isPlain_ne {character separator : Char} (plain : isPlain character = true)
    (foreign : isPlain separator = false) : character ≠ separator := by
  rintro rfl
  rw [plain] at foreign
  cases foreign

theorem notMem_encodeText {separator : Char} (foreign : isPlain separator = false)
    (noBlank : separator ≠ '+') (noMark : separator ≠ '%')
    (noDigit : ∀ value < 16, Percent.hexDigit value ≠ separator) (text : List Char) :
    separator ∉ encodeText text := by
  intro found
  obtain ⟨character, -, found⟩ := List.mem_flatMap.mp found
  rw [encodeChar] at found
  split at found
  · next plain =>
    exact isPlain_ne plain foreign (List.mem_singleton.mp found).symm
  · split at found
    · exact noBlank (List.mem_singleton.mp found)
    · exact Percent.notMem_escapeChar noMark noDigit character found

theorem ampersand_notMem_encodeText (text : List Char) : '&' ∉ encodeText text :=
  notMem_encodeText (by decide) (by decide) (by decide) (by decide) text

theorem equalsSign_notMem_encodeText (text : List Char) : '=' ∉ encodeText text :=
  notMem_encodeText (by decide) (by decide) (by decide) (by decide) text

theorem map_blankOfPlus_escapeChar (character : Char) :
    (Percent.escapeChar character).map blankOfPlus = Percent.escapeChar character := by
  have noPlus : '+' ∉ Percent.escapeChar character :=
    Percent.notMem_escapeChar (by decide) (by decide) character
  have same : ∀ other ∈ Percent.escapeChar character, blankOfPlus other = id other := by
    intro other found
    apply if_neg
    rintro rfl
    exact noPlus found
  rw [List.map_congr_left same, List.map_id]

theorem decode_encodeChar_append (character : Char) (rest : List Char) :
    Percent.decode ((encodeChar character).map blankOfPlus ++ rest) =
      String.utf8EncodeChar character ++ Percent.decode rest := by
  rw [encodeChar]
  split
  · next plain =>
    have noPlus : blankOfPlus character = character := if_neg (isPlain_ne plain (by decide))
    rw [List.map_singleton, noPlus]
    exact Percent.decode_cons_of_ne (isPlain_ne plain (by decide)) rest
  · split
    · next blank =>
      subst blank
      exact Percent.decode_cons_of_ne (by decide) rest
    · rw [map_blankOfPlus_escapeChar, Percent.decode_escapeChar_append]

theorem decode_encodeText (text : List Char) :
    Percent.decode ((encodeText text).map blankOfPlus) = text.flatMap String.utf8EncodeChar := by
  induction text with
  | nil => rfl
  | cons character rest ih =>
    rw [encodeText, List.flatMap_cons, List.map_append, decode_encodeChar_append]
    rw [encodeText] at ih
    rw [ih, List.flatMap_cons]

/-- A name or a value is read as the text it was written from. -/
theorem decodeText_encodeText (text : String) : decodeText (encodeText text.toList) = text := by
  have bytes : Percent.decode ((encodeText text.toList).map blankOfPlus) = Text.utf8 text :=
    decode_encodeText text.toList
  have read : decodeText (encodeText text.toList) =
      String.ofList (Symbol.replaceStray (Symbol.ofBytes (Text.utf8 text))) := by
    rw [← bytes]
    rfl
  rw [read, Symbol.ofBytes_utf8, Symbol.replaceStray_ofString, String.ofList_toList]

/-! ## Pairs -/

theorem decodePair_encodePair (pair : String × String) : decodePair (encodePair pair) = pair := by
  have name : ∀ character ∈ encodeText pair.1.toList, (character != '=') = true := by
    intro character found
    rw [bne_iff_ne]
    rintro rfl
    exact equalsSign_notMem_encodeText _ found
  rw [decodePair, encodePair, List.takeWhile_append_of_pos name, List.dropWhile_append_of_pos name]
  simp [decodeText_encodeText]

theorem ampersand_notMem_encodePair (pair : String × String) : '&' ∉ encodePair pair := by
  simp [encodePair, ampersand_notMem_encodeText]

theorem isEmpty_encodePair (pair : String × String) : (encodePair pair).isEmpty = false := by
  simp [encodePair]

theorem decode_encode (pairs : List (String × String)) : decode (encode pairs) = pairs := by
  cases pairs with
  | nil => rfl
  | cons pair rest =>
    have separate : ∀ part ∈ (pair :: rest).map encodePair, '&' ∉ part := by
      intro part found
      obtain ⟨written, -, rfl⟩ := List.mem_map.mp found
      exact ampersand_notMem_encodePair written
    have parts : (encode (pair :: rest)).splitOn '&' = (pair :: rest).map encodePair :=
      List.splitOn_intercalate '&' separate (by simp)
    rw [decode, parts]
    simp [List.filter_map, Function.comp_def, isEmpty_encodePair, decodePair_encodePair]

end Form

end Geocoding.Url
