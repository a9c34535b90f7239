import Geocoding.Json.Node

/-!
# Strings read back

A string is written with as few escapes as possible and read with all of them.  Every
character that is written is read as itself, whether it stands for itself, is escaped
by a letter or by its code point, so the characters between the quotes come back.
-/

namespace Geocoding.Json

open Text (Symbol)

theorem hexDigit?_digitChar {digit : Nat} (small : digit < 16) :
    hexDigit? (.char digit.digitChar) = some digit := by
  revert digit
  decide

theorem readHex_controlDigits {unit : Nat} (small : unit < 0x20) (rest : List Symbol) :
    readHex (.char '0' :: .char '0' :: .char (unit / 16).digitChar
      :: .char (unit % 16).digitChar :: rest) = .ok (unit, rest) := by
  have zero : hexDigit? (.char '0') = some 0 := by decide
  have high : hexDigit? (.char (unit / 16).digitChar) = some (unit / 16) :=
    hexDigit?_digitChar (by omega)
  have low : hexDigit? (.char (unit % 16).digitChar) = some (unit % 16) :=
    hexDigit?_digitChar (by omega)
  have value : unit / 16 * 16 + unit % 16 = unit := by omega
  simp [readHex, zero, high, low, value]

/-- The ways in which a character is written: a backslash and a letter, a backslash and
a code point, or the character itself. -/
theorem writeChar_cases (character : Char) :
    (∃ letter, letter ≠ 'u' ∧ simpleEscape? letter = some character ∧
      writeChar character = ['\\', letter]) ∨
    (character.toNat < 0x20 ∧ writeChar character =
      ['\\', 'u', '0', '0', (character.toNat / 16).digitChar,
        (character.toNat % 16).digitChar]) ∨
    (character ≠ '"' ∧ character ≠ '\\' ∧ ¬ character.toNat < 0x20 ∧
      writeChar character = [character]) := by
  by_cases quote : character = '"'
  · exact .inl ⟨'"', by decide, by subst quote; rfl, by subst quote; rfl⟩
  by_cases backslash : character = '\\'
  · exact .inl ⟨'\\', by decide, by subst backslash; rfl, by subst backslash; rfl⟩
  by_cases backspace : character = '\x08'
  · exact .inl ⟨'b', by decide, by subst backspace; rfl, by subst backspace; rfl⟩
  by_cases tab : character = '\t'
  · exact .inl ⟨'t', by decide, by subst tab; rfl, by subst tab; rfl⟩
  by_cases newline : character = '\n'
  · exact .inl ⟨'n', by decide, by subst newline; rfl, by subst newline; rfl⟩
  by_cases feed : character = '\x0c'
  · exact .inl ⟨'f', by decide, by subst feed; rfl, by subst feed; rfl⟩
  by_cases carriage : character = '\r'
  · exact .inl ⟨'r', by decide, by subst carriage; rfl, by subst carriage; rfl⟩
  by_cases control : character.toNat < 0x20
  · refine .inr (.inl ⟨control, ?_⟩)
    simp [writeChar, quote, backslash, backspace, tab, newline, feed, carriage, control]
  · refine .inr (.inr ⟨quote, backslash, control, ?_⟩)
    simp [writeChar, quote, backslash, backspace, tab, newline, feed, carriage, control]

theorem readEscape_letter {letter character : Char} (notPoint : letter ≠ 'u')
    (stands : simpleEscape? letter = some character) (rest : List Symbol) :
    readEscape (.char letter :: rest) = .ok (character, rest) := by
  rw [readEscape.eq_def]
  split
  · contradiction
  · simp_all
  · simp_all
  · simp_all

theorem skipEscape_letter {letter character : Char} (notPoint : letter ≠ 'u')
    (stands : simpleEscape? letter = some character) (rest : List Symbol) :
    skipEscape (.char letter :: rest) = .ok rest := by
  rw [skipEscape.eq_def]
  split
  · contradiction
  · simp_all
  · simp_all
  · simp_all

theorem readEscape_control {character : Char} (control : character.toNat < 0x20)
    (rest : List Symbol) :
    readEscape (.char 'u' :: .char '0' :: .char '0' :: .char (character.toNat / 16).digitChar
      :: .char (character.toNat % 16).digitChar :: rest) = .ok (character, rest) := by
  have notLeading : isLeadingSurrogate character.toNat = false := by
    simp [isLeadingSurrogate]; omega
  have notTrailing : isTrailingSurrogate character.toNat = false := by
    simp [isTrailingSurrogate]; omega
  simp [readEscape, readHex_controlDigits control, bind, Except.bind, pure, Except.pure,
    notLeading, notTrailing]

theorem skipEscape_control {unit : Nat} (control : unit < 0x20) (rest : List Symbol) :
    skipEscape (.char 'u' :: .char '0' :: .char '0' :: .char (unit / 16).digitChar
      :: .char (unit % 16).digitChar :: rest) = .ok rest := by
  simp [skipEscape, readHex_controlDigits control, Except.map]

theorem readSymbols_writeChar (character : Char) (rest : List Symbol) :
    readSymbols ((writeChar character).map .char ++ rest) =
      (readSymbols rest).map (.char character :: ·) := by
  rcases writeChar_cases character with ⟨letter, notPoint, stands, written⟩ |
    ⟨control, written⟩ | ⟨notQuote, notBackslash, plain, written⟩
  · rw [written]
    simp only [List.map_cons, List.map_nil, List.cons_append, List.nil_append]
    rw [readSymbols, readEscape_letter notPoint stands]
  · rw [written]
    simp only [List.map_cons, List.map_nil, List.cons_append, List.nil_append]
    rw [readSymbols, readEscape_control control]
  · have allowed : isControl (.char character) = false := by simpa [isControl] using plain
    rw [written]
    simp only [List.map_cons, List.map_nil, List.cons_append, List.nil_append]
    rw [readSymbols, allowed]
    · rfl
    · simpa using notQuote
    · simpa using notBackslash

theorem skipString_writeChar (character : Char) (rest : List Symbol) :
    skipString ((writeChar character).map .char ++ rest) = skipString rest := by
  rcases writeChar_cases character with ⟨letter, notPoint, stands, written⟩ |
    ⟨control, written⟩ | ⟨notQuote, notBackslash, plain, written⟩
  · rw [written]
    simp only [List.map_cons, List.map_nil, List.cons_append, List.nil_append]
    rw [skipString, skipEscape_letter notPoint stands]
  · rw [written]
    simp only [List.map_cons, List.map_nil, List.cons_append, List.nil_append]
    rw [skipString, skipEscape_control control]
  · have allowed : isControl (.char character) = false := by simpa [isControl] using plain
    rw [written]
    simp only [List.map_cons, List.map_nil, List.cons_append, List.nil_append]
    rw [skipString, allowed]
    · rfl
    · simpa using notQuote
    · simpa using notBackslash

/-- What is written of some characters and the quote that closes them. -/
def closedString (characters : List Char) (rest : List Symbol) : List Symbol :=
  (characters.flatMap writeChar).map .char ++ .char '"' :: rest

theorem readSymbols_closedString (characters : List Char) (rest : List Symbol) :
    readSymbols (closedString characters rest) = .ok (characters.map .char) := by
  induction characters with
  | nil => simp [closedString, readSymbols]
  | cons character others ih =>
    have split : closedString (character :: others) rest =
        (writeChar character).map .char ++ closedString others rest := by
      simp [closedString]
    rw [split, readSymbols_writeChar, ih]
    rfl

theorem skipString_closedString (characters : List Char) (rest : List Symbol) :
    skipString (closedString characters rest) = .ok rest := by
  induction characters with
  | nil => simp [closedString, skipString]
  | cons character others ih =>
    have split : closedString (character :: others) rest =
        (writeChar character).map .char ++ closedString others rest := by
      simp [closedString]
    rw [split, skipString_writeChar, ih]

/-- A string that is written is read back, whatever follows it. -/
theorem readString_closedString (text : String) (rest : List Symbol) :
    readString (closedString text.toList rest) = .ok text := by
  simp [readString, readSymbols_closedString, bind, Except.bind, pure, Except.pure]

theorem writeString_map_char (text : String) (rest : List Symbol) :
    (writeString text).map .char ++ rest = .char '"' :: closedString text.toList rest := by
  simp [writeString, closedString]

end Geocoding.Json
