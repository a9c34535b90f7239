import Geocoding.Proofs.Json.Literal
import Geocoding.Proofs.Json.Quotation
import Geocoding.Proofs.Json.Record

/-!
# Tokens in front of other text

A number or a string that is a whole text by itself is read the same way in front of other
text.  Of a number this holds only if what follows cannot go on with it.
-/

namespace Geocoding.Json

open Text (Symbol)

variable {text after rest : List Symbol}

/-! ## Numbers -/

theorem spanDigits_append {digits : List Nat} (spanned : spanDigits text = (digits, after))
    (ended : ∀ symbol ∈ rest.head?, digit? symbol = none) :
    spanDigits (text ++ rest) = (digits, after ++ rest) := by
  induction text generalizing digits with
  | nil =>
    cases spanned
    cases rest with
    | nil => rfl
    | cons symbol rest =>
      have noDigit := ended symbol rfl
      simp [spanDigits, noDigit]
  | cons symbol text ih =>
    rw [spanDigits] at spanned
    rw [List.cons_append, spanDigits]
    cases found : digit? symbol with
    | none =>
      rw [found] at spanned
      cases spanned
      rfl
    | some digit =>
      rw [found] at spanned
      cases spanned
      dsimp only
      rw [ih rfl]

namespace Literal

theorem scanDigits_append {digits : List Nat} (scanned : scanDigits text = .ok (digits, after))
    (ended : ∀ symbol ∈ rest.head?, digit? symbol = none) :
    scanDigits (text ++ rest) = .ok (digits, after ++ rest) := by
  obtain ⟨found, left⟩ : ∃ found, spanDigits text = found := ⟨_, rfl⟩
  obtain ⟨spanned, others⟩ := found
  rw [scanDigits, left] at scanned
  rw [scanDigits, spanDigits_append left ended]
  cases spanned with
  | nil => cases scanned
  | cons digit spanned =>
    cases scanned
    rfl

theorem scanWhole_append {digits : List Nat} (scanned : scanWhole text = .ok (digits, after))
    (ended : ∀ symbol ∈ rest.head?, digit? symbol = none) :
    scanWhole (text ++ rest) = .ok (digits, after ++ rest) := by
  rw [scanWhole] at scanned ⊢
  cases found : scanDigits text with
  | error fault =>
    rw [found] at scanned
    cases scanned
  | ok pair =>
    obtain ⟨spanned, others⟩ := pair
    rw [found] at scanned
    rw [scanDigits_append found ended]
    split at scanned
    · cases scanned
    · next notPadded =>
      cases scanned
      split
      · next padded =>
        cases padded
        exact (notPadded _ _ _ rfl).elim
      · rfl

theorem scanFraction_append {digits : Option (List Nat)}
    (scanned : scanFraction text = .ok (digits, after))
    (ended : ∀ symbol ∈ rest.head?, digit? symbol = none ∧ symbol ≠ .char '.') :
    scanFraction (text ++ rest) = .ok (digits, after ++ rest) := by
  have noDigit : ∀ symbol ∈ rest.head?, digit? symbol = none :=
    fun symbol mem => (ended symbol mem).1
  unfold scanFraction at scanned
  split at scanned
  · next others =>
    obtain ⟨⟨found, left⟩, read, same⟩ := Reading.map_eq_ok.mp scanned
    cases same
    rw [List.cons_append, scanFraction, scanDigits_append read noDigit]
    rfl
  · next noPoint =>
    cases scanned
    unfold scanFraction
    split
    · next others start =>
      cases text with
      | nil =>
        rw [List.nil_append] at start
        subst start
        exact absurd rfl (ended _ rfl).2
      | cons symbol text =>
        rw [List.cons_append, List.cons.injEq] at start
        obtain ⟨rfl, _⟩ := start
        exact (noPoint _ rfl).elim
    · rfl

theorem spanSign_append (nonempty : text ≠ []) :
    spanSign (text ++ rest) = ((spanSign text).1, (spanSign text).2 ++ rest) := by
  obtain ⟨symbol, text, rfl⟩ := List.exists_cons_of_ne_nil nonempty
  rw [List.cons_append]
  unfold spanSign
  split
  · next start =>
    cases start
    rfl
  · next start =>
    cases start
    rfl
  · next noMinus noPlus =>
    split
    · next start =>
      cases start
      exact (noMinus _ rfl).elim
    · next start =>
      cases start
      exact (noPlus _ rfl).elim
    · rfl

theorem scanExponent_append {digits : Option (Bool × List Nat)}
    (scanned : scanExponent text = .ok (digits, after)) (ended : continuesNumber rest = false) :
    scanExponent (text ++ rest) = .ok (digits, after ++ rest) := by
  cases text with
  | nil =>
    cases scanned
    exact @scanExponent_spellExponent rest none nofun ended
  | cons symbol text =>
    cases symbol with
    | stray byte =>
      cases scanned
      rfl
    | char mark =>
      rw [scanExponent] at scanned
      rw [List.cons_append, scanExponent]
      by_cases marked : mark = 'e' ∨ mark = 'E'
      · rw [if_pos marked] at scanned ⊢
        have nonempty : text ≠ [] := by
          rintro rfl
          cases scanned
        rw [spanSign_append nonempty]
        generalize spanSign text = signed at scanned ⊢
        obtain ⟨negative, unsigned⟩ := signed
        obtain ⟨⟨found, left⟩, read, same⟩ := Reading.map_eq_ok.mp scanned
        cases same
        dsimp only
        rw [scanDigits_append read (head_not_digit_of_ended ended)]
        rfl
      · rw [if_neg marked] at scanned ⊢
        cases scanned
        rfl

theorem scan_eq_ok_iff {negative : Bool} {literal : Literal} :
    scan negative text = .ok (literal, rest) ↔
      literal.negative = negative ∧ ∃ afterWhole afterFraction,
        scanWhole text = .ok (literal.whole, afterWhole) ∧
        scanFraction afterWhole = .ok (literal.fraction, afterFraction) ∧
        scanExponent afterFraction = .ok (literal.exponent, rest) := by
  constructor
  · intro scanned
    rw [scan] at scanned
    obtain ⟨⟨whole, afterWhole⟩, wholeScanned, scanned⟩ := Reading.bind_eq_ok.mp scanned
    obtain ⟨⟨fraction, afterFraction⟩, fractionScanned, scanned⟩ := Reading.bind_eq_ok.mp scanned
    obtain ⟨⟨exponent, afterExponent⟩, exponentScanned, scanned⟩ := Reading.bind_eq_ok.mp scanned
    cases scanned
    exact ⟨rfl, afterWhole, afterFraction, wholeScanned, fractionScanned, exponentScanned⟩
  · rintro ⟨rfl, afterWhole, afterFraction, whole, fraction, exponent⟩
    rw [scan, whole]
    dsimp only [bind, Except.bind]
    rw [fraction]
    dsimp only
    rw [exponent]
    rfl

/-- A number is scanned as if nothing followed it, if what follows cannot go on with it. -/
theorem scan_append {negative : Bool} {literal : Literal}
    (scanned : scan negative text = .ok (literal, [])) (ended : continuesNumber rest = false) :
    scan negative (text ++ rest) = .ok (literal, rest) := by
  obtain ⟨sign, _, _, whole, fraction, exponent⟩ := scan_eq_ok_iff.mp scanned
  have noDigit := head_not_digit_of_ended ended
  have noPoint : ∀ symbol ∈ rest.head?, digit? symbol = none ∧ symbol ≠ .char '.' :=
    head_spellExponent none ended
  exact scan_eq_ok_iff.mpr ⟨sign, _, _, scanWhole_append whole noDigit,
    scanFraction_append fraction noPoint, scanExponent_append exponent ended⟩

end Literal

/-! ## Strings -/

theorem readHex_append {unit : Nat} (read : readHex text = .ok (unit, after)) :
    readHex (text ++ rest) = .ok (unit, after ++ rest) := by
  unfold readHex at read
  split at read
  · next a b c d digits =>
    cases read
    have four : 4 ≤ text.length := by
      rcases text with _ | ⟨first, _ | ⟨second, _ | ⟨third, _ | ⟨fourth, text⟩⟩⟩⟩
      · cases digits
      all_goals simp [Option.bind_eq_some_iff] at digits ⊢
    unfold readHex
    rw [List.take_append_of_le_length four, digits, List.drop_append_of_le_length four]
  · cases read

theorem skipEscape_append (skipped : skipEscape text = .ok after) :
    skipEscape (text ++ rest) = .ok (after ++ rest) := by
  unfold skipEscape at skipped
  split at skipped
  · cases skipped
  · next others =>
    obtain ⟨⟨unit, left⟩, read, same⟩ := Reading.map_eq_ok.mp skipped
    cases same
    rw [List.cons_append, skipEscape, readHex_append read]
    rfl
  · next letter others notPoint =>
    by_cases stands : (simpleEscape? letter).isSome
    · rw [if_pos stands] at skipped
      cases skipped
      obtain ⟨character, found⟩ := Option.isSome_iff_exists.mp stands
      exact skipEscape_letter notPoint found _
    · rw [if_neg stands] at skipped
      cases skipped
  · cases skipped

theorem skipString_append (skipped : skipString text = .ok after) (rest : List Symbol) :
    skipString (text ++ rest) = .ok (after ++ rest) := by
  fun_induction skipString text with
  | case1 => cases skipped
  | case2 others =>
    cases skipped
    rw [List.cons_append, skipString]
  | case3 others left escape ih =>
    rw [List.cons_append, skipString, skipEscape_append escape]
    exact ih skipped
  | case4 => cases skipped
  | case5 => cases skipped
  | case6 symbol others notQuote notBackslash allowed ih =>
    rw [List.cons_append, skipString]
    · simpa [allowed] using ih skipped
    · exact notQuote
    · exact notBackslash

theorem skipString_backslash (skipped : skipString (.char '\\' :: text) = .ok after) :
    ∃ left, skipEscape text = .ok left ∧ skipString left = .ok after := by
  rw [skipString] at skipped
  split at skipped
  · next left escape => exact ⟨left, escape, skipped⟩
  · cases skipped

theorem readTrailing_append {leading : Nat} {character : Char}
    (read : readTrailing leading text = .ok (character, after)) :
    readTrailing leading (text ++ rest) = .ok (character, after ++ rest) := by
  unfold readTrailing at read
  split at read
  · next others =>
    obtain ⟨⟨trailing, left⟩, found, read⟩ := Reading.bind_eq_ok.mp read
    rw [List.cons_append, List.cons_append, readTrailing, readHex_append found]
    dsimp only [bind, Except.bind] at read ⊢
    by_cases trails : isTrailingSurrogate trailing
    · rw [if_pos trails] at read ⊢
      obtain ⟨stands, ends⟩ := Prod.mk.inj (Except.ok.inj read)
      rw [← ends, ← stands]
      rfl
    · rw [if_neg trails] at read
      cases read
  · cases read
  · cases read

theorem readEscape_append {character : Char} (read : readEscape text = .ok (character, after)) :
    readEscape (text ++ rest) = .ok (character, after ++ rest) := by
  unfold readEscape at read
  split at read
  · cases read
  · next others =>
    obtain ⟨⟨unit, left⟩, found, read⟩ := Reading.bind_eq_ok.mp read
    rw [List.cons_append, readEscape, readHex_append found]
    dsimp only [bind, Except.bind] at read ⊢
    by_cases trails : isTrailingSurrogate unit
    · rw [if_pos trails] at read
      cases read
    · rw [if_neg trails] at read ⊢
      by_cases leads : isLeadingSurrogate unit
      · rw [if_pos leads] at read ⊢
        exact readTrailing_append read
      · rw [if_neg leads] at read ⊢
        cases read
        rfl
  · next letter others notPoint =>
    split at read
    · next stands =>
      cases read
      exact readEscape_letter notPoint stands _
    · cases read
  · cases read

theorem skipString_codePoint {unit : Nat} (read : readHex text = .ok (unit, after)) :
    skipString (.char '\\' :: .char 'u' :: text) = skipString after := by
  rw [skipString, skipEscape, read]
  rfl

theorem skipString_of_readTrailing {leading : Nat} {character : Char}
    (read : readTrailing leading text = .ok (character, after)) :
    skipString text = skipString after := by
  unfold readTrailing at read
  split at read
  · next others =>
    obtain ⟨⟨trailing, left⟩, found, read⟩ := Reading.bind_eq_ok.mp read
    dsimp only at read
    rw [skipString_codePoint found]
    by_cases trails : isTrailingSurrogate trailing
    · rw [if_pos trails] at read
      rw [← (Prod.mk.inj (Except.ok.inj read)).2]
    · rw [if_neg trails] at read
      cases read
  · cases read
  · cases read

/-- An escape that stands for a character can be passed over, in one step or in two. -/
theorem skipString_of_readEscape {character : Char}
    (read : readEscape text = .ok (character, after)) :
    skipString (.char '\\' :: text) = skipString after := by
  unfold readEscape at read
  split at read
  · cases read
  · next others =>
    obtain ⟨⟨unit, left⟩, found, read⟩ := Reading.bind_eq_ok.mp read
    have passed : skipString (.char '\\' :: .char 'u' :: others) = skipString left :=
      skipString_codePoint found
    rw [passed]
    dsimp only at read
    by_cases trails : isTrailingSurrogate unit
    · rw [if_pos trails] at read
      cases read
    · rw [if_neg trails] at read
      by_cases leads : isLeadingSurrogate unit
      · rw [if_pos leads] at read
        exact skipString_of_readTrailing read
      · rw [if_neg leads] at read
        cases read
        rfl
  · next letter others notPoint =>
    split at read
    · next stands =>
      cases read
      rw [skipString, skipEscape_letter notPoint stands]
    · cases read
  · cases read

theorem readTrailing_append_error {leading : Nat} {fault : Fault}
    (read : readTrailing leading text = .error fault) (skipped : skipString text = .ok after) :
    readTrailing leading (text ++ rest) = .error fault := by
  unfold readTrailing at read
  split at read
  · next others =>
    obtain ⟨left, escape, _⟩ := skipString_backslash skipped
    obtain ⟨⟨trailing, behind⟩, found, _⟩ := Reading.map_eq_ok.mp escape
    rw [found] at read
    rw [List.cons_append, List.cons_append, readTrailing, readHex_append found]
    dsimp only [bind, Except.bind] at read ⊢
    by_cases trails : isTrailingSurrogate trailing
    · rw [if_pos trails] at read
      cases read
    · rw [if_neg trails] at read ⊢
      exact read
  · obtain ⟨left, escape, _⟩ := skipString_backslash skipped
    cases escape
  · next noEscape notLone =>
    have nonempty : text ≠ [] := by
      rintro rfl
      rw [skipString] at skipped
      cases skipped
    obtain ⟨symbol, text, rfl⟩ := List.exists_cons_of_ne_nil nonempty
    unfold readTrailing
    split
    · next others start =>
      obtain ⟨rfl, behind⟩ := List.cons.inj start
      rcases text with _ | ⟨letter, text⟩
      · exact (notLone rfl).elim
      · obtain ⟨rfl, _⟩ := List.cons.inj behind
        exact (noEscape _ rfl).elim
    · next start =>
      obtain ⟨rfl, behind⟩ := List.cons.inj start
      obtain ⟨rfl, _⟩ := List.append_eq_nil_iff.mp behind
      exact (notLone rfl).elim
    · exact read

theorem readEscape_append_error {fault : Fault} (read : readEscape text = .error fault)
    (skipped : skipString (.char '\\' :: text) = .ok after) :
    readEscape (text ++ rest) = .error fault := by
  obtain ⟨left, escape, skipped⟩ := skipString_backslash skipped
  unfold skipEscape at escape
  split at escape
  · cases escape
  · next others =>
    obtain ⟨⟨unit, behind⟩, found, same⟩ := Reading.map_eq_ok.mp escape
    cases same
    rw [readEscape, found] at read
    rw [List.cons_append, readEscape, readHex_append found]
    dsimp only [bind, Except.bind] at read ⊢
    by_cases trails : isTrailingSurrogate unit
    · rw [if_pos trails] at read ⊢
      exact read
    · rw [if_neg trails] at read ⊢
      by_cases leads : isLeadingSurrogate unit
      · rw [if_pos leads] at read ⊢
        exact readTrailing_append_error read skipped
      · rw [if_neg leads] at read
        cases read
  · next letter others notPoint =>
    split at escape
    · next stands =>
      obtain ⟨character, found⟩ := Option.isSome_iff_exists.mp stands
      rw [readEscape_letter notPoint found] at read
      cases read
    · cases escape
  · cases escape

/-- A string that is closed has its characters from what stands before its end. -/
theorem readSymbols_append (skipped : skipString text = .ok after) :
    readSymbols (text ++ rest) = readSymbols text := by
  fun_induction readSymbols text with
  | case1 =>
    rw [skipString] at skipped
    cases skipped
  | case2 others => rw [List.cons_append, readSymbols]
  | case3 others character left escape ih =>
    rw [skipString_of_readEscape escape] at skipped
    rw [List.cons_append, readSymbols, readEscape_append escape]
    dsimp only
    rw [ih skipped]
  | case4 others fault escape =>
    rw [List.cons_append, readSymbols, readEscape_append_error escape skipped]
  | case5 symbol others notQuote notBackslash control =>
    rw [skipString] at skipped
    · rw [if_pos control] at skipped
      cases skipped
    · exact notQuote
    · exact notBackslash
  | case6 symbol others notQuote notBackslash allowed ih =>
    rw [skipString] at skipped
    · rw [if_neg allowed] at skipped
      rw [List.cons_append, readSymbols, if_neg allowed, ih skipped]
      · exact notQuote
      · exact notBackslash
    · exact notQuote
    · exact notBackslash

theorem readString_append (skipped : skipString text = .ok after) :
    readString (text ++ rest) = readString text := by
  rw [readString, readString, readSymbols_append skipped]

end Geocoding.Json
