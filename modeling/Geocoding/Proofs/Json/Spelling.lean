import Geocoding.Proofs.Json.Grammar
import Geocoding.Proofs.Json.Magnitude
import Geocoding.Proofs.Text.Blank

/-!
# Number literals as decimals

A decimal in a string may be spelled in more ways than a number literal.  Each literal is one of
them, with the same digits and the same power of ten, and no blank is part of it.
-/

namespace Geocoding

open Text (Symbol isBlank)

/-! ## Digits -/

namespace Decimal

theorem eq_digitChar_of_digit? {character : Char} {digit : Nat}
    (read : digit? character = some digit) : digit < 10 ∧ character = digit.digitChar := by
  unfold digit? at read
  split at read
  · next range =>
    obtain ⟨least, most⟩ := range
    have low : '0'.toNat ≤ character.toNat := least
    have high : character.toNat ≤ '9'.toNat := most
    obtain rfl : character.toNat - '0'.toNat = digit := Option.some.inj read
    have code : character = Char.ofNat character.toNat := (Char.ofNat_toNat character).symm
    change 48 ≤ character.toNat at low
    change character.toNat ≤ 57 at high
    change character.toNat - 48 < 10 ∧ character = (character.toNat - 48).digitChar
    refine ⟨by omega, ?_⟩
    generalize character.toNat = number at *
    subst code
    interval_cases number <;> rfl
  · cases read

theorem isBlank_digitChar {digit : Nat} (small : digit < 10) : isBlank digit.digitChar = false := by
  revert digit
  decide

theorem lt_ten_of_mem_spanDigits {text : List Char} {digit : Nat}
    (mem : digit ∈ (spanDigits text).1) : digit < 10 := by
  induction text with
  | nil => cases mem
  | cons character rest ih =>
    unfold spanDigits at mem
    split at mem
    · next first read =>
      rcases List.mem_cons.mp mem with rfl | others
      · exact (eq_digitChar_of_digit? read).1
      · exact ih others
    · cases mem

theorem mem_spanDigits_of_isBlank {text : List Char} {character : Char} (mem : character ∈ text)
    (blank : isBlank character = true) : character ∈ (spanDigits text).2 := by
  induction text with
  | nil => cases mem
  | cons first rest ih =>
    unfold spanDigits
    split
    · next digit read =>
      obtain ⟨small, rfl⟩ := eq_digitChar_of_digit? read
      rcases List.mem_cons.mp mem with rfl | others
      · rw [isBlank_digitChar small] at blank
        cases blank
      · exact ih others
    · exact mem

def spanFraction : List Char → List Nat × List Char
  | '.' :: rest => spanDigits rest
  | text => ([], text)

theorem spanFraction_of_ne {text : List Char} (noPoint : ∀ rest, text ≠ '.' :: rest) :
    spanFraction text = ([], text) := by
  unfold spanFraction
  split
  · next rest => exact (noPoint rest rfl).elim
  · rfl

theorem mem_spanFraction_of_isBlank {text : List Char} {character : Char}
    (mem : character ∈ text) (blank : isBlank character = true) :
    character ∈ (spanFraction text).2 := by
  unfold spanFraction
  split
  · next rest =>
    rcases List.mem_cons.mp mem with rfl | behind
    · cases blank
    · exact mem_spanDigits_of_isBlank behind blank
  · exact mem

theorem unsigned?_of_spanDigits {text after behind : List Char} {whole fraction : List Nat}
    (nonempty : whole ≠ []) (spanned : spanDigits text = (whole, after))
    (spannedFraction : spanFraction after = (fraction, behind)) :
    unsigned? text = (exponent? behind).map fun exponent =>
      nearestDouble (ofDigits (whole ++ fraction)) (exponent - fraction.length) := by
  have parts : unsigned? text =
      if (spanDigits text).1.isEmpty && (spanFraction (spanDigits text).2).1.isEmpty then none
      else (exponent? (spanFraction (spanDigits text).2).2).map fun exponent =>
        nearestDouble (ofDigits ((spanDigits text).1 ++ (spanFraction (spanDigits text).2).1))
          (exponent - (spanFraction (spanDigits text).2).1.length) := rfl
  rw [parts, spanned, spannedFraction]
  cases whole with
  | nil => contradiction
  | cons digit whole => rfl

/-- A text that begins with a digit spells out no number in letters. -/
theorem spelled?_of_digit {first : Char} {digit : Nat} (read : digit? first = some digit)
    (rest : List Char) : spelled? (first :: rest) = none := by
  obtain ⟨small, rfl⟩ := eq_digitChar_of_digit? read
  have lower : digit.digitChar.toLower ≠ 'i' ∧ digit.digitChar.toLower ≠ 'n' := by
    revert digit
    decide
  have differs (letter : Char) (letters : List Char) (other : digit.digitChar.toLower ≠ letter) :
      String.ofList ((digit.digitChar :: rest).map Char.toLower) ≠
        String.ofList (letter :: letters) := by
    intro same
    rw [String.ofList_inj, List.map_cons] at same
    exact other (List.cons.inj same).1
  unfold spelled?
  dsimp only
  rw [if_neg, if_neg]
  · exact differs 'n' ['a', 'n'] lower.2
  · rintro (inf | infinity)
    · exact differs 'i' ['n', 'f'] lower.1 inf
    · exact differs 'i' ['n', 'f', 'i', 'n', 'i', 't', 'y'] lower.1 infinity

theorem spanSign_signText {first : Char} {digit : Nat} (read : digit? first = some digit)
    (negative : Bool) (rest : List Char) :
    spanSign (signText negative ++ first :: rest) = (negative, first :: rest) := by
  obtain ⟨small, rfl⟩ := eq_digitChar_of_digit? read
  cases negative with
  | true => rfl
  | false =>
    have noSign : digit.digitChar ≠ '-' ∧ digit.digitChar ≠ '+' := by
      revert digit
      decide
    change spanSign (digit.digitChar :: rest) = _
    unfold spanSign
    split
    · next head => exact absurd (List.cons.inj head).1 noSign.1
    · next head => exact absurd (List.cons.inj head).1 noSign.2
    · rfl

theorem exponent?_of_spanDigits {mark : Char} (marked : mark = 'e' ∨ mark = 'E')
    {text : List Char} {digits : List Nat} (nonempty : digits ≠ [])
    (spanned : spanDigits (spanSign text).2 = (digits, [])) :
    exponent? (mark :: text) =
      some (if (spanSign text).1 then -(ofDigits digits : Int) else ofDigits digits) := by
  unfold exponent?
  dsimp only
  rw [if_pos marked, spanned]
  cases digits with
  | nil => contradiction
  | cons digit digits => rfl

end Decimal

/-! ## Scanning characters -/

namespace Json

theorem spanDigits_map_char (text : List Char) :
    spanDigits (text.map .char) =
      ((Decimal.spanDigits text).1, (Decimal.spanDigits text).2.map .char) := by
  induction text with
  | nil => rfl
  | cons character rest ih =>
    have same : digit? (.char character) = Decimal.digit? character := rfl
    rw [List.map_cons, spanDigits, Decimal.spanDigits, same]
    cases Decimal.digit? character with
    | none => rfl
    | some digit =>
      dsimp only
      rw [ih]

namespace Literal

variable {text : List Char} {rest : List Symbol}

theorem spanSign_map_char (text : List Char) :
    spanSign (text.map .char) =
      ((Decimal.spanSign text).1, (Decimal.spanSign text).2.map .char) := by
  unfold Decimal.spanSign
  split
  · rfl
  · rfl
  · next noMinus noPlus =>
    unfold spanSign
    split
    · next behind same =>
      obtain ⟨_, others, rfl, head, _⟩ := List.map_eq_cons_iff.mp same
      cases head
      exact (noMinus others rfl).elim
    · next behind same =>
      obtain ⟨_, others, rfl, head, _⟩ := List.map_eq_cons_iff.mp same
      cases head
      exact (noPlus others rfl).elim
    · rfl

theorem of_scanDigits {digits : List Nat}
    (scanned : scanDigits (text.map .char) = .ok (digits, rest)) :
    digits ≠ [] ∧ ∃ after, Decimal.spanDigits text = (digits, after) ∧ rest = after.map .char := by
  rw [scanDigits, spanDigits_map_char] at scanned
  split at scanned
  · cases scanned
  · next nonempty spanned =>
    cases scanned
    obtain ⟨rfl, rfl⟩ := Prod.mk.inj spanned
    exact ⟨nonempty, _, rfl, rfl⟩

theorem of_scanWhole {digits : List Nat}
    (scanned : scanWhole (text.map .char) = .ok (digits, rest)) :
    digits ≠ [] ∧ ∃ after, Decimal.spanDigits text = (digits, after) ∧ rest = after.map .char := by
  unfold scanWhole at scanned
  split at scanned
  · cases scanned
  · exact of_scanDigits scanned

theorem of_scanFraction {fraction : Option (List Nat)}
    (scanned : scanFraction (text.map .char) = .ok (fraction, rest)) :
    ∃ after, Decimal.spanFraction text = (fraction.getD [], after) ∧ rest = after.map .char := by
  unfold scanFraction at scanned
  split at scanned
  · next behind same =>
    obtain ⟨_, inner, rfl, head, rfl⟩ := List.map_eq_cons_iff.mp same
    cases head
    obtain ⟨⟨digits, _⟩, found, written⟩ := Reading.map_eq_ok.mp scanned
    cases written
    exact (of_scanDigits found).2
  · next noPoint =>
    cases scanned
    refine ⟨text, Decimal.spanFraction_of_ne ?_, rfl⟩
    rintro inner rfl
    exact noPoint _ rfl

theorem mem_spanSign_of_isBlank {character : Char} (mem : character ∈ text)
    (blank : isBlank character = true) : character ∈ (Decimal.spanSign text).2 := by
  have noSign (sign : Char) (solid : isBlank sign = false) : character ≠ sign := by
    rintro rfl
    rw [blank] at solid
    cases solid
  unfold Decimal.spanSign
  split
  · exact (List.mem_cons.mp mem).resolve_left (noSign '-' (by decide))
  · exact (List.mem_cons.mp mem).resolve_left (noSign '+' (by decide))
  · exact mem

theorem of_scanExponent {literal : Literal}
    (scanned : scanExponent (text.map .char) = .ok (literal.exponent, [])) :
    Decimal.exponent? text = some literal.writtenExponent ∧
      ∀ character ∈ text, isBlank character = false := by
  rw [writtenExponent]
  generalize literal.exponent = exponent at *
  unfold scanExponent at scanned
  split at scanned
  · next mark behind same =>
    obtain ⟨_, inner, rfl, head, rfl⟩ := List.map_eq_cons_iff.mp same
    cases head
    split at scanned
    · next marked =>
      rw [spanSign_map_char] at scanned
      obtain ⟨⟨digits, _⟩, found, written⟩ := Reading.map_eq_ok.mp scanned
      cases written
      obtain ⟨nonempty, after, spanned, ended⟩ := of_scanDigits found
      obtain rfl : after = [] := List.map_eq_nil_iff.mp ended.symm
      constructor
      · rw [Decimal.exponent?_of_spanDigits marked nonempty spanned]
        cases (Decimal.spanSign inner).1 <;> rfl
      · intro character mem
        by_contra blank
        rw [Bool.not_eq_false] at blank
        rcases List.mem_cons.mp mem with rfl | others
        · rcases marked with rfl | rfl <;> cases blank
        · have left := Decimal.mem_spanDigits_of_isBlank
            (mem_spanSign_of_isBlank others blank) blank
          rw [spanned] at left
          cases left
    · cases scanned
  · obtain ⟨rfl, ended⟩ := Prod.mk.inj (Except.ok.inj scanned)
    obtain rfl := List.map_eq_nil_iff.mp ended
    exact ⟨rfl, List.forall_mem_nil _⟩

/-- The double nearest to the decimal that a literal spells out. -/
def nearest (literal : Literal) : Float :=
  let value := Decimal.nearestDouble literal.digits literal.place
  if literal.negative then -value else value

variable {negative : Bool} {spelling : List Char} {literal : Literal}

theorem unsigned?_of_scan (scanned : scan negative (spelling.map .char) = .ok (literal, [])) :
    Decimal.unsigned? spelling = some (Decimal.nearestDouble literal.digits literal.place) := by
  obtain ⟨-, _, _, wholeScanned, fractionScanned, exponentScanned⟩ := scan_eq_ok_iff.mp scanned
  obtain ⟨nonempty, afterWhole, spanned, rfl⟩ := of_scanWhole wholeScanned
  obtain ⟨afterFraction, spannedFraction, rfl⟩ := of_scanFraction fractionScanned
  obtain ⟨exponent, -⟩ := of_scanExponent exponentScanned
  rw [Decimal.unsigned?_of_spanDigits nonempty spanned spannedFraction, exponent]
  rfl

theorem isBlank_of_scan (scanned : scan negative (spelling.map .char) = .ok (literal, []))
    {character : Char} (mem : character ∈ spelling) : isBlank character = false := by
  by_contra blank
  rw [Bool.not_eq_false] at blank
  obtain ⟨-, _, _, wholeScanned, fractionScanned, exponentScanned⟩ := scan_eq_ok_iff.mp scanned
  obtain ⟨nonempty, afterWhole, spanned, rfl⟩ := of_scanWhole wholeScanned
  obtain ⟨afterFraction, spannedFraction, rfl⟩ := of_scanFraction fractionScanned
  have behindWhole := Decimal.mem_spanDigits_of_isBlank mem blank
  rw [spanned] at behindWhole
  have behindFraction := Decimal.mem_spanFraction_of_isBlank behindWhole blank
  rw [spannedFraction] at behindFraction
  have solid := (of_scanExponent exponentScanned).2 character behindFraction
  rw [blank] at solid
  cases solid

theorem lt_ten_of_scan (scanned : scan negative (spelling.map .char) = .ok (literal, [])) :
    ∀ digit ∈ literal.whole, digit < 10 := by
  obtain ⟨-, _, _, wholeScanned, -⟩ := scan_eq_ok_iff.mp scanned
  obtain ⟨-, afterWhole, spanned, -⟩ := of_scanWhole wholeScanned
  intro digit mem
  have spelled : digit ∈ (Decimal.spanDigits spelling).1 := by
    rw [spanned]
    exact mem
  exact Decimal.lt_ten_of_mem_spanDigits spelled

theorem exists_first_of_scan (scanned : scan negative (spelling.map .char) = .ok (literal, [])) :
    ∃ first rest digit, spelling = first :: rest ∧ Decimal.digit? first = some digit := by
  obtain ⟨symbol, others, same, digit⟩ := exists_digit_of_scan scanned
  obtain ⟨first, rest, rfl, rfl, -⟩ := List.map_eq_cons_iff.mp same
  obtain ⟨digit, read⟩ := Option.isSome_iff_exists.mp digit
  exact ⟨first, rest, digit, rfl, read⟩

theorem double?_of_scan (scanned : scan negative (spelling.map .char) = .ok (literal, [])) :
    Decimal.double? (Decimal.signText negative ++ spelling) = some literal.nearest := by
  have magnitude := unsigned?_of_scan scanned
  obtain ⟨sign, -⟩ := scan_eq_ok_iff.mp scanned
  obtain ⟨first, rest, digit, rfl, read⟩ := exists_first_of_scan scanned
  rw [Decimal.double?, Decimal.spanSign_signText read]
  dsimp only
  rw [Decimal.spelled?_of_digit read, magnitude, nearest, sign]
  rfl

theorem trimmed_of_scan (scanned : scan negative (spelling.map .char) = .ok (literal, [])) :
    Text.Trimmed (Decimal.signText negative ++ spelling) := by
  have solid : ∀ character ∈ Decimal.signText negative ++ spelling,
      isBlank character = false := by
    intro character mem
    rcases List.mem_append.mp mem with sign | number
    · cases negative with
      | true =>
        obtain rfl := List.mem_singleton.mp sign
        decide
      | false => cases sign
    · exact isBlank_of_scan scanned number
  constructor
  · intro character first
    exact solid character (List.mem_of_mem_head? first)
  · intro character last
    exact solid character (List.mem_of_mem_getLast? last)

/-- A literal in a string is read as the double nearest to what it spells out, with blanks of
any kind around it. -/
theorem parseCoordinate_of_scan {before after : List Char}
    (blankBefore : ∀ character ∈ before, isBlank character = true)
    (blankAfter : ∀ character ∈ after, isBlank character = true)
    (scanned : scan negative (spelling.map .char) = .ok (literal, [])) :
    Leaf.parseCoordinate
        (String.ofList (before ++ (Decimal.signText negative ++ spelling) ++ after)) =
      .ok literal.nearest := by
  have nonempty : Decimal.signText negative ++ spelling ≠ [] := by
    obtain ⟨first, rest, digit, rfl, -⟩ := exists_first_of_scan scanned
    exact List.append_ne_nil_of_right_ne_nil _ (List.cons_ne_nil first rest)
  have trimmed := Text.trim_append blankBefore blankAfter nonempty (trimmed_of_scan scanned)
  rw [Leaf.parseCoordinate, String.toList_ofList, trimmed, double?_of_scan scanned]

end Literal

end Json

end Geocoding
