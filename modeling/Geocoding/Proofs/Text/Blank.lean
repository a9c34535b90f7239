import Geocoding.Text.Blank
import Mathlib.Data.List.TakeWhile

/-!
# Blanks at the ends of a text

Trimming takes away what is blank in front of a text and behind it, and nothing else.  A text
is left alone by it if it neither begins nor ends with a blank.
-/

namespace Geocoding.Text

/-- A text that neither begins nor ends with a blank. -/
def Trimmed (characters : List Char) : Prop :=
  (∀ character ∈ characters.head?, isBlank character = false) ∧
    ∀ character ∈ characters.getLast?, isBlank character = false

instance (characters : List Char) : Decidable (Trimmed characters) :=
  @instDecidableAnd _ _ (Option.decidableForallMem _) (Option.decidableForallMem _)

theorem trimStart_append {before : List Char}
    (blank : ∀ character ∈ before, isBlank character = true) (text : List Char) :
    trimStart (before ++ text) = trimStart text := by
  induction before with
  | nil => rfl
  | cons first before ih =>
    have firstBlank := blank first List.mem_cons_self
    rw [List.cons_append, trimStart, List.dropWhile_cons_of_pos firstBlank]
    exact ih fun character mem => blank character (List.mem_cons_of_mem _ mem)

theorem trimStart_eq_self {text : List Char}
    (starts : ∀ character ∈ text.head?, isBlank character = false) : trimStart text = text := by
  cases text with
  | nil => rfl
  | cons first text =>
    have notBlank := starts first rfl
    rw [trimStart, List.dropWhile_cons_of_neg (by simp [notBlank])]

theorem trimEnd_eq_reverse (text : List Char) : trimEnd text = (trimStart text.reverse).reverse :=
  rfl

theorem trim_append {before text after : List Char}
    (blankBefore : ∀ character ∈ before, isBlank character = true)
    (blankAfter : ∀ character ∈ after, isBlank character = true)
    (nonempty : text ≠ []) (trimmed : Trimmed text) :
    trim (before ++ text ++ after) = text := by
  obtain ⟨starts, ends⟩ := trimmed
  have first : ∀ character ∈ (text ++ after).head?, isBlank character = false := by
    obtain ⟨head, tail, rfl⟩ := List.exists_cons_of_ne_nil nonempty
    exact starts
  have last : ∀ character ∈ text.reverse.head?, isBlank character = false := by
    rw [List.head?_reverse]
    exact ends
  have blankReverse : ∀ character ∈ after.reverse, isBlank character = true := by
    intro character mem
    exact blankAfter character (List.mem_reverse.mp mem)
  rw [trim, List.append_assoc, trimStart_append blankBefore, trimStart_eq_self first,
    trimEnd_eq_reverse, List.reverse_append, trimStart_append blankReverse, trimStart_eq_self last,
    List.reverse_reverse]

theorem trim_eq_nil_iff {text : List Char} :
    trim text = [] ↔ ∀ character ∈ text, isBlank character = true := by
  rw [trim, trimEnd_eq_reverse, List.reverse_eq_nil_iff, trimStart, List.dropWhile_eq_nil_iff]
  constructor
  · intro rest character mem
    by_contra notBlank
    have kept : character ∈ trimStart text := by
      rw [← List.takeWhile_append_dropWhile (p := isBlank) (l := text)] at mem
      rcases List.mem_append.mp mem with front | behind
      · exact (notBlank (List.mem_takeWhile_imp front)).elim
      · exact behind
    exact notBlank (rest character (List.mem_reverse.mpr kept))
  · intro blank character mem
    exact blank character ((List.dropWhile_sublist _).mem (List.mem_reverse.mp mem))

end Geocoding.Text
