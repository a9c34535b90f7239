import Mathlib.Data.List.Infix

/-!
# Texts joined by a separator

A text that may have another one behind it, with a separator between them, tells both apart
again if the separator does not stand in the first.  For a separator of several characters
that takes one thing more: its end must not be its beginning again, or what stands in front
of it could lend it the first few of them.
-/

namespace Geocoding.Text

def Contains (text part : String) : Prop :=
  part.toList <:+: text.toList

instance (text part : String) : Decidable (Contains text part) :=
  inferInstanceAs (Decidable (_ <:+: _))

/-- A text, and behind it a separator and another text if there is one. -/
def joined (separator text : String) : Option String → String
  | some tail => text ++ separator ++ tail
  | none => text

/-- No end of the separator is a beginning of it. -/
def Unbordered (separator : List Char) : Prop :=
  ∀ size < separator.length, 0 < size →
    separator.take size ≠ separator.drop (separator.length - size)

instance (separator : List Char) : Decidable (Unbordered separator) :=
  inferInstanceAs (Decidable (∀ size < separator.length, 0 < size → _ ≠ _))

/-- Nothing that is free of the separator reaches into one that ends further behind. -/
theorem eq_nil_of_append_separator {separator between tail other : List Char}
    (unbordered : Unbordered separator) (clear : ¬ separator <:+: between)
    (same : separator ++ tail = between ++ (separator ++ other)) : between = [] := by
  by_contra nonempty
  have started : separator <+: between ++ (separator ++ other) := ⟨tail, same⟩
  have begins : between <+: between ++ (separator ++ other) := List.prefix_append _ _
  by_cases whole : separator.length ≤ between.length
  · exact clear (List.prefix_of_prefix_length_le started begins whole).isInfix
  · obtain ⟨border, split⟩ := List.prefix_of_prefix_length_le begins started (by omega)
    have sizes : between.length + border.length = separator.length := by
      rw [← split, List.length_append]
    have positive : 0 < between.length := List.length_pos_iff.mpr nonempty
    have rest : border ++ tail = separator ++ other := by
      rw [← split, List.append_assoc] at same
      rw [List.append_cancel_left same, split]
    have beginning : separator.take border.length = border := by
      have begun : border <+: separator ++ other := ⟨tail, rest⟩
      have shorter : border.length ≤ separator.length := by omega
      exact (List.prefix_iff_eq_take.mp (List.prefix_of_prefix_length_le begun
        (List.prefix_append separator other) shorter)).symm
    have ending : separator.drop (separator.length - border.length) = border := by
      rw [← split]
      exact List.drop_left' (by rw [List.length_append]; omega)
    exact unbordered border.length (by omega) (by omega) (beginning.trans ending.symm)

theorem append_separator_inj {separator first second tail other : List Char}
    (unbordered : Unbordered separator) (clear : ¬ separator <:+: first)
    (alsoClear : ¬ separator <:+: second)
    (same : first ++ (separator ++ tail) = second ++ (separator ++ other)) :
    first = second ∧ tail = other := by
  rcases List.append_eq_append_iff.mp same with ⟨more, longer, rest⟩ | ⟨more, longer, rest⟩
  · have inside : ¬ separator <:+: more := by
      intro found
      exact alsoClear (longer ▸ found.trans (List.suffix_append first more).isInfix)
    obtain rfl := eq_nil_of_append_separator unbordered inside rest
    rw [List.append_nil] at longer
    exact ⟨longer.symm, List.append_cancel_left rest⟩
  · have inside : ¬ separator <:+: more := by
      intro found
      exact clear (longer ▸ found.trans (List.suffix_append second more).isInfix)
    obtain rfl := eq_nil_of_append_separator unbordered inside rest
    rw [List.append_nil] at longer
    exact ⟨longer, (List.append_cancel_left rest).symm⟩

theorem contains_joined (separator text tail : String) :
    Contains (joined separator text (some tail)) separator := by
  rw [Contains, joined, String.toList_append, String.toList_append]
  exact List.infix_append _ _ _

theorem joined_left_injective (separator : String) (tail : Option String) :
    Function.Injective fun text => joined separator text tail := by
  intro text other same
  cases tail with
  | none => exact same
  | some tail => exact (String.append_left_inj _).mp ((String.append_left_inj _).mp same)

theorem joined_right_injective {separator : String} (proper : separator ≠ "") (text : String) :
    Function.Injective (joined separator text) := by
  have longer (tail : String) : text ++ separator ++ tail ≠ text := by
    intro same
    rw [String.append_assoc, String.append_eq_left_iff, String.append_eq_empty_iff] at same
    exact proper same.1
  intro tail other same
  cases tail <;> cases other
  case none.none => rfl
  case none.some tail => exact absurd same.symm (longer tail)
  case some.none tail => exact absurd same (longer tail)
  case some.some => exact congrArg some ((String.append_right_inj _).mp same)

/-- Two texts that are free of the separator are joined alike only if they are the same, and
so is what stands behind them. -/
theorem joined_inj {separator first second : String} {tail other : Option String}
    (unbordered : Unbordered separator.toList) (clear : ¬ Contains first separator)
    (alsoClear : ¬ Contains second separator)
    (same : joined separator first tail = joined separator second other) :
    first = second ∧ tail = other := by
  cases tail with
  | none =>
    cases other with
    | none => exact ⟨same, rfl⟩
    | some other =>
      have found := contains_joined separator second other
      rw [← same] at found
      exact absurd found clear
  | some tail =>
    cases other with
    | none =>
      have found := contains_joined separator first tail
      rw [same] at found
      exact absurd found alsoClear
    | some other =>
      have letters : first.toList ++ (separator.toList ++ tail.toList) =
          second.toList ++ (separator.toList ++ other.toList) := by
        simpa [joined] using congrArg String.toList same
      obtain ⟨firsts, tails⟩ := append_separator_inj unbordered clear alsoClear letters
      exact ⟨String.toList_inj.mp firsts, congrArg some (String.toList_inj.mp tails)⟩

end Geocoding.Text
