import Geocoding.Proofs.Json.Decimal
import Geocoding.Proofs.Json.Parts
import Geocoding.Proofs.Json.Quotation

/-!
# Written values read as trees

The text of a value is read as one tree, and that tree can be told from the value
without looking at the text: strings give their characters, numbers the value of the
literal they are written as, and doubles that are not finite give `null`.  The style in
which a value is written leaves no trace in it.
-/

namespace Geocoding.Json

open Text (Symbol)

/-! ## The tree of a value -/

def Literal.node (literal : Literal) : Node :=
  .number literal.value (.ok ())

def naturalLiteral (number : Nat) : Literal :=
  { negative := false, whole := Decimal.digitsOf number, fraction := none, exponent := none }

def doubleLiteral (number : Float) : Literal :=
  let bits := number.toBits.toNat
  Decimal.bitsLiteral .double .double (Nat.pow 2 63 ≤ bits) (bits % Nat.pow 2 63)

def singleLiteral (number : Float32) : Literal :=
  let bits := number.toBits.toNat
  Decimal.bitsLiteral .single .single (Nat.pow 2 31 ≤ bits) (bits % Nat.pow 2 31)

mutual

/-- What the text of a value is read as. -/
def Value.node : Value → Node
  | .null => .null
  | .string text => .string (.ok text) (.ok ())
  | .count number => (naturalLiteral number).node
  | .double number => if number.isFinite then (doubleLiteral number).node else .null
  | .single number => if number.isFinite then (singleLiteral number).node else .null
  | .array items => .array items.nodes
  | .object entries => .object entries.nodes

def Values.nodes : Values → Items
  | .nil => .close
  | .cons head tail => .next head.node tail.nodes

def Entries.nodes : Entries → Members
  | .nil => .close
  | .cons name value tail => .next (.string (.ok name) (.ok ())) value.node tail.nodes

end

def Literal.text (literal : Literal) : List Char :=
  Decimal.signText literal.negative ++ literal.spell

theorem text_naturalLiteral (number : Nat) :
    (naturalLiteral number).text = Nat.toDigits 10 number := by
  simp [Literal.text, Literal.spell, naturalLiteral, Decimal.signText, Literal.spellFraction,
    Literal.spellExponent, spellDigits, Decimal.toDigits_eq_map_digitChar]

theorem proper_naturalLiteral (number : Nat) : (naturalLiteral number).Proper := by
  refine ⟨Decimal.Layout.properDigits_digitsOf number, ?_, by rintro _ ⟨⟩, by rintro _ _ ⟨⟩⟩
  intro zero
  rcases Nat.eq_zero_or_pos number with rfl | positive
  · simp [naturalLiteral, Decimal.digitsOf]
  · exact absurd zero (Decimal.head_digitsOf_ne_zero positive)

theorem text_doubleLiteral (number : Float) :
    (doubleLiteral number).text = Decimal.writeDouble number := by
  simp only [Literal.text, doubleLiteral, Decimal.writeDouble, Decimal.writeBits_eq,
    Decimal.negative_bitsLiteral]

theorem text_singleLiteral (number : Float32) :
    (singleLiteral number).text = Decimal.writeSingle number := by
  simp only [Literal.text, singleLiteral, Decimal.writeSingle, Decimal.writeBits_eq,
    Decimal.negative_bitsLiteral]

theorem Literal.Proper.exists_digit {literal : Literal} (proper : literal.Proper) :
    ∃ digit others, literal.spell = Nat.digitChar digit :: others ∧ digit < 10 := by
  obtain ⟨nonempty, small⟩ := proper.whole
  obtain ⟨digit, rest, whole⟩ := List.exists_cons_of_ne_nil nonempty
  refine ⟨digit, spellDigits rest ++ (spellFraction literal.fraction ++
    spellExponent literal.exponent), ?_, small digit (by simp [whole])⟩
  simp [Literal.spell, whole, spellDigits]

theorem isSpace_digitChar {digit : Nat} (small : digit < 10) :
    isSpace (.char digit.digitChar) = false := by
  revert digit
  decide

theorem nodeFrom_digit {digit : Nat} (small : digit < 10) (rest : List Symbol) :
    nodeFrom (.char digit.digitChar :: rest) =
      ((numberNode false (.char digit.digitChar :: rest)).1,
        (numberNode false (.char digit.digitChar :: rest)).2.1) := by
  have noArray : digit.digitChar ≠ '[' := by simp
  have noObject : digit.digitChar ≠ '\x7b' := by simp
  rw [nodeFrom_eq, skipSpace_cons (isSpace_digitChar small)]
  simp [noArray, noObject, digit?_char_digitChar small]

theorem numberNode_spell {literal : Literal} (proper : literal.Proper) {rest : List Symbol}
    (ended : continuesNumber rest = false) :
    ((numberNode literal.negative (literal.spell.map .char ++ rest)).1,
      (numberNode literal.negative (literal.spell.map .char ++ rest)).2.1) =
        (literal.node, rest) := by
  have scanned := Literal.scan_spell proper ended
  unfold numberNode
  split
  · next found => cases scanned.symm.trans found; rfl
  · next missed => cases scanned.symm.trans missed

/-- A proper literal is read as a number, if what follows it cannot go on with it. -/
theorem nodeFrom_literal {literal : Literal} (proper : literal.Proper) {rest : List Symbol}
    (ended : continuesNumber rest = false) :
    nodeFrom (literal.text.map .char ++ rest) = (literal.node, rest) := by
  have number := numberNode_spell proper ended
  rw [Literal.text]
  cases sign : literal.negative with
  | true =>
    rw [sign] at number
    rw [nodeFrom_eq]
    simp only [Decimal.signText, if_true, List.map_cons, List.cons_append, List.nil_append]
    rw [skipSpace_cons (by decide)]
    exact number
  | false =>
    obtain ⟨digit, others, begins, small⟩ := proper.exists_digit
    rw [sign, begins] at number
    simp only [Decimal.signText, Bool.false_eq_true, if_false, List.nil_append, begins,
      List.map_cons, List.cons_append] at number ⊢
    rw [nodeFrom_digit small]
    exact number

theorem nodeFrom_null (rest : List Symbol) :
    nodeFrom (['n', 'u', 'l', 'l'].map .char ++ rest) = (.null, rest) := by
  simp only [List.map_cons, List.map_nil, List.cons_append, List.nil_append]
  rw [nodeFrom_eq, skipSpace_cons (by decide)]
  simp [digit?, Decimal.digit?, leafNode, wordNode, readWord, Except.map]

theorem nodeFrom_string (text : String) (rest : List Symbol) :
    nodeFrom ((writeString text).map .char ++ rest) = (.string (.ok text) (.ok ()), rest) := by
  have read := readString_closedString text rest
  have skipped := skipString_closedString text.toList rest
  rw [writeString_map_char, nodeFrom_eq, skipSpace_cons (by decide)]
  have quoted : stringNode (closedString text.toList rest) =
    (.string (.ok text) (.ok ()), ⟨rest, Nat.le_of_lt (length_skipString_lt skipped)⟩) := by
    unfold stringNode
    split
    · next found =>
      cases skipped.symm.trans found
      rw [read]
    · next missed => cases skipped.symm.trans missed
  simp [digit?, Decimal.digit?, leafNode, quoted]

def Node.isValue : Node → Bool
  | .broken _ | .absent => false
  | _ => true

theorem Value.isValue_node (value : Value) : value.node.isValue = true := by
  cases value with
  | double number | single number =>
    simp only [node]
    split <;> rfl
  | _ => rfl

theorem firstItemFrom_of_isValue {text rest : List Symbol} {node : Node}
    (read : nodeFrom text = (node, rest)) (isValue : node.isValue = true) :
    firstItemFrom text = (.next node (itemsFrom rest).1, (itemsFrom rest).2) := by
  rw [firstItemFrom_eq]
  split
  · next start =>
    rw [nodeFrom_eq, start] at read
    cases read
    cases isValue
  · next start =>
    rw [nodeFrom_eq, start] at read
    cases read
    cases isValue
  · rw [read]

/-! ## Written values -/

/-- A floating-point number is written as a literal, or as `null` if it is not finite. -/
theorem nodeFrom_literal_or_null {finite : Bool} {literal : Literal} (proper : literal.Proper)
    {rest : List Symbol} (ended : continuesNumber rest = false) :
    nodeFrom ((if finite then literal.text else ['n', 'u', 'l', 'l']).map .char ++ rest) =
      (if finite then literal.node else .null, rest) := by
  cases finite with
  | false => exact nodeFrom_null rest
  | true => exact nodeFrom_literal proper ended

theorem nodeFrom_double (number : Float) {rest : List Symbol}
    (ended : continuesNumber rest = false) :
    nodeFrom ((writeDouble number).map .char ++ rest) =
      ((Value.double number).node, rest) := by
  rw [writeDouble, Value.node, ← text_doubleLiteral]
  exact nodeFrom_literal_or_null (Decimal.proper_bitsLiteral _ _ _ _) ended

theorem nodeFrom_single (number : Float32) {rest : List Symbol}
    (ended : continuesNumber rest = false) :
    nodeFrom ((writeSingle number).map .char ++ rest) =
      ((Value.single number).node, rest) := by
  rw [writeSingle, Value.node, ← text_singleLiteral]
  exact nodeFrom_literal_or_null (Decimal.proper_bitsLiteral _ _ _ _) ended

theorem nodeFrom_bracket (text : List Symbol) :
    nodeFrom (.char '[' :: text) = (.array (firstItemFrom text).1, (firstItemFrom text).2) := by
  rw [nodeFrom_eq, skipSpace_cons (by decide)]
  rfl

theorem nodeFrom_brace (text : List Symbol) :
    nodeFrom (.char '\x7b' :: text) =
      (.object (firstMemberFrom text).1, (firstMemberFrom text).2) := by
  rw [nodeFrom_eq, skipSpace_cons (by decide)]
  rfl

theorem itemsFrom_comma (text : List Symbol) :
    itemsFrom (.char ',' :: text) =
      (.next (nodeFrom text).1 (itemsFrom (nodeFrom text).2).1,
        (itemsFrom (nodeFrom text).2).2) := by
  rw [itemsFrom_eq, skipSpace_cons (by decide)]
  rfl

theorem itemsFrom_close (style : Style) (level : Nat) (rest : List Symbol) :
    itemsFrom ((style.lineBreak level).map .char ++ .char ']' :: rest) = (.close, rest) := by
  rw [itemsFrom_eq, skipSpace_lineBreak, skipSpace_cons (by decide)]
  rfl

theorem membersFrom_comma (text : List Symbol) :
    membersFrom (.char ',' :: text) = memberFrom text := by
  rw [membersFrom_eq, skipSpace_cons (by decide)]
  rfl

theorem membersFrom_close (style : Style) (level : Nat) (rest : List Symbol) :
    membersFrom ((style.lineBreak level).map .char ++ .char '\x7d' :: rest) = (.close, rest) := by
  rw [membersFrom_eq, skipSpace_lineBreak, skipSpace_cons (by decide)]
  rfl

theorem memberFrom_write (style : Style) (level : Nat) (name : String)
    {text rest after : List Symbol} {value : Node} {members : Members}
    (read : nodeFrom text = (value, rest)) (others : membersFrom rest = (members, after)) :
    memberFrom ((style.lineBreak level).map .char ++
        ((writeString name).map .char ++ (style.colon.map .char ++ text))) =
      (.next (.string (.ok name) (.ok ())) value members, after) := by
  rw [memberFrom_eq, nodeFrom_lineBreak, nodeFrom_string]
  dsimp only
  rw [memberValueFrom_colon, read]
  dsimp only
  rw [others]

theorem firstMemberFrom_write (style : Style) (level : Nat) (name : String)
    (text : List Symbol) :
    firstMemberFrom ((style.lineBreak level).map .char ++ ((writeString name).map .char ++ text)) =
      memberFrom ((style.lineBreak level).map .char ++ ((writeString name).map .char ++ text)) := by
  rw [firstMemberFrom_eq, skipSpace_lineBreak, writeString_map_char, skipSpace_cons (by decide)]
  rfl

theorem continuesNumber_lineBreak (style : Style) (level : Nat) {rest : List Symbol}
    (ended : continuesNumber rest = false) :
    continuesNumber ((style.lineBreak level).map .char ++ rest) = false := by
  cases style with
  | compact => exact ended
  | pretty => rfl

theorem continuesNumber_values (style : Style) (level : Nat) (values : Values)
    {rest : List Symbol} (ended : continuesNumber rest = false) :
    continuesNumber ((values.write style level).map .char ++ rest) = false := by
  cases values with
  | nil => exact ended
  | cons head tail => rfl

theorem continuesNumber_entries (style : Style) (level : Nat) (entries : Entries)
    {rest : List Symbol} (ended : continuesNumber rest = false) :
    continuesNumber ((entries.write style level).map .char ++ rest) = false := by
  cases entries with
  | nil => exact ended
  | cons name value tail => rfl

def itemsText (style : Style) (level : Nat) (values : Values) (rest : List Symbol) :
    List Symbol :=
  (values.write style (level + 1)).map .char ++
    ((style.lineBreak level).map .char ++ .char ']' :: rest)

def membersText (style : Style) (level : Nat) (entries : Entries) (rest : List Symbol) :
    List Symbol :=
  (entries.write style (level + 1)).map .char ++
    ((style.lineBreak level).map .char ++ .char '\x7d' :: rest)

theorem continuesNumber_itemsText (style : Style) (level : Nat) (values : Values)
    (rest : List Symbol) : continuesNumber (itemsText style level values rest) = false :=
  continuesNumber_values style _ values (continuesNumber_lineBreak style level rfl)

theorem continuesNumber_membersText (style : Style) (level : Nat) (entries : Entries)
    (rest : List Symbol) : continuesNumber (membersText style level entries rest) = false :=
  continuesNumber_entries style _ entries (continuesNumber_lineBreak style level rfl)

theorem write_array_cons (style : Style) (level : Nat) (head : Value) (tail : Values)
    (rest : List Symbol) :
    ((Value.array (.cons head tail)).write style level).map .char ++ rest =
      .char '[' :: ((style.lineBreak (level + 1)).map .char ++
        ((head.write style (level + 1)).map .char ++ itemsText style level tail rest)) := by
  simp [Value.write, itemsText]

theorem write_object_cons (style : Style) (level : Nat) (name : String) (value : Value)
    (tail : Entries) (rest : List Symbol) :
    ((Value.object (.cons name value tail)).write style level).map .char ++ rest =
      .char '\x7b' :: ((style.lineBreak (level + 1)).map .char ++
        ((writeString name).map .char ++ (style.colon.map .char ++
          ((value.write style (level + 1)).map .char ++
            membersText style level tail rest)))) := by
  simp [Value.write, membersText]

theorem itemsText_cons (style : Style) (level : Nat) (head : Value) (tail : Values)
    (rest : List Symbol) :
    itemsText style level (.cons head tail) rest =
      .char ',' :: ((style.lineBreak (level + 1)).map .char ++
        ((head.write style (level + 1)).map .char ++ itemsText style level tail rest)) := by
  simp [Values.write, itemsText]

theorem membersText_cons (style : Style) (level : Nat) (name : String) (value : Value)
    (tail : Entries) (rest : List Symbol) :
    membersText style level (.cons name value tail) rest =
      .char ',' :: ((style.lineBreak (level + 1)).map .char ++
        ((writeString name).map .char ++ (style.colon.map .char ++
          ((value.write style (level + 1)).map .char ++
            membersText style level tail rest)))) := by
  simp [Entries.write, membersText]

mutual

/-- The text of a value is read as its tree, if what follows cannot go on with a number. -/
theorem nodeFrom_write (style : Style) (level : Nat) : (value : Value) → {rest : List Symbol} →
    continuesNumber rest = false →
      nodeFrom ((value.write style level).map .char ++ rest) = (value.node, rest)
  | .null, rest, _ => nodeFrom_null rest
  | .string text, rest, _ => nodeFrom_string text rest
  | .count number, rest, ended => by
    rw [Value.write, ← text_naturalLiteral]
    exact nodeFrom_literal (proper_naturalLiteral number) ended
  | .double number, rest, ended => nodeFrom_double number ended
  | .single number, rest, ended => nodeFrom_single number ended
  | .array .nil, rest, _ => by
    simp only [Value.write, List.map_cons, List.map_nil, List.cons_append, List.nil_append]
    rw [nodeFrom_bracket, firstItemFrom_eq, skipSpace_cons (by decide)]
    rfl
  | .array (.cons head tail), rest, _ => by
    have first := nodeFrom_write style (level + 1) head
      (continuesNumber_itemsText style level tail rest)
    rw [← nodeFrom_lineBreak style (level + 1)] at first
    rw [write_array_cons, nodeFrom_bracket,
      firstItemFrom_of_isValue first head.isValue_node, itemsFrom_write style level tail]
    rfl
  | .object .nil, rest, _ => by
    simp only [Value.write, List.map_cons, List.map_nil, List.cons_append, List.nil_append]
    rw [nodeFrom_brace, firstMemberFrom_eq, skipSpace_cons (by decide)]
    rfl
  | .object (.cons name value tail), rest, _ => by
    have read := nodeFrom_write style (level + 1) value
      (continuesNumber_membersText style level tail rest)
    rw [write_object_cons, nodeFrom_brace, firstMemberFrom_write,
      memberFrom_write style _ name read (membersFrom_write style level tail)]
    rfl

theorem itemsFrom_write (style : Style) (level : Nat) : (values : Values) →
    {rest : List Symbol} → itemsFrom (itemsText style level values rest) = (values.nodes, rest)
  | .nil, rest => itemsFrom_close style level rest
  | .cons head tail, rest => by
    rw [itemsText_cons, itemsFrom_comma, nodeFrom_lineBreak,
      nodeFrom_write style (level + 1) head (continuesNumber_itemsText style level tail rest)]
    dsimp only
    rw [itemsFrom_write style level tail]
    rfl

theorem membersFrom_write (style : Style) (level : Nat) : (entries : Entries) →
    {rest : List Symbol} →
      membersFrom (membersText style level entries rest) = (entries.nodes, rest)
  | .nil, rest => membersFrom_close style level rest
  | .cons name value tail, rest => by
    have read := nodeFrom_write style (level + 1) value
      (continuesNumber_membersText style level tail rest)
    rw [membersText_cons, membersFrom_comma,
      memberFrom_write style _ name read (membersFrom_write style level tail)]
    rfl

end

/-- A value that is written as a text of its own is read as its tree, and nothing is left. -/
theorem read_text (style : Style) (value : Value) :
    Document.read (Symbol.ofString (value.text style)) = ⟨value.node, true⟩ := by
  have ended : continuesNumber [] = false := rfl
  have whole := nodeFrom_write style 0 value ended
  rw [List.append_nil] at whole
  have symbols : Symbol.ofString (value.text style) = (value.write style 0).map .char := by
    simp [Symbol.ofString, Value.text]
  rw [symbols]
  simp only [nodeFrom, Prod.mk.injEq] at whole
  rw [Document.read]
  dsimp only
  rw [whole.1, whole.2]
  rfl

end Geocoding.Json
