import Geocoding.Json.Error
import Geocoding.Proofs.Json.Document
import Geocoding.Proofs.Json.Token
import Mathlib.Computability.Language

/-!
# The texts of a value

A value has many texts: there may be space around each of its parts, and characters of
its strings may be escaped.  The texts of a tree are given as a language, which follows the
tree; a tree with a fault in it has none.  Each of these texts is read as this tree, in
front of any text that cannot go on with it.
-/

namespace Geocoding.Json

open Text (Symbol)

/-! ## The language of a tree -/

def blank : Language Symbol :=
  {text | ∀ symbol ∈ text, isSpace symbol = true}

def word (letters : List Char) : Language Symbol :=
  {letters.map .char}

/-- A character that sets parts apart, and the space in front of it. -/
def mark (character : Char) : Language Symbol :=
  blank * {[.char character]}

def numerals (used : Except Fault Number) : Language Symbol :=
  {text | ∃ negative spelling literal, Literal.scan negative spelling = .ok (literal, []) ∧
    literal.value = used ∧ text = (Decimal.signText negative).map .char ++ spelling}

/-- The strings with these characters.  An escape in them may stand for no character. -/
def quotations (used : Except Fault String) : Language Symbol :=
  {text | ∃ inner, skipString inner = .ok [] ∧ readString inner = used ∧
    text = .char '"' :: inner}

def entry (names values : Language Symbol) : Language Symbol :=
  blank * names * mark ':' * (blank * values)

def Node.names : Node → Language Symbol
  | .string used (.ok ()) => quotations used
  | _ => 0

mutual

/-- The texts of a value, without space around it. -/
def Node.texts : Node → Language Symbol
  | .null => word ['n', 'u', 'l', 'l']
  | .boolean true => word ['t', 'r', 'u', 'e']
  | .boolean false => word ['f', 'a', 'l', 's', 'e']
  | .number used (.ok ()) => numerals used
  | .string used (.ok ()) => quotations used
  | .array .close => word ['['] * mark ']'
  | .array (.next item rest) => word ['['] * (blank * item.texts) * rest.texts
  | .object .close => word ['\x7b'] * mark '\x7d'
  | .object (.next name value rest) => word ['\x7b'] * entry name.names value.texts * rest.texts
  | _ => 0

/-- The texts of the items behind one of them, up to the end of the array. -/
def Items.texts : Items → Language Symbol
  | .close => mark ']'
  | .next item rest => mark ',' * (blank * item.texts) * rest.texts
  | .cut _ => 0

/-- The texts of the members behind one of them, up to the end of the object. -/
def Members.texts : Members → Language Symbol
  | .close => mark '\x7d'
  | .next name value rest => mark ',' * entry name.names value.texts * rest.texts
  | .cut _ => 0

end

/-- A tree without a fault in it. -/
def Node.IsValid (node : Node) : Prop :=
  ∃ text, text ∈ node.texts

/-- The texts that hold a value and nothing else. -/
def Node.documents (node : Node) : Language Symbol :=
  blank * node.texts * blank

/-! ## Parts of texts -/

variable {text rest : List Symbol}

theorem skipSpace_blank (spaces : text ∈ blank) (rest : List Symbol) :
    skipSpace (text ++ rest) = skipSpace rest :=
  skipSpace_append spaces rest

theorem nodeFrom_blank (spaces : text ∈ blank) (rest : List Symbol) :
    nodeFrom (text ++ rest) = nodeFrom rest :=
  nodeFrom_congr (skipSpace_blank spaces rest)

theorem mem_mark {character : Char} :
    text ∈ mark character ↔ ∃ spaces ∈ blank, spaces ++ [.char character] = text := by
  rw [mark, Language.mem_mul]
  refine exists_congr fun spaces => and_congr_right fun _ => ?_
  constructor
  · rintro ⟨_, rfl, same⟩
    exact same
  · intro same
    exact ⟨_, rfl, same⟩

theorem exists_mem_mul {first second : Language Symbol} {holds : List Symbol → Prop} :
    (∃ text ∈ first * second, holds text) ↔
      ∃ one ∈ first, ∃ other ∈ second, holds (one ++ other) :=
  Set.exists_mem_image2

theorem mem_items {opening items behind : Language Symbol} :
    text ∈ opening * (blank * items) * behind ↔
      ∃ start ∈ opening, ∃ spaces ∈ blank, ∃ item ∈ items, ∃ others ∈ behind,
        start ++ (spaces ++ (item ++ others)) = text := by
  rw [mul_assoc, mul_assoc, Language.mem_mul]
  simp only [exists_mem_mul]

theorem mem_members {opening names values behind : Language Symbol} :
    text ∈ opening * entry names values * behind ↔
      ∃ start ∈ opening, ∃ spaces ∈ blank, ∃ name ∈ names, ∃ colon ∈ mark ':', ∃ gap ∈ blank,
        ∃ value ∈ values, ∃ others ∈ behind,
          start ++ (spaces ++ (name ++ (colon ++ (gap ++ (value ++ others))))) = text := by
  rw [mul_assoc, Language.mem_mul]
  simp only [entry, mul_assoc, exists_mem_mul]

theorem skipSpace_mark {character : Char} (part : isSpace (.char character) = false)
    (marked : text ∈ mark character) (rest : List Symbol) :
    skipSpace (text ++ rest) = .char character :: rest := by
  obtain ⟨spaces, blanks, rfl⟩ := mem_mark.mp marked
  rw [List.append_assoc, skipSpace_blank blanks, List.singleton_append, skipSpace_cons part]

theorem continuesNumber_of_isSpace {symbol : Symbol} (space : isSpace symbol = true)
    (rest : List Symbol) : continuesNumber (symbol :: rest) = false := by
  simp only [isSpace, Bool.or_eq_true, beq_iff_eq] at space
  rcases space with ((rfl | rfl) | rfl) | rfl <;> rfl

theorem continuesNumber_blank (spaces : text ∈ blank) (ended : continuesNumber rest = false) :
    continuesNumber (text ++ rest) = false := by
  cases text with
  | nil => exact ended
  | cons symbol others => exact continuesNumber_of_isSpace (spaces symbol List.mem_cons_self) _

theorem continuesNumber_mark {character : Char} (marked : text ∈ mark character)
    (ended : continuesNumber (.char character :: rest) = false) :
    continuesNumber (text ++ rest) = false := by
  obtain ⟨spaces, blanks, rfl⟩ := mem_mark.mp marked
  rw [List.append_assoc]
  exact continuesNumber_blank blanks ended

theorem continuesNumber_items {items : Items} (written : text ∈ items.texts)
    (rest : List Symbol) :
    continuesNumber (text ++ rest) = false := by
  cases items with
  | close => exact continuesNumber_mark written rfl
  | cut fault => exact written.elim
  | next item others =>
    obtain ⟨comma, marked, spaces, _, first, _, behind, _, rfl⟩ := mem_items.mp written
    rw [List.append_assoc]
    exact continuesNumber_mark marked rfl

theorem continuesNumber_members {members : Members} (written : text ∈ members.texts)
    (rest : List Symbol) :
    continuesNumber (text ++ rest) = false := by
  cases members with
  | close => exact continuesNumber_mark written rfl
  | cut fault => exact written.elim
  | next name value others =>
    obtain ⟨comma, marked, spaces, _, key, _, behind⟩ := mem_members.mp written
    obtain ⟨colon, _, gap, _, content, _, others, _, rfl⟩ := behind
    rw [List.append_assoc]
    exact continuesNumber_mark marked rfl

/-! ## Values without parts -/

theorem isSpace_of_digit {symbol : Symbol} (digit : (digit? symbol).isSome = true) :
    isSpace symbol = false := by
  by_contra space
  rw [Bool.not_eq_false] at space
  simp only [isSpace, Bool.or_eq_true, beq_iff_eq] at space
  rcases space with ((rfl | rfl) | rfl) | rfl <;> cases digit

theorem nodeFrom_of_digit {symbol : Symbol} (digit : (digit? symbol).isSome = true)
    (others : List Symbol) :
    nodeFrom (symbol :: others) =
      ((numberNode false (symbol :: others)).1, (numberNode false (symbol :: others)).2.1) := by
  rw [nodeFrom_eq, skipSpace_cons (isSpace_of_digit digit)]
  split
  · next start => cases start
  · next start =>
    obtain ⟨rfl, _⟩ := List.cons.inj start
    cases digit
  · next start =>
    obtain ⟨rfl, _⟩ := List.cons.inj start
    cases digit
  · next start =>
    obtain ⟨rfl, rfl⟩ := List.cons.inj start
    rw [if_pos digit]

theorem Literal.exists_digit_of_scan {negative : Bool} {literal : Literal}
    (scanned : Literal.scan negative text = .ok (literal, rest)) :
    ∃ symbol others, text = symbol :: others ∧ (digit? symbol).isSome = true := by
  cases text with
  | nil => cases scanned
  | cons symbol others =>
    refine ⟨symbol, others, rfl, ?_⟩
    by_contra noDigit
    rw [Bool.not_eq_true, Option.isSome_eq_false_iff, Option.isNone_iff_eq_none] at noDigit
    simp [Literal.scan, Literal.scanWhole, Literal.scanDigits, spanDigits, noDigit, bind,
      Except.bind] at scanned

theorem numberNode_append {negative : Bool} {literal : Literal}
    (scanned : Literal.scan negative text = .ok (literal, []))
    (ended : continuesNumber rest = false) :
    ((numberNode negative (text ++ rest)).1, (numberNode negative (text ++ rest)).2.1) =
      (.number literal.value (.ok ()), rest) := by
  have found := Literal.scan_append scanned ended
  unfold numberNode
  split
  · next read =>
    cases found.symm.trans read
    rfl
  · next missed => cases found.symm.trans missed

theorem nodeFrom_numerals {used : Except Fault Number} (written : text ∈ numerals used)
    (ended : continuesNumber rest = false) :
    nodeFrom (text ++ rest) = (.number used (.ok ()), rest) := by
  obtain ⟨negative, spelling, literal, scanned, rfl, rfl⟩ := written
  have number := numberNode_append scanned ended
  cases negative with
  | true =>
    rw [nodeFrom_eq]
    simp only [Decimal.signText, if_true, List.map_cons, List.map_nil, List.cons_append,
      List.nil_append]
    rw [skipSpace_cons (by decide)]
    exact number
  | false =>
    obtain ⟨symbol, others, rfl, digit⟩ := Literal.exists_digit_of_scan scanned
    rw [← number]
    exact nodeFrom_of_digit digit (others ++ rest)

theorem nodeFrom_quotations {used : Except Fault String} (written : text ∈ quotations used)
    (rest : List Symbol) : nodeFrom (text ++ rest) = (.string used (.ok ()), rest) := by
  obtain ⟨inner, closed, rfl, rfl⟩ := written
  have skipped := skipString_append closed rest
  rw [List.nil_append] at skipped
  have quoted : stringNode (inner ++ rest) =
      (.string (readString inner) (.ok ()),
        ⟨rest, Nat.le_of_lt (length_skipString_lt skipped)⟩) := by
    unfold stringNode
    split
    · next found =>
      cases skipped.symm.trans found
      rw [readString_append closed]
    · next missed => cases skipped.symm.trans missed
  rw [List.cons_append, nodeFrom_eq, skipSpace_cons (by decide)]
  simp [digit?, Decimal.digit?, leafNode, quoted]

theorem nodeFrom_true (rest : List Symbol) :
    nodeFrom (['t', 'r', 'u', 'e'].map .char ++ rest) = (.boolean true, rest) := by
  simp only [List.map_cons, List.map_nil, List.cons_append, List.nil_append]
  rw [nodeFrom_eq, skipSpace_cons (by decide)]
  simp [digit?, Decimal.digit?, leafNode, wordNode, readWord, Except.map]

theorem nodeFrom_false (rest : List Symbol) :
    nodeFrom (['f', 'a', 'l', 's', 'e'].map .char ++ rest) = (.boolean false, rest) := by
  simp only [List.map_cons, List.map_nil, List.cons_append, List.nil_append]
  rw [nodeFrom_eq, skipSpace_cons (by decide)]
  simp [digit?, Decimal.digit?, leafNode, wordNode, readWord, Except.map]

/-! ## Whole texts -/

theorem Node.exists_string_of_names {name : Node} (written : text ∈ name.names) :
    ∃ used, name = .string used (.ok ()) ∧ text ∈ quotations used := by
  cases name with
  | string used skipped =>
    cases skipped with
    | ok _ => exact ⟨used, rfl, written⟩
    | error fault => exact written.elim
  | _ => exact written.elim

theorem Node.isValue_of_texts {node : Node} (written : text ∈ node.texts) :
    node.isValue = true := by
  cases node with
  | broken fault => exact written.elim
  | absent => exact written.elim
  | _ => rfl

theorem itemsFrom_mark {comma : List Symbol} (marked : comma ∈ mark ',') (rest : List Symbol) :
    itemsFrom (comma ++ rest) = itemsFrom (.char ',' :: rest) := by
  rw [itemsFrom_eq, itemsFrom_eq, skipSpace_mark (by decide) marked, skipSpace_cons (by decide)]

theorem memberFrom_append {name value : Node} {members : Members}
    {spaces key colon gap content others : List Symbol} (blanks : spaces ∈ blank)
    (named : key ∈ name.names) (marked : colon ∈ mark ':') (gapBlanks : gap ∈ blank)
    (read : nodeFrom (content ++ (others ++ rest)) = (value, others ++ rest))
    (behind : membersFrom (others ++ rest) = (members, rest)) :
    memberFrom (spaces ++ (key ++ (colon ++ (gap ++ (content ++ (others ++ rest)))))) =
      (.next name value members, rest) := by
  obtain ⟨used, rfl, quoted⟩ := Node.exists_string_of_names named
  have found : memberValueFrom (colon ++ (gap ++ (content ++ (others ++ rest)))) =
      (value, others ++ rest) := by
    rw [memberValueFrom_eq, skipSpace_mark (by decide) marked]
    exact (nodeFrom_blank gapBlanks _).trans read
  rw [memberFrom_eq, nodeFrom_blank blanks, nodeFrom_quotations quoted]
  dsimp only
  rw [found]
  dsimp only
  rw [behind]

theorem firstMemberFrom_append {name : Node} {spaces key : List Symbol} (blanks : spaces ∈ blank)
    (named : key ∈ name.names) (rest : List Symbol) :
    firstMemberFrom (spaces ++ (key ++ rest)) = memberFrom (spaces ++ (key ++ rest)) := by
  obtain ⟨used, rfl, inner, _, _, rfl⟩ := Node.exists_string_of_names named
  rw [firstMemberFrom_eq, skipSpace_blank blanks, List.cons_append, skipSpace_cons (by decide)]
  rfl

def Node.isNumber : Node → Bool
  | .number _ _ => true
  | _ => false

mutual

theorem nodeFrom_append : (node : Node) → {text rest : List Symbol} → text ∈ node.texts →
    (node.isNumber = true → continuesNumber rest = false) → nodeFrom (text ++ rest) = (node, rest)
  | .null, _, rest, rfl, _ => nodeFrom_null rest
  | .boolean true, _, rest, rfl, _ => nodeFrom_true rest
  | .boolean false, _, rest, rfl, _ => nodeFrom_false rest
  | .number _ (.ok ()), _, _, written, ended => nodeFrom_numerals written (ended rfl)
  | .string _ (.ok ()), _, rest, written, _ => nodeFrom_quotations written rest
  | .array .close, _, rest, written, _ => by
    obtain ⟨_, rfl, close, marked, rfl⟩ := Language.mem_mul.mp written
    rw [List.append_assoc]
    change nodeFrom (.char '[' :: (close ++ rest)) = _
    rw [nodeFrom_bracket, firstItemFrom_eq, skipSpace_mark (by decide) marked]
    rfl
  | .array (.next item items), _, rest, written, _ => by
    obtain ⟨_, rfl, spaces, blanks, first, spelled, others, behind, rfl⟩ := mem_items.mp written
    have read := nodeFrom_append item spelled fun _ => continuesNumber_items behind rest
    rw [← nodeFrom_blank blanks] at read
    simp only [List.append_assoc]
    change nodeFrom (.char '[' :: (spaces ++ (first ++ (others ++ rest)))) = _
    rw [nodeFrom_bracket, firstItemFrom_of_isValue read (Node.isValue_of_texts spelled),
      itemsFrom_append items behind]
  | .object .close, _, rest, written, _ => by
    obtain ⟨_, rfl, close, marked, rfl⟩ := Language.mem_mul.mp written
    rw [List.append_assoc]
    change nodeFrom (.char '\x7b' :: (close ++ rest)) = _
    rw [nodeFrom_brace, firstMemberFrom_eq, skipSpace_mark (by decide) marked]
    rfl
  | .object (.next name value members), _, rest, written, _ => by
    obtain ⟨_, rfl, spaces, blanks, key, named, colon, marked, gap, gapBlanks, content, spelled,
      others, behind, rfl⟩ := mem_members.mp written
    have read := nodeFrom_append value spelled fun _ => continuesNumber_members behind rest
    have behindRead : membersFrom (others ++ rest) = _ := membersFrom_append members behind
    simp only [List.append_assoc]
    change nodeFrom (.char '\x7b' :: (spaces ++ (key ++ _))) = _
    rw [nodeFrom_brace, firstMemberFrom_append blanks named,
      memberFrom_append blanks named marked gapBlanks read behindRead]

theorem itemsFrom_append : (items : Items) → {text rest : List Symbol} → text ∈ items.texts →
    itemsFrom (text ++ rest) = (items, rest)
  | .close, _, rest, written => by
    rw [itemsFrom_eq, skipSpace_mark (by decide) written]
    rfl
  | .next item items, _, rest, written => by
    obtain ⟨comma, marked, spaces, blanks, first, spelled, others, behind, rfl⟩ :=
      mem_items.mp written
    have read := nodeFrom_append item spelled fun _ => continuesNumber_items behind rest
    simp only [List.append_assoc]
    have found : nodeFrom (spaces ++ (first ++ (others ++ rest))) = (item, others ++ rest) :=
      (nodeFrom_blank blanks _).trans read
    rw [itemsFrom_mark marked, itemsFrom_comma, found]
    dsimp only
    rw [itemsFrom_append items behind]

theorem membersFrom_append : (members : Members) → {text rest : List Symbol} →
    text ∈ members.texts → membersFrom (text ++ rest) = (members, rest)
  | .close, _, rest, written => by
    rw [membersFrom_eq, skipSpace_mark (by decide) written]
    rfl
  | .next name value members, _, rest, written => by
    obtain ⟨comma, commaMarked, spaces, blanks, key, named, colon, marked, gap, gapBlanks,
      content, spelled, others, behind, rfl⟩ := mem_members.mp written
    have read := nodeFrom_append value spelled fun _ => continuesNumber_members behind rest
    have behindRead : membersFrom (others ++ rest) = _ := membersFrom_append members behind
    simp only [List.append_assoc]
    rw [membersFrom_eq, skipSpace_mark (by decide) commaMarked]
    exact memberFrom_append blanks named marked gapBlanks read behindRead

end

mutual

theorem Node.skip_of_texts : (node : Node) → {text : List Symbol} → text ∈ node.texts →
    node.skip = .ok ()
  | .null, _, _ => rfl
  | .boolean _, _, _ => rfl
  | .number _ (.ok ()), _, _ => rfl
  | .string _ (.ok ()), _, _ => rfl
  | .array .close, _, _ => rfl
  | .array (.next item items), _, written => by
    obtain ⟨_, _, _, _, _, spelled, _, behind, _⟩ := mem_items.mp written
    have first := Node.skip_of_texts item spelled
    have others := Items.skip_of_texts items behind
    rw [Node.skip, Items.skip, first]
    exact others
  | .object .close, _, _ => rfl
  | .object (.next name value members), _, written => by
    obtain ⟨_, _, _, _, _, named, _, _, _, _, _, spelled, _, behind, _⟩ := mem_members.mp written
    obtain ⟨used, rfl, _⟩ := Node.exists_string_of_names named
    have first := Node.skip_of_texts value spelled
    have others := Members.skip_of_texts members behind
    rw [Node.skip, Members.skip, first]
    exact others

theorem Items.skip_of_texts : (items : Items) → {text : List Symbol} → text ∈ items.texts →
    items.skip = .ok ()
  | .close, _, _ => rfl
  | .next item items, _, written => by
    obtain ⟨_, _, _, _, _, spelled, _, behind, _⟩ := mem_items.mp written
    have first := Node.skip_of_texts item spelled
    have others := Items.skip_of_texts items behind
    rw [Items.skip, first]
    exact others

theorem Members.skip_of_texts : (members : Members) → {text : List Symbol} →
    text ∈ members.texts → members.skip = .ok ()
  | .close, _, _ => rfl
  | .next name value members, _, written => by
    obtain ⟨_, _, _, _, _, named, _, _, _, _, _, spelled, _, behind, _⟩ := mem_members.mp written
    obtain ⟨used, rfl, _⟩ := Node.exists_string_of_names named
    have first := Node.skip_of_texts value spelled
    have others := Members.skip_of_texts members behind
    rw [Members.skip, first]
    exact others

end

theorem Node.IsValid.skip {node : Node} (valid : node.IsValid) : node.skip = .ok () := by
  obtain ⟨text, written⟩ := valid
  exact Node.skip_of_texts node written

/-- A text that holds a tree and nothing else is read as this tree to its end. -/
theorem Document.read_of_mem_documents {node : Node} (written : text ∈ node.documents) :
    Document.read text = ⟨node, true⟩ := by
  obtain ⟨_, ⟨before, beforeBlanks, inner, spelled, rfl⟩, after, afterBlanks, rfl⟩ := written
  have ended : continuesNumber after = false := by
    rw [← List.append_nil after]
    exact continuesNumber_blank afterBlanks rfl
  have nothingLeft : skipSpace after = [] := by
    have nothing := skipSpace_blank afterBlanks []
    rwa [List.append_nil] at nothing
  have whole : nodeFrom (before ++ inner ++ after) = (node, after) := by
    rw [List.append_assoc, nodeFrom_blank beforeBlanks, nodeFrom_append node spelled fun _ => ended]
  rw [nodeFrom, Prod.mk.injEq] at whole
  rw [Document.read]
  dsimp only
  rw [whole.1, whole.2, nothingLeft]
  rfl

/-! ## Written values -/

theorem lineBreak_mem_blank (style : Style) (level : Nat) :
    (style.lineBreak level).map .char ∈ blank :=
  isSpace_of_mem_lineBreak

theorem nil_mem_blank : [] ∈ blank :=
  nofun

theorem singleton_mem_mark (character : Char) : [.char character] ∈ mark character :=
  mem_mark.mpr ⟨[], nil_mem_blank, rfl⟩

theorem colon_eq (style : Style) :
    ∃ gap ∈ blank, style.colon.map Symbol.char = .char ':' :: gap := by
  cases style with
  | compact => exact ⟨[], nil_mem_blank, rfl⟩
  | pretty =>
    have space : ∀ symbol ∈ [Symbol.char ' '], isSpace symbol = true := by decide
    exact ⟨_, space, rfl⟩

theorem writeString_mem_quotations (content : String) :
    (writeString content).map .char ∈ quotations (.ok content) := by
  have split := writeString_map_char content []
  rw [List.append_nil] at split
  exact ⟨closedString content.toList [], skipString_closedString _ _,
    readString_closedString _ _, split⟩

theorem Literal.text_mem_numerals {literal : Literal} (proper : literal.Proper) :
    literal.text.map .char ∈ numerals literal.value := by
  have scanned : Literal.scan _ (_ ++ []) = .ok (literal, []) := Literal.scan_spell proper rfl
  rw [List.append_nil] at scanned
  refine ⟨literal.negative, literal.spell.map .char, literal, scanned, rfl, ?_⟩
  rw [Literal.text, List.map_append]

theorem literal_or_null_mem_texts {finite : Bool} {literal : Literal} (proper : literal.Proper) :
    (if finite then literal.text else ['n', 'u', 'l', 'l']).map .char ∈
      (if finite then literal.node else .null : Node).texts := by
  cases finite with
  | false => exact rfl
  | true => exact Literal.text_mem_numerals proper

mutual

theorem write_mem_texts (style : Style) (level : Nat) : (value : Value) →
    (value.write style level).map .char ∈ value.node.texts
  | .null => rfl
  | .string content => writeString_mem_quotations content
  | .count number => by
    rw [Value.write, ← text_naturalLiteral]
    exact Literal.text_mem_numerals (proper_naturalLiteral number)
  | .double number => by
    rw [Value.write, writeDouble, Value.node, ← text_doubleLiteral]
    exact literal_or_null_mem_texts (Decimal.proper_bitsLiteral _ _ _ _)
  | .single number => by
    rw [Value.write, writeSingle, Value.node, ← text_singleLiteral]
    exact literal_or_null_mem_texts (Decimal.proper_bitsLiteral _ _ _ _)
  | .array .nil => Language.mem_mul.mpr ⟨_, rfl, _, singleton_mem_mark ']', rfl⟩
  | .array (.cons head tail) => by
    have first := write_mem_texts style (level + 1) head
    have others := itemsText_mem_texts style level tail
    have split := write_array_cons style level head tail []
    rw [List.append_nil] at split
    rw [split]
    exact mem_items.mpr ⟨_, rfl, _, lineBreak_mem_blank style (level + 1), _, first, _, others, rfl⟩
  | .object .nil => Language.mem_mul.mpr ⟨_, rfl, _, singleton_mem_mark '\x7d', rfl⟩
  | .object (.cons name value tail) => by
    have named := writeString_mem_quotations name
    have first := write_mem_texts style (level + 1) value
    have others := membersText_mem_texts style level tail
    have split := write_object_cons style level name value tail []
    obtain ⟨gap, gapBlanks, colon⟩ := colon_eq style
    rw [List.append_nil, colon] at split
    rw [split]
    exact mem_members.mpr ⟨_, rfl, _, lineBreak_mem_blank style (level + 1), _, named, _,
      singleton_mem_mark ':', gap, gapBlanks, _, first, _, others, rfl⟩

theorem itemsText_mem_texts (style : Style) (level : Nat) : (values : Values) →
    itemsText style level values [] ∈ values.nodes.texts
  | .nil => mem_mark.mpr ⟨_, lineBreak_mem_blank style level, rfl⟩
  | .cons head tail => by
    have first := write_mem_texts style (level + 1) head
    have others := itemsText_mem_texts style level tail
    rw [itemsText_cons]
    exact mem_items.mpr ⟨_, singleton_mem_mark ',', _, lineBreak_mem_blank style (level + 1), _,
      first, _, others, rfl⟩

theorem membersText_mem_texts (style : Style) (level : Nat) : (entries : Entries) →
    membersText style level entries [] ∈ entries.nodes.texts
  | .nil => mem_mark.mpr ⟨_, lineBreak_mem_blank style level, rfl⟩
  | .cons name value tail => by
    have named := writeString_mem_quotations name
    have first := write_mem_texts style (level + 1) value
    have others := membersText_mem_texts style level tail
    obtain ⟨gap, gapBlanks, colon⟩ := colon_eq style
    rw [membersText_cons, colon]
    exact mem_members.mpr ⟨_, singleton_mem_mark ',', _, lineBreak_mem_blank style (level + 1), _,
      named, _, singleton_mem_mark ':', gap, gapBlanks, _, first, _, others, rfl⟩

end

theorem mem_documents_of_texts {node : Node} (written : text ∈ node.texts) :
    text ∈ node.documents := by
  refine Language.mem_mul.mpr ⟨_, ?_, [], nil_mem_blank, List.append_nil _⟩
  exact Language.mem_mul.mpr ⟨[], nil_mem_blank, _, written, rfl⟩

/-- A value that is written as a text of its own fills this text. -/
theorem text_mem_documents (style : Style) (value : Value) :
    Symbol.ofString (value.text style) ∈ value.node.documents := by
  have symbols : Symbol.ofString (value.text style) = (value.write style 0).map .char := by
    simp [Symbol.ofString, Value.text]
  rw [symbols]
  exact mem_documents_of_texts (write_mem_texts style 0 value)

end Geocoding.Json
