import Geocoding.Proofs.Json.Grammar
import Mathlib.Data.List.TakeWhile

/-!
# The texts that can be passed over

A reader takes each part of a text off its front and looks no further than the symbol behind
it.  So what it takes is a text by itself, and every text of a value that can be passed over
is in the language of the tree that is read.  With the converse, which is that these texts
are read as the tree, the documents of a tree are just the texts that hold it.
-/

namespace Geocoding.Json

open Text (Symbol)

variable {text after rest : List Symbol}

/-! ## Symbols off the front of a text -/

/-- A step takes some symbols off the front of a text, with a result that tells what is left,
and takes the same ones if less is left. -/
def Takes {Result : Type} (step result : List Symbol → Result) (text after : List Symbol) : Prop :=
  ∃ front, front ++ after = text ∧ ∀ near, near <+: after → step (front ++ near) = result near

namespace Takes

variable {First Second Result : Type} {step result : List Symbol → Result}

theorem none (stays : ∀ near, near <+: text → step near = result near) :
    Takes step result text text :=
  ⟨[], rfl, stays⟩

theorem cons {first firstResult : List Symbol → First} {symbol : Symbol}
    (taken : Takes first firstResult text after)
    (follows : ∀ others near, first others = firstResult near →
      step (symbol :: others) = result near) :
    Takes step result (symbol :: text) after := by
  obtain ⟨front, rfl, steps⟩ := taken
  refine ⟨symbol :: front, rfl, ?_⟩
  intro near part
  exact follows _ _ (steps near part)

theorem imp {first firstResult : List Symbol → First} (taken : Takes first firstResult text after)
    (follows : ∀ others near, first others = firstResult near → step others = result near) :
    Takes step result text after := by
  obtain ⟨front, whole, steps⟩ := taken
  refine ⟨front, whole, ?_⟩
  intro near part
  exact follows _ _ (steps near part)

theorem trans {first firstResult : List Symbol → First} {second secondResult : List Symbol → Second}
    {middle : List Symbol} (taken : Takes first firstResult text middle)
    (alsoTaken : Takes second secondResult middle after)
    (follows : ∀ others near far, first others = firstResult near →
      second near = secondResult far → step others = result far) :
    Takes step result text after := by
  obtain ⟨front, rfl, steps⟩ := taken
  obtain ⟨more, rfl, moreSteps⟩ := alsoTaken
  refine ⟨front ++ more, List.append_assoc _ _ _, ?_⟩
  intro near part
  have middlePart : more ++ near <+: more ++ after := (List.prefix_append_right_inj more).mpr part
  rw [List.append_assoc]
  exact follows _ _ _ (steps _ middlePart) (moreSteps near part)

end Takes

/-! ## Numbers -/

theorem takes_spanDigits (text : List Symbol) :
    Takes spanDigits (fun near => ((spanDigits text).1, near)) text (spanDigits text).2 := by
  induction text with
  | nil =>
    apply Takes.none
    intro near part
    rw [List.prefix_nil.mp part]
    rfl
  | cons symbol text ih =>
    rw [spanDigits]
    cases found : digit? symbol with
    | none =>
      apply Takes.none
      intro near part
      rcases List.prefix_cons_iff.mp part with rfl | ⟨others, rfl, _⟩
      · rfl
      · rw [spanDigits, found]
    | some digit =>
      apply ih.cons
      intro others near spanned
      rw [spanDigits, found, spanned]

namespace Literal

theorem takes_scanDigits {digits : List Nat} (scanned : scanDigits text = .ok (digits, after)) :
    Takes scanDigits (fun near => .ok (digits, near)) text after := by
  have taken := takes_spanDigits text
  rw [scanDigits] at scanned
  generalize spanDigits text = spanned at taken scanned
  obtain ⟨found, left⟩ := spanned
  cases found with
  | nil => cases scanned
  | cons digit found =>
    cases scanned
    apply taken.imp
    intro others near spanned
    rw [scanDigits, spanned]

theorem takes_scanWhole {digits : List Nat} (scanned : scanWhole text = .ok (digits, after)) :
    Takes scanWhole (fun near => .ok (digits, near)) text after := by
  unfold scanWhole at scanned
  split at scanned
  · cases scanned
  · next notPadded =>
    apply (takes_scanDigits scanned).imp
    intro others near found
    rw [scanWhole, found]
    split
    · next padded =>
      cases padded
      exact (notPadded _ _ _ scanned).elim
    · rfl

theorem takes_scanFraction {digits : Option (List Nat)}
    (scanned : scanFraction text = .ok (digits, after)) :
    Takes scanFraction (fun near => .ok (digits, near)) text after := by
  unfold scanFraction at scanned
  split at scanned
  · next others =>
    obtain ⟨⟨found, left⟩, read, same⟩ := Reading.map_eq_ok.mp scanned
    cases same
    apply (takes_scanDigits read).cons
    intro more near digitsRead
    rw [scanFraction, digitsRead]
    rfl
  · next noPoint =>
    cases scanned
    apply Takes.none
    rintro near ⟨behind, rfl⟩
    unfold scanFraction
    split
    · exact (noPoint _ rfl).elim
    · rfl

theorem takes_spanSign (text : List Symbol) :
    Takes spanSign (fun near => ((spanSign text).1, near)) text (spanSign text).2 := by
  unfold spanSign
  split
  · exact ⟨[.char '-'], rfl, fun near _ => rfl⟩
  · exact ⟨[.char '+'], rfl, fun near _ => rfl⟩
  · next noMinus noPlus =>
    apply Takes.none
    rintro near ⟨behind, rfl⟩
    split
    · exact (noMinus _ rfl).elim
    · exact (noPlus _ rfl).elim
    · rfl

theorem takes_scanExponent {digits : Option (Bool × List Nat)}
    (scanned : scanExponent text = .ok (digits, after)) :
    Takes scanExponent (fun near => .ok (digits, near)) text after := by
  unfold scanExponent at scanned
  split at scanned
  · next mark others =>
    by_cases marked : mark = 'e' ∨ mark = 'E'
    · rw [if_pos marked] at scanned
      have sign := takes_spanSign others
      generalize spanSign others = signed at sign scanned
      obtain ⟨negative, unsigned⟩ := signed
      obtain ⟨⟨found, left⟩, read, same⟩ := Reading.map_eq_ok.mp scanned
      cases same
      have taken : Takes (fun others => scanExponent (.char mark :: others))
          (fun near => .ok (some (negative, found), near)) others after := by
        apply sign.trans (takes_scanDigits read)
        intro more near far signRead digitsRead
        rw [scanExponent, if_pos marked, signRead]
        dsimp only
        rw [digitsRead]
        rfl
      exact taken.cons fun _ _ step => step
    · rw [if_neg marked] at scanned
      cases scanned
      apply Takes.none
      intro near part
      rcases List.prefix_cons_iff.mp part with rfl | ⟨more, rfl, _⟩
      · rfl
      · rw [scanExponent, if_neg marked]
  · next noMark =>
    cases scanned
    apply Takes.none
    rintro near ⟨behind, rfl⟩
    unfold scanExponent
    split
    · exact (noMark _ _ rfl).elim
    · rfl

theorem exists_spelling {negative : Bool} {literal : Literal}
    (scanned : scan negative text = .ok (literal, after)) :
    ∃ spelling, spelling ++ after = text ∧ scan negative spelling = .ok (literal, []) := by
  obtain ⟨sign, _, _, wholeScanned, fractionScanned, exponentScanned⟩ := scan_eq_ok_iff.mp scanned
  obtain ⟨first, rfl, wholeSteps⟩ := takes_scanWhole wholeScanned
  obtain ⟨second, rfl, fractionSteps⟩ := takes_scanFraction fractionScanned
  obtain ⟨third, rfl, exponentSteps⟩ := takes_scanExponent exponentScanned
  have wholeAlone := wholeSteps (second ++ third) ⟨after, List.append_assoc _ _ _⟩
  have fractionAlone := fractionSteps third ⟨after, rfl⟩
  have exponentAlone := exponentSteps [] List.nil_prefix
  rw [List.append_nil] at exponentAlone
  refine ⟨first ++ (second ++ third), by simp only [List.append_assoc], ?_⟩
  exact scan_eq_ok_iff.mpr ⟨sign, _, _, wholeAlone, fractionAlone, exponentAlone⟩

end Literal

/-! ## Strings -/

theorem exists_hex {unit : Nat} (read : readHex text = .ok (unit, after)) :
    ∃ front, front ++ after = text ∧ readHex front = .ok (unit, []) := by
  unfold readHex at read
  split at read
  · next digits =>
    cases read
    refine ⟨text.take 4, List.take_append_drop 4 text, ?_⟩
    have four : (text.take 4).drop 4 = [] := by
      rw [List.drop_eq_nil_iff]
      exact List.length_take_le 4 text
    unfold readHex
    rw [List.take_take, Nat.min_self, digits, four]
  · cases read

theorem exists_escape (skipped : skipEscape text = .ok after) :
    ∃ front, front ++ after = text ∧ skipEscape front = .ok [] := by
  unfold skipEscape at skipped
  split at skipped
  · cases skipped
  · next others =>
    obtain ⟨⟨unit, left⟩, read, same⟩ := Reading.map_eq_ok.mp skipped
    cases same
    obtain ⟨front, rfl, alone⟩ := exists_hex read
    refine ⟨.char 'u' :: front, rfl, ?_⟩
    rw [skipEscape, alone]
    rfl
  · next letter others notPoint =>
    by_cases stands : (simpleEscape? letter).isSome
    · rw [if_pos stands] at skipped
      cases skipped
      obtain ⟨character, found⟩ := Option.isSome_iff_exists.mp stands
      exact ⟨[.char letter], rfl, skipEscape_letter notPoint found []⟩
    · rw [if_neg stands] at skipped
      cases skipped
  · cases skipped

theorem exists_closed (skipped : skipString text = .ok after) :
    ∃ inner, inner ++ after = text ∧ skipString inner = .ok [] := by
  fun_induction skipString text with
  | case1 => cases skipped
  | case2 others =>
    cases skipped
    exact ⟨[.char '"'], rfl, by rw [skipString]⟩
  | case3 others left escape ih =>
    obtain ⟨inner, rfl, closed⟩ := ih skipped
    obtain ⟨front, rfl, alone⟩ := exists_escape escape
    refine ⟨.char '\\' :: (front ++ inner), by simp only [List.cons_append, List.append_assoc], ?_⟩
    have passed : skipEscape (front ++ inner) = .ok inner := skipEscape_append alone
    rw [skipString, passed]
    exact closed
  | case4 => cases skipped
  | case5 => cases skipped
  | case6 symbol others notQuote notBackslash allowed ih =>
    obtain ⟨inner, rfl, closed⟩ := ih skipped
    refine ⟨symbol :: inner, rfl, ?_⟩
    rw [skipString]
    · rw [if_neg allowed]
      exact closed
    · exact notQuote
    · exact notBackslash

/-! ## Values without parts -/

theorem exists_numeral {negative : Bool} {node : Node}
    (read : ((numberNode negative text).1, (numberNode negative text).2.1) = (node, after))
    (skipped : node.skip = .ok ()) :
    ∃ spelling, (Decimal.signText negative).map .char ++ spelling ∈ node.texts ∧
      spelling ++ after = text := by
  unfold numberNode at read
  split at read
  · next literal left scanned =>
    cases read
    obtain ⟨spelling, whole, alone⟩ := Literal.exists_spelling scanned
    exact ⟨spelling, ⟨negative, spelling, literal, alone, rfl, rfl⟩, whole⟩
  · cases read
    cases skipped

theorem exists_quotation {node : Node}
    (read : ((stringNode text).1, (stringNode text).2.1) = (node, after))
    (skipped : node.skip = .ok ()) :
    ∃ inner, .char '"' :: inner ∈ node.texts ∧ inner ++ after = text := by
  unfold stringNode at read
  split at read
  · next left closed =>
    cases read
    obtain ⟨inner, rfl, alone⟩ := exists_closed closed
    exact ⟨inner, ⟨inner, alone, (readString_append alone).symm, rfl⟩, rfl⟩
  · cases read
    cases skipped

theorem eq_of_readWord {word : List Char} {left : Rest text}
    (read : readWord word text = .ok left) : word.map .char ++ left.1 = text := by
  induction word generalizing text with
  | nil =>
    cases read
    rfl
  | cons letter word ih =>
    cases text with
    | nil => cases read
    | cons symbol text =>
      rw [readWord] at read
      split at read
      · next same =>
        obtain ⟨others, found, whole⟩ := Reading.map_eq_ok.mp read
        rw [← whole]
        exact congrArg₂ List.cons same.symm (ih found)
      · cases read

theorem exists_word {node wanted : Node} {word : List Char}
    (read : ((wordNode wanted word text).1, (wordNode wanted word text).2.1) = (node, after))
    (skipped : node.skip = .ok ()) : node = wanted ∧ word.map .char ++ after = text := by
  unfold wordNode at read
  split at read
  · next left found =>
    cases read
    exact ⟨rfl, eq_of_readWord found⟩
  · cases read
    cases skipped

theorem exists_leaf {symbol : Symbol} {node : Node}
    (read : ((leafNode symbol text).1, (leafNode symbol text).2.1) = (node, after))
    (skipped : node.skip = .ok ()) : ∃ inner ∈ node.texts, inner ++ after = symbol :: text := by
  unfold leafNode at read
  split at read
  · obtain ⟨rfl, rfl⟩ := exists_word read skipped
    exact ⟨_, rfl, rfl⟩
  · obtain ⟨rfl, rfl⟩ := exists_word read skipped
    exact ⟨_, rfl, rfl⟩
  · obtain ⟨rfl, rfl⟩ := exists_word read skipped
    exact ⟨_, rfl, rfl⟩
  · obtain ⟨inner, written, rfl⟩ := exists_quotation read skipped
    exact ⟨_, written, rfl⟩
  · obtain ⟨spelling, written, rfl⟩ := exists_numeral read skipped
    exact ⟨_, written, rfl⟩
  · cases read
    cases skipped

/-! ## Trees -/

theorem exists_blank {behind : List Symbol} (found : skipSpace text = behind) :
    ∃ spaces ∈ blank, spaces ++ behind = text := by
  refine ⟨text.takeWhile isSpace, ?_, ?_⟩
  · intro symbol mem
    exact List.mem_takeWhile_imp mem
  · rw [← found]
    exact List.takeWhile_append_dropWhile

theorem exists_mark {character : Char} {behind : List Symbol}
    (found : skipSpace text = .char character :: behind) :
    ∃ part ∈ mark character, part ++ behind = text := by
  obtain ⟨spaces, blanks, rfl⟩ := exists_blank found
  refine ⟨spaces ++ [.char character], mem_mark.mpr ⟨spaces, blanks, rfl⟩, ?_⟩
  rw [List.append_assoc]
  rfl

/-- What a value that can be passed over begins with. -/
theorem nodeFrom_cases {node : Node} (read : nodeFrom text = (node, after))
    (skipped : node.skip = .ok ()) :
    (∃ others items, skipSpace text = .char '[' :: others ∧ node = .array items ∧
      firstItemFrom others = (items, after)) ∨
    (∃ others members, skipSpace text = .char '\x7b' :: others ∧ node = .object members ∧
      firstMemberFrom others = (members, after)) ∨
    ∃ inner ∈ node.texts, inner ++ after = skipSpace text := by
  rw [nodeFrom_eq] at read
  split at read
  · cases read
    cases skipped
  · next others start =>
    cases read
    exact .inl ⟨others, _, start, rfl, rfl⟩
  · next others start =>
    cases read
    exact .inr (.inl ⟨others, _, start, rfl, rfl⟩)
  · next symbol others start =>
    right
    right
    rw [start]
    split at read
    · obtain ⟨spelling, written, whole⟩ := exists_numeral read skipped
      exact ⟨spelling, written, whole⟩
    · exact exists_leaf read skipped

theorem Items.skip_next {item : Node} {items : Items}
    (skipped : (Items.next item items).skip = .ok ()) :
    item.skip = .ok () ∧ items.skip = .ok () := by
  rw [Items.skip] at skipped
  obtain ⟨_, first, others⟩ := Reading.bind_eq_ok.mp skipped
  exact ⟨first, others⟩

theorem Members.skip_next {name value : Node} {members : Members}
    (skipped : (Members.next name value members).skip = .ok ()) :
    (∃ used, name = .string used (.ok ())) ∧ value.skip = .ok () ∧ members.skip = .ok () := by
  cases name with
  | string used closed =>
    rw [Members.skip] at skipped
    obtain ⟨_, named, skipped⟩ := Reading.bind_eq_ok.mp skipped
    obtain ⟨_, first, others⟩ := Reading.bind_eq_ok.mp skipped
    exact ⟨⟨used, by rw [Reading.ofFault_eq_ok.mp named]⟩, first, others⟩
  | _ => cases skipped

theorem firstItemFrom_eq_close (read : firstItemFrom text = (.close, after)) :
    skipSpace text = .char ']' :: after := by
  rw [firstItemFrom_eq] at read
  split at read
  · cases read
  · next start =>
    cases read
    exact start
  · cases read

theorem firstItemFrom_eq_next {item : Node} {items : Items}
    (read : firstItemFrom text = (.next item items, after)) :
    ∃ middle, nodeFrom text = (item, middle) ∧ itemsFrom middle = (items, after) := by
  rw [firstItemFrom_eq] at read
  split at read
  · cases read
  · cases read
  · cases read
    exact ⟨_, rfl, rfl⟩

theorem itemsFrom_eq_close (read : itemsFrom text = (.close, after)) :
    skipSpace text = .char ']' :: after := by
  rw [itemsFrom_eq] at read
  split at read
  · cases read
  · next start =>
    cases read
    exact start
  · cases read
  · cases read

theorem itemsFrom_eq_next {item : Node} {items : Items}
    (read : itemsFrom text = (.next item items, after)) :
    ∃ others middle, skipSpace text = .char ',' :: others ∧ nodeFrom others = (item, middle) ∧
      itemsFrom middle = (items, after) := by
  rw [itemsFrom_eq] at read
  split at read
  · cases read
  · cases read
  · next others start =>
    cases read
    exact ⟨others, _, start, rfl, rfl⟩
  · cases read

theorem memberValueFrom_eq_value {value : Node} (read : memberValueFrom text = (value, after))
    (skipped : value.skip = .ok ()) :
    ∃ others, skipSpace text = .char ':' :: others ∧ nodeFrom others = (value, after) := by
  rw [memberValueFrom_eq] at read
  split at read
  · cases read
    cases skipped
  · next others start => exact ⟨others, start, read⟩
  · cases read
    cases skipped

theorem memberFrom_eq_next {name value : Node} {members : Members}
    (read : memberFrom text = (.next name value members, after)) (skipped : value.skip = .ok ()) :
    ∃ afterName others afterValue, nodeFrom text = (name, afterName) ∧
      skipSpace afterName = .char ':' :: others ∧ nodeFrom others = (value, afterValue) ∧
      membersFrom afterValue = (members, after) := by
  rw [memberFrom_eq] at read
  cases read
  obtain ⟨others, start, found⟩ := memberValueFrom_eq_value rfl skipped
  exact ⟨_, others, _, rfl, start, found, rfl⟩

theorem firstMemberFrom_eq_close (read : firstMemberFrom text = (.close, after)) :
    skipSpace text = .char '\x7d' :: after := by
  rw [firstMemberFrom_eq] at read
  split at read
  · cases read
  · next start =>
    cases read
    exact start
  · rw [memberFrom_eq] at read
    cases read

theorem firstMemberFrom_eq_next {name value : Node} {members : Members}
    (read : firstMemberFrom text = (.next name value members, after)) :
    memberFrom text = (.next name value members, after) := by
  rw [firstMemberFrom_eq] at read
  split at read
  · cases read
  · cases read
  · exact read

theorem membersFrom_eq_close (read : membersFrom text = (.close, after)) :
    skipSpace text = .char '\x7d' :: after := by
  rw [membersFrom_eq] at read
  split at read
  · cases read
  · next start =>
    cases read
    exact start
  · rw [memberFrom_eq] at read
    cases read
  · cases read

theorem membersFrom_eq_next {name value : Node} {members : Members}
    (read : membersFrom text = (.next name value members, after)) :
    ∃ others, skipSpace text = .char ',' :: others ∧
      memberFrom others = (.next name value members, after) := by
  rw [membersFrom_eq] at read
  split at read
  · cases read
  · cases read
  · next others start => exact ⟨others, start, read⟩
  · cases read

theorem exists_behind_blank {node : Node}
    (found : ∃ inner ∈ node.texts, inner ++ after = skipSpace text) :
    ∃ spaces ∈ blank, ∃ inner ∈ node.texts, spaces ++ (inner ++ after) = text := by
  obtain ⟨inner, written, whole⟩ := found
  obtain ⟨spaces, blanks, same⟩ := exists_blank whole.symm
  exact ⟨spaces, blanks, inner, written, same⟩

theorem exists_mem_entry {name value : Node} {members : Members}
    {afterName others afterValue front : List Symbol} {opening : Language Symbol}
    (opens : front ∈ opening) {used : Except Fault String} (stands : name = .string used (.ok ()))
    (named : ∃ inner ∈ name.texts, inner ++ afterName = skipSpace text)
    (colon : skipSpace afterName = .char ':' :: others)
    (valued : ∃ inner ∈ value.texts, inner ++ afterValue = skipSpace others)
    (behind : ∃ inner ∈ members.texts, inner ++ after = afterValue) :
    ∃ inner ∈ opening * entry name.names value.texts * members.texts,
      inner ++ after = front ++ text := by
  subst stands
  obtain ⟨spaces, blanks, key, keyWritten, rfl⟩ := exists_behind_blank named
  obtain ⟨part, marked, rfl⟩ := exists_mark colon
  obtain ⟨gap, gapBlanks, content, contentWritten, rfl⟩ := exists_behind_blank valued
  obtain ⟨more, moreWritten, rfl⟩ := behind
  refine ⟨_, mem_members.mpr ⟨front, opens, spaces, blanks, key, keyWritten, part, marked, gap,
    gapBlanks, content, contentWritten, more, moreWritten, rfl⟩, ?_⟩
  simp only [List.append_assoc]

mutual

/-- A value that can be passed over takes up one of its texts. -/
theorem exists_mem_texts : (node : Node) → {text after : List Symbol} →
    nodeFrom text = (node, after) → node.skip = .ok () →
    ∃ inner ∈ node.texts, inner ++ after = skipSpace text
  | .array items, _, _, read, skipped => by
    obtain ⟨others, _, start, same, first⟩ | ⟨_, _, _, same, _⟩ | leaf :=
      nodeFrom_cases read skipped
    · cases same
      rw [start]
      exact exists_mem_firstItems items first skipped
    · cases same
    · exact leaf
  | .object members, _, _, read, skipped => by
    obtain ⟨_, _, _, same, _⟩ | ⟨others, _, start, same, first⟩ | leaf :=
      nodeFrom_cases read skipped
    · cases same
    · cases same
      rw [start]
      exact exists_mem_firstMembers members first skipped
    · exact leaf
  | .null, _, _, read, skipped | .boolean _, _, _, read, skipped
  | .number _ _, _, _, read, skipped | .string _ _, _, _, read, skipped
  | .broken _, _, _, read, skipped | .absent, _, _, read, skipped => by
    obtain ⟨_, _, _, same, _⟩ | ⟨_, _, _, same, _⟩ | leaf := nodeFrom_cases read skipped
    · cases same
    · cases same
    · exact leaf

theorem exists_mem_firstItems : (items : Items) → {text after : List Symbol} →
    firstItemFrom text = (items, after) → items.skip = .ok () →
    ∃ inner ∈ (Node.array items).texts, inner ++ after = .char '[' :: text
  | .close, _, _, read, _ => by
    obtain ⟨part, marked, rfl⟩ := exists_mark (firstItemFrom_eq_close read)
    exact ⟨_, Language.mem_mul.mpr ⟨_, rfl, part, marked, rfl⟩, rfl⟩
  | .cut _, _, _, _, skipped => by cases skipped
  | .next item items, _, _, read, skipped => by
    obtain ⟨middle, found, behind⟩ := firstItemFrom_eq_next read
    obtain ⟨first, others⟩ := Items.skip_next skipped
    obtain ⟨spaces, blanks, inner, written, rfl⟩ :=
      exists_behind_blank (exists_mem_texts item found first)
    obtain ⟨more, moreWritten, rfl⟩ := exists_mem_items items behind others
    refine ⟨_, mem_items.mpr ⟨_, rfl, spaces, blanks, inner, written, more, moreWritten, rfl⟩, ?_⟩
    simp only [List.append_assoc]
    rfl

theorem exists_mem_items : (items : Items) → {text after : List Symbol} →
    itemsFrom text = (items, after) → items.skip = .ok () →
    ∃ inner ∈ items.texts, inner ++ after = text
  | .close, _, _, read, _ => exists_mark (itemsFrom_eq_close read)
  | .cut _, _, _, _, skipped => by cases skipped
  | .next item items, _, _, read, skipped => by
    obtain ⟨text, middle, start, found, behind⟩ := itemsFrom_eq_next read
    obtain ⟨comma, marked, rfl⟩ := exists_mark start
    obtain ⟨first, others⟩ := Items.skip_next skipped
    obtain ⟨spaces, blanks, inner, written, rfl⟩ :=
      exists_behind_blank (exists_mem_texts item found first)
    obtain ⟨more, moreWritten, rfl⟩ := exists_mem_items items behind others
    refine ⟨_, mem_items.mpr ⟨_, marked, spaces, blanks, inner, written, more, moreWritten,
      rfl⟩, ?_⟩
    simp only [List.append_assoc]

theorem exists_mem_firstMembers : (members : Members) → {text after : List Symbol} →
    firstMemberFrom text = (members, after) → members.skip = .ok () →
    ∃ inner ∈ (Node.object members).texts, inner ++ after = .char '\x7b' :: text
  | .close, _, _, read, _ => by
    obtain ⟨part, marked, rfl⟩ := exists_mark (firstMemberFrom_eq_close read)
    exact ⟨_, Language.mem_mul.mpr ⟨_, rfl, part, marked, rfl⟩, rfl⟩
  | .cut _, _, _, _, skipped => by cases skipped
  | .next name value members, _, _, read, skipped => by
    obtain ⟨⟨used, stands⟩, first, others⟩ := Members.skip_next skipped
    obtain ⟨_, _, _, nameRead, colon, valueRead, behind⟩ :=
      memberFrom_eq_next (firstMemberFrom_eq_next read) first
    have nameSkipped : name.skip = .ok () := by
      rw [stands]
      rfl
    have opens : [.char '\x7b'] ∈ word ['\x7b'] := rfl
    exact exists_mem_entry opens stands (exists_mem_texts name nameRead nameSkipped) colon
      (exists_mem_texts value valueRead first) (exists_mem_members members behind others)

theorem exists_mem_members : (members : Members) → {text after : List Symbol} →
    membersFrom text = (members, after) → members.skip = .ok () →
    ∃ inner ∈ members.texts, inner ++ after = text
  | .close, _, _, read, _ => exists_mark (membersFrom_eq_close read)
  | .cut _, _, _, _, skipped => by cases skipped
  | .next name value members, _, _, read, skipped => by
    obtain ⟨⟨used, stands⟩, first, others⟩ := Members.skip_next skipped
    obtain ⟨_, start, found⟩ := membersFrom_eq_next read
    obtain ⟨_, _, _, nameRead, colon, valueRead, behind⟩ := memberFrom_eq_next found first
    have nameSkipped : name.skip = .ok () := by
      rw [stands]
      rfl
    obtain ⟨comma, marked, rfl⟩ := exists_mark start
    exact exists_mem_entry marked stands (exists_mem_texts name nameRead nameSkipped) colon
      (exists_mem_texts value valueRead first) (exists_mem_members members behind others)

end

/-- The documents of a tree are the texts that are read as this tree to their end, if it can be
passed over. -/
theorem mem_documents_iff {node : Node} :
    text ∈ node.documents ↔ Document.read text = ⟨node, true⟩ ∧ node.skip = .ok () := by
  constructor
  · intro written
    have valid : node.IsValid := by
      obtain ⟨_, ⟨_, _, inner, spelled, _⟩, _⟩ := written
      exact ⟨inner, spelled⟩
    exact ⟨Document.read_of_mem_documents written, valid.skip⟩
  · rintro ⟨read, skipped⟩
    rw [Document.read, Document.mk.injEq, List.isEmpty_iff] at read
    obtain ⟨root, ended⟩ := read
    have found : nodeFrom text = (node, (nodeFrom text).2) := by
      rw [← root]
      rfl
    have behind : (nodeFrom text).2 ∈ blank := List.dropWhile_eq_nil_iff.mp ended
    obtain ⟨spaces, blanks, inner, written, whole⟩ :=
      exists_behind_blank (exists_mem_texts node found skipped)
    have front : spaces ++ inner ∈ blank * node.texts :=
      Language.mem_mul.mpr ⟨spaces, blanks, inner, written, rfl⟩
    refine Language.mem_mul.mpr ⟨_, front, _, behind, ?_⟩
    rw [List.append_assoc]
    exact whole

end Geocoding.Json
