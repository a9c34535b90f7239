import Geocoding.Json.Quotation

/-!
# JSON texts as far as they can be read

A text is read into a tree once, before it is known what the tree is wanted for.
Where the text breaks off the tree ends in a fault, so a reader that walks the
tree in text order meets the first trouble of the text first.  Strings and
numbers keep apart what a reader that uses them sees and what one that passes
over them sees.
-/

namespace Geocoding.Json

open Text (Symbol)

mutual

/-- A value, or what stands in place of one. -/
inductive Node
  | null
  | boolean (value : Bool)
  /-- A number, with its value for a reader that uses it.  If the literal breaks
  off there is a fault for every reader. -/
  | number (used : Except Fault Number) (skipped : Except Fault Unit)
  /-- A string, with its characters for a reader that uses it. -/
  | string (used : Except Fault String) (skipped : Except Fault Unit)
  | array (items : Items)
  | object (members : Members)
  /-- Something else than a value. -/
  | broken (fault : Fault)
  /-- The end of the text. -/
  | absent

/-- The values of an array, or what is left of them. -/
inductive Items
  | close
  /-- Neither a comma nor the closing bracket. -/
  | cut (fault : Fault)
  | next (item : Node) (rest : Items)

/-- The members of an object, or what is left of them.  In the place of a name
any node may stand. -/
inductive Members
  | close
  /-- Neither a comma nor the closing brace. -/
  | cut (fault : Fault)
  | next (name : Node) (value : Node) (rest : Members)

end

def isSpace (symbol : Symbol) : Bool :=
  symbol == .char ' ' || symbol == .char '\n' || symbol == .char '\r' || symbol == .char '\t'

def skipSpace (text : List Symbol) : List Symbol :=
  text.dropWhile isSpace

theorem length_skipSpace_le (text : List Symbol) : (skipSpace text).length ≤ text.length :=
  (List.dropWhile_sublist _).length_le

/-- Part of a text from which nothing but its beginning has been read. -/
abbrev Rest (text : List Symbol) : Type :=
  { rest : List Symbol // rest.length ≤ text.length }

def Rest.none (text : List Symbol) : Rest text := ⟨[], Nat.zero_le _⟩

def readWord : (word : List Char) → (text : List Symbol) → Except Fault (Rest text)
  | [], text => .ok ⟨text, Nat.le_refl _⟩
  | _ :: _, [] => .error .truncated
  | letter :: word, symbol :: rest =>
    if symbol = .char letter then
      (readWord word rest).map fun after => ⟨after.1, Nat.le_succ_of_le after.2⟩
    else .error .malformed

def wordNode (node : Node) (word : List Char) (text : List Symbol) : Node × Rest text :=
  match readWord word text with
  | .ok rest => (node, rest)
  | .error fault => (.broken fault, .none text)

/-- The node of a number whose sign has been read, and what follows it.  A reader
that passes over a literal does not tell whether the text ends in it. -/
def numberNode (negative : Bool) (text : List Symbol) : Node × Rest text :=
  match scanned : Literal.scan negative text with
  | .ok (literal, rest) =>
      (.number literal.value (.ok ()), ⟨rest, Literal.length_scan_le scanned⟩)
  | .error fault => (.number (.error fault) (.error .malformed), .none text)

def stringNode (text : List Symbol) : Node × Rest text :=
  match skipped : skipString text with
  | .ok rest =>
      (.string (readString text) (.ok ()), ⟨rest, Nat.le_of_lt (length_skipString_lt skipped)⟩)
  | .error fault => (.string (readString text) (.error fault), .none text)

def leafNode (symbol : Symbol) (text : List Symbol) : Node × Rest text :=
  match symbol with
  | .char 'n' => wordNode .null ['u', 'l', 'l'] text
  | .char 't' => wordNode (.boolean true) ['r', 'u', 'e'] text
  | .char 'f' => wordNode (.boolean false) ['a', 'l', 's', 'e'] text
  | .char '"' => stringNode text
  | .char '-' => numberNode true text
  | _ => (.broken .malformed, .none text)

mutual

def readNode (text : List Symbol) : Node × Rest text :=
  match start : skipSpace text with
  | [] => (.absent, .none text)
  | .char '[' :: rest =>
      have := length_skipSpace_le text
      let (items, after) := readFirstItem rest
      (.array items, ⟨after.1, by grind⟩)
  | .char '\x7b' :: rest =>
      have := length_skipSpace_le text
      let (members, after) := readFirstMember rest
      (.object members, ⟨after.1, by grind⟩)
  | symbol :: rest =>
      have := length_skipSpace_le text
      if (digit? symbol).isSome then
        let (node, after) := numberNode false (symbol :: rest)
        (node, ⟨after.1, by grind⟩)
      else
        let (node, after) := leafNode symbol rest
        (node, ⟨after.1, by grind⟩)
termination_by 4 * text.length
decreasing_by all_goals grind

def readFirstItem (text : List Symbol) : Items × Rest text :=
  match start : skipSpace text with
  | [] => (.cut .truncated, .none text)
  | .char ']' :: rest => (.close, ⟨rest, by have := length_skipSpace_le text; grind⟩)
  | _ :: _ =>
      let (item, afterItem) := readNode text
      let (items, after) := readItems afterItem.1
      (.next item items, ⟨after.1, Nat.le_trans after.2 afterItem.2⟩)
termination_by 4 * text.length + 2
decreasing_by all_goals grind

def readItems (text : List Symbol) : Items × Rest text :=
  match start : skipSpace text with
  | [] => (.cut .truncated, .none text)
  | .char ']' :: rest => (.close, ⟨rest, by have := length_skipSpace_le text; grind⟩)
  | .char ',' :: rest =>
      have := length_skipSpace_le text
      let (item, afterItem) := readNode rest
      let (items, after) := readItems afterItem.1
      (.next item items, ⟨after.1, by grind⟩)
  | _ :: _ => (.cut .malformed, .none text)
termination_by 4 * text.length + 1
decreasing_by all_goals grind

def readFirstMember (text : List Symbol) : Members × Rest text :=
  match start : skipSpace text with
  | [] => (.cut .truncated, .none text)
  | .char '\x7d' :: rest => (.close, ⟨rest, by have := length_skipSpace_le text; grind⟩)
  | _ :: _ => readMember text
termination_by 4 * text.length + 3
decreasing_by all_goals grind

def readMember (text : List Symbol) : Members × Rest text :=
  let (name, afterName) := readNode text
  let (value, afterValue) := readMemberValue afterName.1
  let (members, after) := readMembers afterValue.1
  (.next name value members, ⟨after.1, by grind⟩)
termination_by 4 * text.length + 2
decreasing_by all_goals grind

def readMemberValue (text : List Symbol) : Node × Rest text :=
  match start : skipSpace text with
  | [] => (.absent, .none text)
  | .char ':' :: rest =>
      have := length_skipSpace_le text
      let (value, after) := readNode rest
      (value, ⟨after.1, by grind⟩)
  | _ :: _ => (.broken .malformed, .none text)
termination_by 4 * text.length + 1
decreasing_by all_goals grind

def readMembers (text : List Symbol) : Members × Rest text :=
  match start : skipSpace text with
  | [] => (.cut .truncated, .none text)
  | .char '\x7d' :: rest => (.close, ⟨rest, by have := length_skipSpace_le text; grind⟩)
  | .char ',' :: rest =>
      have := length_skipSpace_le text
      let (members, after) := readMember rest
      (members, ⟨after.1, by grind⟩)
  | _ :: _ => (.cut .malformed, .none text)
termination_by 4 * text.length + 1
decreasing_by all_goals grind

end

/-- A whole text: its value, and whether anything but space follows it. -/
structure Document where
  root : Node
  complete : Bool

def Document.read (text : List Symbol) : Document :=
  let (root, rest) := readNode text
  { root, complete := (skipSpace rest.1).isEmpty }

end Geocoding.Json
