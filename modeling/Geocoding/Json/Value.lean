import Geocoding.Json.Quotation

/-!
# Writing JSON

A value is written either on one line or with one member or item a line.  Both
styles differ only in the space they put between the parts.
-/

namespace Geocoding.Json

mutual

inductive Value
  | null
  | string (text : String)
  | count (number : Nat)
  | double (number : Float)
  | single (number : Float32)
  | array (items : Values)
  | object (entries : Entries)

inductive Values
  | nil
  | cons (head : Value) (tail : Values)

inductive Entries
  | nil
  | cons (name : String) (value : Value) (tail : Entries)

end

def Values.ofList : List Value → Values
  | [] => .nil
  | head :: tail => .cons head (ofList tail)

inductive Style
  | compact
  /-- One item or member a line, indented by two blanks for each level. -/
  | pretty
deriving DecidableEq, Repr

/-- What stands in front of a part at the given level. -/
def Style.lineBreak : Style → Nat → List Char
  | compact, _ => []
  | pretty, level => '\n' :: List.replicate (2 * level) ' '

def Style.colon : Style → List Char
  | compact => [':']
  | pretty => [':', ' ']

/-- A double, or `null` for one that is no number or infinite. -/
def writeDouble (number : Float) : List Char :=
  if number.isFinite then Decimal.writeDouble number else ['n', 'u', 'l', 'l']

def writeSingle (number : Float32) : List Char :=
  if number.isFinite then Decimal.writeSingle number else ['n', 'u', 'l', 'l']

mutual

def Value.write (style : Style) (level : Nat) : Value → List Char
  | .null => ['n', 'u', 'l', 'l']
  | .string text => writeString text
  | .count number => Nat.toDigits 10 number
  | .double number => writeDouble number
  | .single number => writeSingle number
  | .array .nil => ['[', ']']
  | .array (.cons head tail) =>
      '[' :: style.lineBreak (level + 1) ++ head.write style (level + 1)
        ++ tail.write style (level + 1) ++ style.lineBreak level ++ [']']
  | .object .nil => ['\x7b', '\x7d']
  | .object (.cons name value tail) =>
      '\x7b' :: style.lineBreak (level + 1) ++ writeString name ++ style.colon
        ++ value.write style (level + 1) ++ tail.write style (level + 1)
        ++ style.lineBreak level ++ ['\x7d']

/-- The items behind the first one of an array. -/
def Values.write (style : Style) (level : Nat) : Values → List Char
  | .nil => []
  | .cons head tail =>
      ',' :: style.lineBreak level ++ head.write style level ++ tail.write style level

def Entries.write (style : Style) (level : Nat) : Entries → List Char
  | .nil => []
  | .cons name value tail =>
      ',' :: style.lineBreak level ++ writeString name ++ style.colon
        ++ value.write style level ++ tail.write style level

end

def Value.text (style : Style) (value : Value) : String :=
  String.ofList (value.write style 0)

end Geocoding.Json
