import Geocoding.Json.Node
import Geocoding.Json.Value

/-!
# The parts of a JSON text

Each part of a text is read from where it begins and gives what follows it.  What is read
is stated here without the bounds on the rest of the text that make the reading end, and
the space between the parts is left out.
-/

namespace Geocoding.Json

open Text (Symbol)

/-! ## Reading without bounds -/

/-- What is read at the start of a text, and the text behind it. -/
def nodeFrom (text : List Symbol) : Node × List Symbol :=
  ((readNode text).1, (readNode text).2.1)

def firstItemFrom (text : List Symbol) : Items × List Symbol :=
  ((readFirstItem text).1, (readFirstItem text).2.1)

def itemsFrom (text : List Symbol) : Items × List Symbol :=
  ((readItems text).1, (readItems text).2.1)

def firstMemberFrom (text : List Symbol) : Members × List Symbol :=
  ((readFirstMember text).1, (readFirstMember text).2.1)

def memberFrom (text : List Symbol) : Members × List Symbol :=
  ((readMember text).1, (readMember text).2.1)

def memberValueFrom (text : List Symbol) : Node × List Symbol :=
  ((readMemberValue text).1, (readMemberValue text).2.1)

def membersFrom (text : List Symbol) : Members × List Symbol :=
  ((readMembers text).1, (readMembers text).2.1)

theorem nodeFrom_eq (text : List Symbol) :
    nodeFrom text =
      match skipSpace text with
      | [] => (.absent, [])
      | .char '[' :: rest => (.array (firstItemFrom rest).1, (firstItemFrom rest).2)
      | .char '\x7b' :: rest => (.object (firstMemberFrom rest).1, (firstMemberFrom rest).2)
      | symbol :: rest =>
        if (digit? symbol).isSome then
          ((numberNode false (symbol :: rest)).1, (numberNode false (symbol :: rest)).2.1)
        else ((leafNode symbol rest).1, (leafNode symbol rest).2.1) := by
  unfold nodeFrom firstItemFrom firstMemberFrom
  rw [readNode]
  split
  · next start => simp [start, Rest.none]
  · next start => simp [start]
  · next start => simp [start]
  · next noArray noObject start =>
    simp only [start]
    split <;> rfl

theorem firstItemFrom_eq (text : List Symbol) :
    firstItemFrom text =
      match skipSpace text with
      | [] => (.cut .truncated, [])
      | .char ']' :: rest => (.close, rest)
      | _ :: _ =>
        (.next (nodeFrom text).1 (itemsFrom (nodeFrom text).2).1,
          (itemsFrom (nodeFrom text).2).2) := by
  unfold firstItemFrom nodeFrom itemsFrom
  rw [readFirstItem]
  split
  · next start => simp [start, Rest.none]
  · next start => simp [start]
  · next start => simp [start]

theorem itemsFrom_eq (text : List Symbol) :
    itemsFrom text =
      match skipSpace text with
      | [] => (.cut .truncated, [])
      | .char ']' :: rest => (.close, rest)
      | .char ',' :: rest =>
        (.next (nodeFrom rest).1 (itemsFrom (nodeFrom rest).2).1, (itemsFrom (nodeFrom rest).2).2)
      | _ :: _ => (.cut .malformed, []) := by
  unfold nodeFrom
  rw [itemsFrom, readItems]
  split
  · next start => simp [start, Rest.none]
  · next start => simp [start]
  · next start => simp [start, itemsFrom]
  · next start => simp [start, Rest.none]

theorem firstMemberFrom_eq (text : List Symbol) :
    firstMemberFrom text =
      match skipSpace text with
      | [] => (.cut .truncated, [])
      | .char '\x7d' :: rest => (.close, rest)
      | _ :: _ => memberFrom text := by
  unfold firstMemberFrom memberFrom
  rw [readFirstMember]
  split
  · next start => simp [start, Rest.none]
  · next start => simp [start]
  · next start => simp [start]

theorem memberFrom_eq (text : List Symbol) :
    memberFrom text =
      let (name, afterName) := nodeFrom text
      let (value, afterValue) := memberValueFrom afterName
      let (members, after) := membersFrom afterValue
      (.next name value members, after) := by
  unfold memberFrom nodeFrom memberValueFrom membersFrom
  rw [readMember]

theorem memberValueFrom_eq (text : List Symbol) :
    memberValueFrom text =
      match skipSpace text with
      | [] => (.absent, [])
      | .char ':' :: rest => nodeFrom rest
      | _ :: _ => (.broken .malformed, []) := by
  unfold memberValueFrom nodeFrom
  rw [readMemberValue]
  split
  · next start => simp [start, Rest.none]
  · next start => simp [start]
  · next start => simp [start, Rest.none]

theorem membersFrom_eq (text : List Symbol) :
    membersFrom text =
      match skipSpace text with
      | [] => (.cut .truncated, [])
      | .char '\x7d' :: rest => (.close, rest)
      | .char ',' :: rest => memberFrom rest
      | _ :: _ => (.cut .malformed, []) := by
  unfold membersFrom memberFrom
  rw [readMembers]
  split
  · next start => simp [start, Rest.none]
  · next start => simp [start]
  · next start => simp [start]
  · next start => simp [start, Rest.none]

/-! ## Space between the parts -/

theorem skipSpace_append {blank : List Symbol} (spaces : ∀ symbol ∈ blank, isSpace symbol = true)
    (text : List Symbol) : skipSpace (blank ++ text) = skipSpace text := by
  rw [skipSpace, List.dropWhile_append_of_pos spaces]
  rfl

theorem skipSpace_cons {symbol : Symbol} (part : isSpace symbol = false) (rest : List Symbol) :
    skipSpace (symbol :: rest) = symbol :: rest :=
  List.dropWhile_cons_of_neg (by simp [part])

theorem isSpace_of_mem_lineBreak {style : Style} {level : Nat} :
    ∀ symbol ∈ (style.lineBreak level).map Symbol.char, isSpace symbol = true := by
  intro symbol mem
  cases style with
  | compact => cases mem
  | pretty =>
    simp only [Style.lineBreak, List.map_cons, List.map_replicate, List.mem_cons,
      List.mem_replicate] at mem
    rcases mem with rfl | ⟨_, rfl⟩ <;> decide

@[simp]
theorem skipSpace_lineBreak (style : Style) (level : Nat) (text : List Symbol) :
    skipSpace ((style.lineBreak level).map .char ++ text) = skipSpace text :=
  skipSpace_append isSpace_of_mem_lineBreak text

theorem nodeFrom_congr {first second : List Symbol} (same : skipSpace first = skipSpace second) :
    nodeFrom first = nodeFrom second := by
  rw [nodeFrom_eq, nodeFrom_eq, same]

@[simp]
theorem nodeFrom_lineBreak (style : Style) (level : Nat) (text : List Symbol) :
    nodeFrom ((style.lineBreak level).map .char ++ text) = nodeFrom text :=
  nodeFrom_congr (skipSpace_lineBreak style level text)

theorem memberValueFrom_colon (style : Style) (text : List Symbol) :
    memberValueFrom (style.colon.map .char ++ text) = nodeFrom text := by
  cases style with
  | compact =>
    simp only [Style.colon, List.map_cons, List.map_nil, List.cons_append, List.nil_append]
    rw [memberValueFrom_eq, skipSpace_cons (by decide)]
    rfl
  | pretty =>
    simp only [Style.colon, List.map_cons, List.map_nil, List.cons_append, List.nil_append]
    rw [memberValueFrom_eq, skipSpace_cons (by decide)]
    have blank : ∀ symbol ∈ [Symbol.char ' '], isSpace symbol = true := by decide
    exact nodeFrom_congr (skipSpace_append blank text)

end Geocoding.Json
