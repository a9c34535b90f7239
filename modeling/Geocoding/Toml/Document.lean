import Geocoding.Toml.Scalar

/-!
# TOML documents

A document is a list of lines, each of which gives a key its value, opens a table
by its header, or holds nothing but a comment.  Arrays and inline tables nest
inside values; only arrays may go on over the end of a line.
-/

namespace Geocoding.Toml

/-- How many values may stand inside one another, and how many parts a key may have. -/
def nestingLimit : Nat := 79

def skipComment : List Char → Option (List Char)
  | '#' :: rest =>
    let after := rest.dropWhile isPlain
    match after with
    | [] => some []
    | _ => if (skipLineEnd? after).isSome then some after else none
  | text => some text

/-- The text of the next line, when nothing but blanks and a comment is left on this one. -/
def finishLine? (text : List Char) : Option (List Char) := do
  match ← skipComment (skipBlanks text) with
  | [] => return []
  | rest => skipLineEnd? rest

/-- The text behind blanks, comments and line ends.  `fuel` bounds the lines passed over. -/
def skipLines : (fuel : Nat) → List Char → Option (List Char)
  | 0, _ => none
  | fuel + 1, text => do
      let rest ← skipComment (skipBlanks text)
      match skipLineEnd? rest with
      | some after => skipLines fuel after
      | none => return rest

mutual

/-- Reads a value.  `depth` bounds how many values may stand inside it, `fuel` how
much text may be read. -/
def value? : (fuel depth : Nat) → List Char → Option (Value × List Char)
  | 0, _, _ => none
  | fuel + 1, depth, text =>
    match text with
    | '[' :: rest =>
      match depth with
      | 0 => none
      | depth + 1 => do
        let (items, rest) ← items? fuel depth rest
        return (.array items, rest)
    | '\x7b' :: rest =>
      match depth with
      | 0 => none
      | depth + 1 => do
        match skipBlanks rest with
        | '\x7d' :: rest => return (.inlineTable [], rest)
        | rest =>
          let (entries, rest) ← inlineEntries? fuel depth [] rest
          return (.inlineTable entries, rest)
    | '"' :: _ | '\x27' :: _ => do
        let (content, rest) ← string? text
        return (.string content, rest)
    | _ => scalar? text

def items? : (fuel depth : Nat) → List Char → Option (List Value × List Char)
  | 0, _, _ => none
  | fuel + 1, depth, text => do
      match ← skipLines (fuel + 1) text with
      | ']' :: rest => return ([], rest)
      | start =>
        let (item, rest) ← value? fuel depth start
        match ← skipLines (fuel + 1) rest with
        | ']' :: rest => return ([item], rest)
        | ',' :: rest =>
          let (others, rest) ← items? fuel depth rest
          return (item :: others, rest)
        | _ => none

def inlineEntries? :
    (fuel depth : Nat) → Entries → List Char → Option (Entries × List Char)
  | 0, _, _, _ => none
  | fuel + 1, depth, entries, text => do
      let (path, rest) ← key? nestingLimit text
      match rest with
      | '=' :: rest =>
        let (value, rest) ← value? fuel depth (skipBlanks rest)
        let key ← path.getLast?
        let entries ← Entries.insert path.dropLast key value entries
        match skipBlanks rest with
        | '\x7d' :: rest => return (entries, rest)
        | ',' :: rest => inlineEntries? fuel depth entries rest
        | _ => none
      | _ => none

end

/-- A document while it is read: its tables, and the path of the table that keys go into. -/
structure Draft where
  root : Entries := []
  path : List Key := []

namespace Draft

def openAt (draft : Draft) (path : List Key) (start : Key → Entries → Option Entries) :
    Option Draft := do
  let key ← path.getLast?
  let root ← Entries.updateAt false (fun _ => start key) false path.dropLast draft.root
  return { root, path }

def insert (draft : Draft) (path : List Key) (value : Value) : Option Draft := do
  let key ← path.getLast?
  let root ← Entries.updateAt false (fun _ => Entries.insert path.dropLast key value) false
    draft.path draft.root
  return { draft with root }

def line? (draft : Draft) (fuel : Nat) (text : List Char) : Option (Draft × List Char) :=
  match text with
  | '[' :: '[' :: rest => do
      let (path, rest) ← key? nestingLimit rest
      match rest with
      | ']' :: ']' :: rest => return (← draft.openAt path Entries.openElement, ← finishLine? rest)
      | _ => none
  | '[' :: rest => do
      let (path, rest) ← key? nestingLimit rest
      match rest with
      | ']' :: rest => return (← draft.openAt path Entries.openTable, ← finishLine? rest)
      | _ => none
  | text => do
      let (path, rest) ← key? nestingLimit text
      match rest with
      | '=' :: rest =>
        let (value, rest) ← value? fuel nestingLimit (skipBlanks rest)
        return (← draft.insert path value, ← finishLine? rest)
      | _ => none

def lines? : (fuel : Nat) → Draft → List Char → Option Draft
  | 0, _, _ => none
  | fuel + 1, draft, text => do
      match ← skipLines (fuel + 1) text with
      | [] => return draft
      | text =>
        let (draft, rest) ← draft.line? fuel text
        draft.lines? fuel rest

end Draft

/-- The tables of a document.  A mark of byte order in front of it is passed over. -/
def read? (text : List Char) : Option Entries :=
  let content :=
    match text with
    | '\ufeff' :: rest => rest
    | text => text
  (Draft.lines? (2 * content.length + 2) {} content).map Draft.root

end Geocoding.Toml
