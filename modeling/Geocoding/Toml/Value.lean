/-!
# TOML tables

A document is a table of tables.  A table comes about in one of several ways, and
which keys and headers may still add to it depends on how it did: a header opens
a table once, a dotted key only goes through tables that no header has opened,
and an inline table is closed for good.
-/

namespace Geocoding.Toml

inductive Origin
  | header
  /-- Passed through by the header of a table inside it. -/
  | implied
  /-- Passed through by a dotted key. -/
  | dotted
deriving DecidableEq, Repr

/-- A value of a document. -/
inductive Value
  | string (text : List Char)
  | integer (value : Int)
  | float (value : Float)
  | boolean (value : Bool)
  /-- A date, a time or both, as written. -/
  | dateTime (text : List Char)
  | array (items : List Value)
  /-- A table between braces. -/
  | inlineTable (entries : List (List Char × Value))
  | table (origin : Origin) (entries : List (List Char × Value))
  /-- The tables that share a doubled header. -/
  | tables (elements : List (List (List Char × Value)))

abbrev Key := List Char

/-- The keys of a table with their values, in the order in which they were added. -/
abbrev Entries := List (Key × Value)

namespace Entries

def find? (entries : Entries) (key : Key) : Option Value :=
  (List.find? (fun entry => entry.1 = key) entries).map Prod.snd

def set (entries : Entries) (key : Key) (value : Value) : Entries :=
  if (entries.find? key).isSome then
    entries.map fun entry => if entry.1 = key then (key, value) else entry
  else entries ++ [(key, value)]

/-- Changes the table that a path leads to.  Tables on the way that do not exist
yet are made.  `change` is told whether the last of them came about by a dotted key. -/
def updateAt (byDottedKey : Bool) (change : Bool → Entries → Option Entries) :
    (isDotted : Bool) → (path : List Key) → Entries → Option Entries
  | isDotted, [], entries => change isDotted entries
  | _, key :: path, entries =>
    match entries.find? key with
    | none => do
        let inner ← updateAt byDottedKey change byDottedKey path []
        return entries.set key (.table (if byDottedKey then .dotted else .implied) inner)
    | some (.table origin inner) => do
        if byDottedKey && origin = .header then none
        let inner ← updateAt byDottedKey change (origin = .dotted) path inner
        return entries.set key (.table origin inner)
    | some (.tables elements) => do
        let last ← elements.getLast?
        let last ← updateAt byDottedKey change false path last
        return entries.set key (.tables (elements.dropLast ++ [last]))
    | some _ => none

/-- Adds a key that is not there yet.  A key given by a path of several parts
goes into a table that came about by such a key, and no other key does. -/
def insertLast (path : List Key) (key : Key) (value : Value) (isDotted : Bool)
    (entries : Entries) : Option Entries :=
  if isDotted = path.isEmpty ∨ (entries.find? key).isSome then none
  else some (entries ++ [(key, value)])

def insert (path : List Key) (key : Key) (value : Value) (entries : Entries) : Option Entries :=
  updateAt true (insertLast path key value) false path entries

/-- Opens the table of a header, which must not be there yet unless it is implied. -/
def openTable (key : Key) (entries : Entries) : Option Entries :=
  match entries.find? key with
  | none => some (entries ++ [(key, .table .header [])])
  | some (.table .implied inner) => some (entries.set key (.table .header inner))
  | some _ => none

def openElement (key : Key) (entries : Entries) : Option Entries :=
  match entries.find? key with
  | none => some (entries ++ [(key, .tables [[]])])
  | some (.tables elements) => some (entries.set key (.tables (elements ++ [[]])))
  | some _ => none

end Entries

end Geocoding.Toml
