import Geocoding.Text.Symbol

/-!
# Files

The files a program can see, each at its place.  A place is told by the parts of
a path that leads there without detours, from the directory the program runs in
or from the root.  What lies above that directory is seen only if it is listed.
-/

namespace Geocoding

inductive FileEntry
  | file (content : List UInt8)
  | directory
deriving DecidableEq, Repr

inductive FileError
  | notFound
  | notADirectory
  | isADirectory
  | invalidData
deriving DecidableEq, Repr

/-- The files a program can see, by their places. -/
structure Files where
  entries : List (List String × FileEntry)

namespace Files

def root : String := "/"

def above : String := ".."

def parts (path : String) : List String :=
  let names := (path.toList.splitOn '/').map String.ofList
  if path.startsWith root then root :: names else names

/-- The place that one more part of a path leads to.  Nothing lies above the root. -/
def step (place : List String) (part : String) : List String :=
  if part = "" ∨ part = "." then place
  else if part ≠ above then place ++ [part]
  else if place = [root] then place
  else if place.all (· = above) then place ++ [above]
  else place.dropLast

def place (parts : List String) : List String :=
  parts.foldl step []

/-- The files under some paths, and the directories that lead to them. -/
def ofList (named : List (String × FileEntry)) : Files where
  entries := named.flatMap fun (path, entry) =>
    let parts := parts path
    ((List.range parts.length).map fun length => (place (parts.take length), .directory))
      ++ [(place parts, entry)]

/-- The entry at a place.  The root and what lies above are directories. -/
def lookup? (files : Files) (place : List String) : Option FileEntry :=
  if place = [root] ∨ place.all (· = above) then some .directory
  else files.entries.lookup place

def content? (files : Files) (place : List String) : Option (List UInt8) :=
  match files.lookup? place with
  | some (.file content) => some content
  | _ => none

/-- Places with more parts than this are not listed. -/
def depth (files : Files) : Nat :=
  files.entries.foldr (fun entry => max entry.1.length) 0

def upward (name : String) (level : Nat) : List String :=
  List.replicate level above ++ [name]

/-- The content of the nearest file with a name: in the directory the program runs in,
in the one above it, and so on up to the root. -/
def nearest? (files : Files) (name : String) : Option (List UInt8) :=
  match (List.range files.depth).find? fun level => (files.content? (upward name level)).isSome with
  | some level => files.content? (upward name level)
  | none => files.content? [root, name]

/-- Follows the parts of a path from a place.  Every part but the last must lead
to a directory. -/
def walk (files : Files) (place : List String) : List String → Except FileError FileEntry
  | [] =>
    match files.lookup? place with
    | some entry => .ok entry
    | none => .error .notFound
  | part :: rest =>
    match files.lookup? place with
    | none => .error .notFound
    | some (.file _) => .error .notADirectory
    | some .directory => files.walk (step place part) rest

def read (files : Files) (path : String) : Except FileError (List UInt8) := do
  if path = "" then throw .notFound
  match ← files.walk [] (parts path) with
  | .file content => return content
  | .directory => throw .isADirectory

def readText (files : Files) (path : String) : Except FileError (List Char) := do
  match Text.ofBytes? (← files.read path) with
  | some characters => return characters
  | none => throw .invalidData

end Files

end Geocoding
