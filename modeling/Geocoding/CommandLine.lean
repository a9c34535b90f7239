/-!
# Command line

The program is told on its command line what to do.  Options come first, then a
command, then what the command is about.
-/

namespace Geocoding

inductive Command
  | codes
  /-- Geocode a request, which is read from standard input if no file is named. -/
  | geocode (request : Option String)
deriving DecidableEq, Repr

inductive CommandLine
  | version
  | run (settingsPath : Option String) (command : Command)
deriving DecidableEq, Repr

namespace CommandLine

inductive Word
  /-- The option that names a settings file, perhaps with the name in the same word. -/
  | settings (path : Option String)
  | version
  | command (name : String)
  | unknown
deriving DecidableEq, Repr

def Word.ofString (word : String) : Word :=
  match word.toList with
  | ['-', 'c'] => settings none
  | '-' :: 'c' :: '=' :: path | '-' :: 'c' :: path => settings (some (String.ofList path))
  | '-' :: 'V' :: _ => version
  | '-' :: '-' :: option =>
    let name := option.takeWhile (· != '=')
    let value := option.drop name.length
    if name = "config".toList then
      settings (if value.isEmpty then none else some (String.ofList (value.drop 1)))
    else if option = "version".toList then version
    else unknown
  | _ => command word

/-- Whether a word cannot be the name of a file.  A single hyphen is one. -/
def isOption (word : String) : Bool :=
  word.startsWith "-" && word != "-"

def file? (word : String) : Option String :=
  if word = "" then none else some word

/-- The request that the words behind the command name, if they name one.  Two
hyphens end the options, so that any word may name a file behind them. -/
def request? : List String → Option (Option String)
  | [] | ["--"] => some none
  | ["--", word] => (file? word).map some
  | [word] | [word, "--"] => if isOption word then none else (file? word).map some
  | _ => none

def command? (name : String) (rest : List String) : Option Command :=
  if name = "codes" then if rest = [] ∨ rest = ["--"] then some .codes else none
  else if name = "geocode" then (request? rest).map .geocode
  else none

/-- What the words ask for, with the settings file named so far.  It may be named once. -/
def parseFrom? (settingsPath : Option String) : List String → Option CommandLine
  | [] => none
  | word :: rest =>
    match Word.ofString word with
    | .unknown => none
    | .version => some .version
    | .command name => (command? name rest).map (.run settingsPath)
    | .settings (some path) =>
      if settingsPath.isSome then none
      else (file? path).bind fun path => parseFrom? (some path) rest
    | .settings none =>
      match rest with
      | [] => none
      | path :: rest =>
        if settingsPath.isSome ∨ isOption path then none
        else (file? path).bind fun path => parseFrom? (some path) rest

def parse? (words : List String) : Option CommandLine :=
  parseFrom? none words

end CommandLine

end Geocoding
