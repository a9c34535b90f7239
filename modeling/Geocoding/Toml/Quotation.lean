import Geocoding.Toml.Value

/-!
# TOML strings and keys

A string stands between single or double quotes, or between three of them if it
may span lines.  Double quotes allow escapes, single quotes do not.
-/

namespace Geocoding.Toml

/-- Puts characters in front of a text that has been read together with what follows it. -/
def prepend (characters : List Char) (read : Option (List Char × List Char)) :
    Option (List Char × List Char) :=
  read.map fun (text, rest) => (characters ++ text, rest)

def isBlank (character : Char) : Bool := character = ' ' || character = '\t'

def skipBlanks (text : List Char) : List Char := text.dropWhile isBlank

def isPlain (character : Char) : Bool :=
  character = '\t' || (0x20 ≤ character.toNat && character ≠ '\x7f')

def skipLineEnd? : List Char → Option (List Char)
  | '\n' :: rest => some rest
  | '\r' :: '\n' :: rest => some rest
  | _ => none

def hexDigit? (character : Char) : Option Nat :=
  if '0' ≤ character ∧ character ≤ '9' then some (character.toNat - '0'.toNat)
  else if 'a' ≤ character ∧ character ≤ 'f' then some (character.toNat - 'a'.toNat + 10)
  else if 'A' ≤ character ∧ character ≤ 'F' then some (character.toNat - 'A'.toNat + 10)
  else none

def codePoint? (digits : List Char) : Option Char := do
  let values ← digits.mapM hexDigit?
  let code := values.foldl (fun number digit => 16 * number + digit) 0
  if code.isValidChar then some (.ofNat code) else none

def escape? : Char → Option Char
  | 'b' => some '\x08'
  | 't' => some '\t'
  | 'n' => some '\n'
  | 'f' => some '\x0c'
  | 'r' => some '\r'
  | '"' => some '"'
  | '\\' => some '\\'
  | _ => none

def basicString : List Char → Option (List Char × List Char)
  | [] => none
  | '"' :: rest => some ([], rest)
  | '\\' :: 'u' :: a :: b :: c :: d :: rest => do
      let character ← codePoint? [a, b, c, d]
      prepend [character] (basicString rest)
  | '\\' :: 'U' :: a :: b :: c :: d :: e :: f :: g :: h :: rest => do
      let character ← codePoint? [a, b, c, d, e, f, g, h]
      prepend [character] (basicString rest)
  | '\\' :: letter :: rest => do
      let character ← escape? letter
      prepend [character] (basicString rest)
  | character :: rest =>
    if isPlain character && character ≠ '\\' then prepend [character] (basicString rest)
    else none

def literalString : List Char → Option (List Char × List Char)
  | [] => none
  | character :: rest =>
    if character = '\x27' then some ([], rest)
    else if isPlain character then prepend [character] (literalString rest)
    else none

def endsLine (text : List Char) : Bool :=
  (skipLineEnd? (skipBlanks text)).isSome

/-- A string that may span lines between three double quotes, the first three of
which have been read.  While `skipping`, blanks and line ends are passed over. -/
def basicLines (skipping : Bool) : List Char → Option (List Char × List Char)
  | [] => none
  | '\r' :: '\n' :: rest =>
    prepend (if skipping then [] else ['\n']) (basicLines skipping rest)
  | '\n' :: rest => prepend (if skipping then [] else ['\n']) (basicLines skipping rest)
  | '"' :: '"' :: '"' :: '"' :: '"' :: rest => some (['"', '"'], rest)
  | '"' :: '"' :: '"' :: '"' :: rest => some (['"'], rest)
  | '"' :: '"' :: '"' :: rest => some ([], rest)
  | '\\' :: 'u' :: a :: b :: c :: d :: rest => do
      let character ← codePoint? [a, b, c, d]
      prepend [character] (basicLines false rest)
  | '\\' :: 'U' :: a :: b :: c :: d :: e :: f :: g :: h :: rest => do
      let character ← codePoint? [a, b, c, d, e, f, g, h]
      prepend [character] (basicLines false rest)
  | '\\' :: letter :: rest =>
    if endsLine (letter :: rest) then
      if isBlank letter || letter = '\n' then basicLines true rest
      else basicLines true (letter :: rest)
    else do
      let character ← escape? letter
      prepend [character] (basicLines false rest)
  | character :: rest =>
    if skipping && isBlank character then basicLines true rest
    else if isPlain character && character ≠ '\\' then
      prepend [character] (basicLines false rest)
    else none

def literalLines : List Char → Option (List Char × List Char)
  | [] => none
  | '\r' :: '\n' :: rest => prepend ['\n'] (literalLines rest)
  | '\n' :: rest => prepend ['\n'] (literalLines rest)
  | '\x27' :: '\x27' :: '\x27' :: '\x27' :: '\x27' :: rest => some (['\x27', '\x27'], rest)
  | '\x27' :: '\x27' :: '\x27' :: '\x27' :: rest => some (['\x27'], rest)
  | '\x27' :: '\x27' :: '\x27' :: rest => some ([], rest)
  | character :: rest =>
    if isPlain character then prepend [character] (literalLines rest) else none

def dropLineEnd (text : List Char) : List Char :=
  (skipLineEnd? text).getD text

def string? : List Char → Option (List Char × List Char)
  | '"' :: '"' :: '"' :: rest => basicLines false (dropLineEnd rest)
  | '"' :: rest => basicString rest
  | '\x27' :: '\x27' :: '\x27' :: rest => literalLines (dropLineEnd rest)
  | '\x27' :: rest => literalString rest
  | _ => none

def isBareKey (character : Char) : Bool :=
  ('a' ≤ character && character ≤ 'z') || ('A' ≤ character && character ≤ 'Z')
    || ('0' ≤ character && character ≤ '9') || character = '-' || character = '_'

def keyPart? : List Char → Option (Key × List Char)
  | '"' :: rest => basicString rest
  | '\x27' :: rest => literalString rest
  | text =>
    match text.takeWhile isBareKey with
    | [] => none
    | key => some (key, text.dropWhile isBareKey)

def key? : (limit : Nat) → List Char → Option (List Key × List Char)
  | 0, _ => none
  | limit + 1, text => do
      let (first, rest) ← keyPart? (skipBlanks text)
      match skipBlanks rest with
      | '.' :: rest => do
        let (others, rest) ← key? limit rest
        return (first :: others, rest)
      | rest => return ([first], rest)

end Geocoding.Toml
