import Geocoding.Json.Number
import Geocoding.Text.Quoted

/-!
# JSON strings

A string is read in one of two ways.  A reader that uses it wants its characters,
so every escape must stand for one; a reader that passes over it only looks for
the closing quote.  Writing uses no more escapes than it has to.
-/

namespace Geocoding.Json

open Text (Symbol)

def hexDigit? : Symbol → Option Nat
  | .char character =>
    if '0' ≤ character ∧ character ≤ '9' then some (character.toNat - '0'.toNat)
    else if 'a' ≤ character ∧ character ≤ 'f' then some (character.toNat - 'a'.toNat + 10)
    else if 'A' ≤ character ∧ character ≤ 'F' then some (character.toNat - 'A'.toNat + 10)
    else none
  | .stray _ => none

/-- The number that four hexadecimal digits spell, and what follows them.  A text
with fewer than four bytes left counts as cut off, whatever the bytes are. -/
def readHex (text : List Symbol) : Except Fault (Nat × List Symbol) :=
  match text.take 4 |>.mapM hexDigit? with
  | some [a, b, c, d] => .ok (((a * 16 + b) * 16 + c) * 16 + d, text.drop 4)
  | _ =>
    let size := (text.take 4).foldl (fun size symbol => size + symbol.size) 0
    .error (if size < 4 then .truncated else .malformed)

/-- What a letter behind a backslash stands for, code points aside. -/
def simpleEscape? : Char → Option Char
  | '"' => some '"'
  | '\\' => some '\\'
  | '/' => some '/'
  | 'b' => some '\x08'
  | 'f' => some '\x0c'
  | 'n' => some '\n'
  | 'r' => some '\r'
  | 't' => some '\t'
  | _ => none

def isLeadingSurrogate (unit : Nat) : Bool := 0xD800 ≤ unit && unit ≤ 0xDBFF

def isTrailingSurrogate (unit : Nat) : Bool := 0xDC00 ≤ unit && unit ≤ 0xDFFF

def readTrailing (leading : Nat) : List Symbol → Except Fault (Char × List Symbol)
  | .char '\\' :: .char 'u' :: rest => do
      let (trailing, after) ← readHex rest
      if isTrailingSurrogate trailing then
        return (.ofNat ((leading - 0xD800) * 0x400 + (trailing - 0xDC00) + 0x10000), after)
      else throw .malformed
  | [.char '\\'] => .error .truncated
  | rest => .error (.before rest)

/-- The character that an escape stands for.  The backslash has been read. -/
def readEscape : List Symbol → Except Fault (Char × List Symbol)
  | [] => .error .truncated
  | .char 'u' :: rest => do
      let (unit, after) ← readHex rest
      if isTrailingSurrogate unit then throw .malformed
      else if isLeadingSurrogate unit then readTrailing unit after
      else return (.ofNat unit, after)
  | .char letter :: rest =>
    match simpleEscape? letter with
    | some character => .ok (character, rest)
    | none => .error .malformed
  | .stray _ :: _ => .error .malformed

def skipEscape : List Symbol → Except Fault (List Symbol)
  | [] => .error .truncated
  | .char 'u' :: rest => (readHex rest).map Prod.snd
  | .char letter :: rest => if (simpleEscape? letter).isSome then .ok rest else .error .malformed
  | .stray _ :: _ => .error .malformed

theorem length_readHex_le {text rest : List Symbol} {unit : Nat}
    (read : readHex text = .ok (unit, rest)) : rest.length ≤ text.length := by
  unfold readHex at read
  split at read
  · cases read; simp
  · cases read

theorem length_readTrailing_le {leading : Nat} {text rest : List Symbol} {character : Char}
    (read : readTrailing leading text = .ok (character, rest)) : rest.length ≤ text.length := by
  unfold readTrailing at read
  split at read
  · next after =>
    match unitRead : readHex after, read with
    | .ok (trailing, others), read =>
      have bound := length_readHex_le unitRead
      simp only [bind, Except.bind, pure, Except.pure] at read
      by_cases trails : isTrailingSurrogate trailing
      · simp only [trails, if_true, Except.ok.injEq, Prod.mk.injEq] at read
        simp only [List.length_cons, ← read.2]
        omega
      · simp [trails, throw, throwThe, MonadExceptOf.throw] at read
  · cases read
  · cases read

theorem length_readEscape_lt {text rest : List Symbol} {character : Char}
    (read : readEscape text = .ok (character, rest)) : rest.length < text.length := by
  unfold readEscape at read
  split at read
  · cases read
  · next after =>
    match unitRead : readHex after, read with
    | .ok (unit, others), read =>
      have bound := length_readHex_le unitRead
      simp only [bind, Except.bind, pure, Except.pure] at read
      simp only [List.length_cons]
      by_cases trails : isTrailingSurrogate unit
      · simp [trails, throw, throwThe, MonadExceptOf.throw] at read
      · by_cases leads : isLeadingSurrogate unit
        · simp only [trails, leads, if_true] at read
          have := length_readTrailing_le read
          omega
        · simp only [trails, leads, Bool.false_eq_true, if_false, Except.ok.injEq,
            Prod.mk.injEq] at read
          rw [← read.2]
          omega
  · split at read
    · cases read; simp
    · cases read
  · cases read

theorem length_skipEscape_lt {text rest : List Symbol}
    (skipped : skipEscape text = .ok rest) : rest.length < text.length := by
  unfold skipEscape at skipped
  split at skipped
  · cases skipped
  · next after =>
    match unitRead : readHex after, skipped with
    | .ok (unit, others), skipped =>
      have bound := length_readHex_le unitRead
      cases skipped
      simp only [List.length_cons]
      omega
  · split at skipped
    · cases skipped; simp
    · cases skipped
  · cases skipped

def isControl (symbol : Symbol) : Bool :=
  match symbol with
  | .char character => character.toNat < 0x20
  | .stray _ => false

/-- The symbols of a string up to its closing quote, escapes replaced.  The opening
quote has been read. -/
def readSymbols (text : List Symbol) : Except Fault (List Symbol) :=
  match text with
  | [] => .error .truncated
  | .char '"' :: _ => .ok []
  | .char '\\' :: rest =>
    match _escape : readEscape rest with
    | .ok (character, after) => (readSymbols after).map (.char character :: ·)
    | .error fault => .error fault
  | symbol :: rest =>
    if isControl symbol then .error .malformed
    else (readSymbols rest).map (symbol :: ·)
termination_by text.length
decreasing_by
  · have := length_readEscape_lt _escape
    simp only [List.length_cons]
    omega
  · simp

def skipString (text : List Symbol) : Except Fault (List Symbol) :=
  match text with
  | [] => .error .truncated
  | .char '"' :: rest => .ok rest
  | .char '\\' :: rest =>
    match _escape : skipEscape rest with
    | .ok after => skipString after
    | .error fault => .error fault
  | symbol :: rest => if isControl symbol then .error .malformed else skipString rest
termination_by text.length
decreasing_by
  · have := length_skipEscape_lt _escape
    simp only [List.length_cons]
    omega
  · simp

theorem length_skipString_lt {text rest : List Symbol}
    (skipped : skipString text = .ok rest) : rest.length < text.length := by
  fun_induction skipString text with
  | case1 => cases skipped
  | case2 => cases skipped; simp
  | case3 _ _ escape ih =>
      have first := length_skipEscape_lt escape
      have second := ih skipped
      simp only [List.length_cons]
      omega
  | case4 => cases skipped
  | case5 => cases skipped
  | case6 symbol after _ _ _ ih =>
      have := ih skipped
      simp only [List.length_cons]
      omega

/-- The characters of a string.  Stray bytes in it are found when all of it has been read. -/
def readString (text : List Symbol) : Except Fault String := do
  match Symbol.characters? (← readSymbols text) with
  | some characters => return String.ofList characters
  | none => throw .malformed

def writeChar (character : Char) : List Char :=
  if character = '"' then ['\\', '"']
  else if character = '\\' then ['\\', '\\']
  else if character = '\x08' then ['\\', 'b']
  else if character = '\t' then ['\\', 't']
  else if character = '\n' then ['\\', 'n']
  else if character = '\x0c' then ['\\', 'f']
  else if character = '\r' then ['\\', 'r']
  else if character.toNat < 0x20 then
    ['\\', 'u', '0', '0',
      Nat.digitChar (character.toNat / 16), Nat.digitChar (character.toNat % 16)]
  else [character]

def writeString (text : String) : List Char :=
  '"' :: (text.toList.flatMap writeChar ++ ['"'])

end Geocoding.Json
