/-!
# Punycode

A label of a host name with characters beyond ASCII travels as ASCII: its ASCII
characters first, then, in the order of their code points, where each of the
others goes.  A place is written as the number of steps from the last one, in
digits of base 36 whose weights adapt to the steps seen so far.  Reading puts the
others back into their places.
-/

namespace Geocoding.Url.Punycode

/-! ## Digits -/

def digit (value : Nat) : Char :=
  Char.ofNat (if value < 26 then 0x61 + value else 0x30 + (value - 26))

/-- The least value that does not end a number at the digit of the given weight. -/
def threshold (bias weight : Nat) : Nat :=
  min 26 (max 1 (weight - bias))

theorem threshold_pos (bias weight : Nat) : 1 ≤ threshold bias weight := by
  unfold threshold
  omega

def number (bias weight value : Nat) : List Char :=
  let least := threshold bias weight
  if value < least then [digit value]
  else digit (least + (value - least) % (36 - least))
    :: number bias (weight + 36) ((value - least) / (36 - least))
termination_by value
decreasing_by
  have positive := threshold_pos bias weight
  have smaller := Nat.div_le_self (value - threshold bias weight) (36 - threshold bias weight)
  omega

/-- The bias that fits steps of the given size. -/
def settle (step weight : Nat) : Nat :=
  if 455 < step then settle (step / 35) (weight + 36) else weight + 36 * step / (step + 38)
termination_by step
decreasing_by omega

/-- The bias after a step, of which the first one counts for less. -/
def adapt (step placed : Nat) (first : Bool) : Nat :=
  let damped := if first then step / 700 else step / 2
  settle (damped + damped / placed) 0

/-! ## Writing -/

/-- What is carried along while the characters are placed. -/
structure Progress where
  digits : List Char := []
  /-- Steps since the last character was placed. -/
  step : Nat := 0
  bias : Nat := 72
  placed : Nat
  first : Bool := true

def Progress.pass (codePoint : Nat) (progress : Progress) (character : Char) : Progress :=
  if character.toNat < codePoint then { progress with step := progress.step + 1 }
  else if character.toNat = codePoint then
    { digits := (number progress.bias 36 progress.step).reverse ++ progress.digits
      step := 0
      bias := adapt progress.step (progress.placed + 1) progress.first
      placed := progress.placed + 1
      first := false }
  else progress

/-- Places the characters of each code point in turn.  The code points rise, and
the lowest that may come next is carried along. -/
def place (label : List Char) : List Nat → Nat → Progress → Progress
  | [], _, progress => progress
  | codePoint :: higher, lowest, progress =>
    let skipped :=
      { progress with step := progress.step + (codePoint - lowest) * (progress.placed + 1) }
    let passed := label.foldl (Progress.pass codePoint) skipped
    place label higher (codePoint + 1) { passed with step := passed.step + 1 }

def encode (label : List Char) : List Char :=
  let plain := label.filter (fun character => character.toNat < 0x80)
  let others := (label.filter (fun character => 0x80 ≤ character.toNat)).map Char.toNat
  let codePoints := (others.mergeSort (· ≤ ·)).eraseReps
  let placed := place label codePoints 0x80 { placed := plain.length }
  (if plain.isEmpty then [] else plain ++ ['-']) ++ placed.digits.reverse

/-! ## Reading -/

def digitValue? (character : Char) : Option Nat :=
  if character.isLower then some (character.toNat - 0x61)
  else if character.isDigit then some (26 + (character.toNat - 0x30))
  else none

def bound : Nat := Nat.pow 2 32

/-- Adds the number at the start of a text to a total.  Gives the sum and what follows
the number.  `scale` is what a digit counts. -/
def addNumber? (bias weight scale total : Nat) : List Char → Option (Nat × List Char)
  | [] => none
  | character :: rest =>
    match digitValue? character with
    | none => none
    | some value =>
      let least := threshold bias weight
      let sum := total + value * scale
      let larger := scale * (36 - least)
      if bound ≤ sum then none
      else if value < least then some (sum, rest)
      else if bound ≤ larger then none
      else addNumber? bias (weight + 36) larger sum rest

theorem length_of_addNumber? {bias weight scale total sum : Nat} {text rest : List Char}
    (added : addNumber? bias weight scale total text = some (sum, rest)) :
    rest.length < text.length := by
  induction text generalizing weight scale total with
  | nil => simp [addNumber?] at added
  | cons character tail hypothesis =>
    simp only [addNumber?] at added
    split at added
    · simp at added
    · split at added
      · simp at added
      · split at added
        · simp only [Option.some.injEq, Prod.mk.injEq] at added
          simp [added.2]
        · split at added
          · simp at added
          · have shorter := hypothesis added
            simp only [List.length_cons]
            omega

/-- Puts the characters of a text into their places among those placed so far.  The
next one has the given code point or a higher one, and if it has just this one, the
given place or a later one. -/
def putFrom? (bias codePoint place : Nat) (placed text : List Char) : Option (List Char) :=
  if text.isEmpty then some placed
  else
    match _ : addNumber? bias 36 1 place text with
    | none => none
    | some (sum, rest) =>
      let size := placed.length + 1
      let found := codePoint + sum / size
      if found.isValidChar then
        putFrom? (adapt (sum - place) size (place = 0)) found (sum % size + 1)
          (placed.insertIdx (sum % size) (Char.ofNat found)) rest
      else none
termination_by text.length
decreasing_by exact length_of_addNumber? (by assumption)

def decode? (text : List Char) : Option (List Char) :=
  let behind := (text.reverse.takeWhile (· != '-')).reverse
  let plain := text.take (text.length - behind.length - 1)
  if plain.any fun character => 0x80 ≤ character.toNat then none
  else putFrom? 72 0x80 0 plain (if plain.isEmpty then text else behind)

end Geocoding.Url.Punycode
