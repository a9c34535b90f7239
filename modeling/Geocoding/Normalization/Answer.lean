/-!
# Answers of the normalization service

An answer carries a response code and up to three sections.  Which section
matters depends on the code; the others may be filled all the same.
-/

namespace Geocoding

/-- A position in the reference system of the service, passed on as reported. -/
structure Coordinates where
  longitude : Float
  latitude : Float
deriving DecidableEq, Repr

/-- Street level data of an address that was recognized. -/
structure RecognizedAddress where
  position : Coordinates
  locality : String
  province : String
  postalCode : Option String
  houseNumber : Option String
  streetType : String
  streetName : String
deriving DecidableEq, Repr

structure AmbiguousItem where
  position : Coordinates
  address : String
  houseNumber : Option String
deriving DecidableEq, Repr

/-- The addresses an ambiguous question may have meant, and how many the service
says there are. -/
structure AmbiguousAddress where
  reportedCount : Nat := 0
  items : List AmbiguousItem := []
deriving DecidableEq, Repr

/-- Locality level data, given when no street was matched. -/
structure NormalizedLocality where
  position : Coordinates
  hamlet : String
  locality : String
  province : String
  postalCode : Option String
deriving DecidableEq, Repr

/-- An answer as the service gives it. -/
structure RawAnswer where
  responseCode : String := ""
  recognizedAddress : Option RecognizedAddress := none
  ambiguousAddress : Option AmbiguousAddress := none
  normalizedLocality : Option NormalizedLocality := none
deriving DecidableEq, Repr

/-- One change to an answer under assembly. -/
inductive AnswerStep
  | responseCode (code : String)
  | recognized (address : RecognizedAddress)
  | ambiguousItem (item : AmbiguousItem)
  | reportedCount (count : Nat)
  | locality (locality : NormalizedLocality)
deriving DecidableEq, Repr

namespace RawAnswer

def openAmbiguousAddress (answer : RawAnswer) : AmbiguousAddress :=
  answer.ambiguousAddress.getD {}

/-- The answer after one step.  A new item also sets the reported count to the
number of items there are then. -/
def apply (answer : RawAnswer) : AnswerStep → RawAnswer
  | .responseCode code => { answer with responseCode := code }
  | .recognized address => { answer with recognizedAddress := some address }
  | .ambiguousItem item =>
      let items := answer.openAmbiguousAddress.items ++ [item]
      { answer with ambiguousAddress := some { reportedCount := items.length, items } }
  | .reportedCount count =>
      { answer with
        ambiguousAddress := some { answer.openAmbiguousAddress with reportedCount := count } }
  | .locality locality => { answer with normalizedLocality := some locality }

def assemble (steps : List AnswerStep) : RawAnswer :=
  steps.foldl apply {}

end RawAnswer

end Geocoding
