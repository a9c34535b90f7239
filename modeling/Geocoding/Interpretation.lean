import Geocoding.Normalization
import Geocoding.Normalization.ResponseCode
import Geocoding.Result
import Geocoding.Text.Quoted

/-!
# Reading an answer as a result set

The response code of an answer decides which of its sections counts, and that
section alone is turned into candidates.  The region of the service is no part
of its answers and is added to every candidate with administrative places.
-/

namespace Geocoding

/-- Why an answer yields no result set. -/
inductive InterpretationError
  | inputParameterError
  | dataAccessError
  | unknownResponseCode (code : String)
  | missingAnswerData (code : ResponseCode) (part : String)
  | candidateCountMismatch (reported actual : Nat)
deriving DecidableEq, Repr

def InterpretationError.message : InterpretationError → String
  | inputParameterError => "Parameter error"
  | dataAccessError => "Data access error"
  | unknownResponseCode code => s!"Unknown response code: {Text.quoted code}"
  | missingAnswerData code part =>
      s!"Missing {part} in answer with response code {code.wireCode}"
  | candidateCountMismatch reported actual =>
      s!"Ambiguous answer reports {reported} candidates but contains {actual}"

def adapterMatchType : String := "RFC59-" ++ adapterAlgorithm.wireCode

def directMatch : MatchCode := ⟨adapterMatchType, 1⟩

def ambiguousMatch : MatchCode := ⟨adapterMatchType, 0⟩

def withHouseNumber (street : String) (houseNumber : Option String) : String :=
  match nonEmpty houseNumber with
  | some number => street ++ ", " ++ number
  | none => street

/-- The candidate of a recognized address.  House number `0` stands for none. -/
def RecognizedAddress.candidate (recognized : RecognizedAddress) (region : String) : Candidate where
  position := recognized.position
  address := {
    countryCode := supportedCountry
    places := [⟨.municipality, recognized.locality⟩,
      ⟨.countrySecondarySubdivision, recognized.province⟩, ⟨.countrySubdivision, region⟩]
    postalCode := recognized.postalCode
    street := some (withHouseNumber (recognized.streetType ++ " " ++ recognized.streetName)
      (recognized.houseNumber.filter (· ≠ "0"))) }
  matchCode := directMatch

def AmbiguousItem.candidate (item : AmbiguousItem) : Candidate where
  position := item.position
  address := {
    countryCode := supportedCountry
    places := []
    postalCode := none
    street := some (withHouseNumber item.address item.houseNumber) }
  matchCode := ambiguousMatch

def NormalizedLocality.candidate (found : NormalizedLocality) (region : String) : Candidate where
  position := found.position
  address := {
    countryCode := supportedCountry
    places := [⟨.municipalitySubdivision, found.hamlet⟩, ⟨.municipality, found.locality⟩,
      ⟨.countrySecondarySubdivision, found.province⟩, ⟨.countrySubdivision, region⟩]
    postalCode := found.postalCode
    street := none }
  matchCode := directMatch

/-- The candidates of an ambiguous section, provided there are as many items as
the service says. -/
def AmbiguousAddress.resultSet (ambiguous : AmbiguousAddress) :
    Except InterpretationError ResultSet :=
  if ambiguous.reportedCount = ambiguous.items.length then
    .ok ⟨ambiguous.reportedCount, ambiguous.items.map AmbiguousItem.candidate⟩
  else
    .error (.candidateCountMismatch ambiguous.reportedCount ambiguous.items.length)

namespace RawAnswer

/-- The result set of an answer with the given code; the text of the code in the
answer itself is not looked at. -/
def interpretAs (answer : RawAnswer) (region : String) (code : ResponseCode) :
    Except InterpretationError ResultSet :=
  match code with
  | .ok =>
    match answer.recognizedAddress with
    | some recognized => .ok (.single (recognized.candidate region))
    | none => .error (.missingAnswerData .ok "recognized address")
  | .unknownAddress | .unknownMunicipality | .ambiguousMunicipality => .ok .empty
  | .inputParameterError => .error .inputParameterError
  | .ambiguousAddress =>
    match answer.ambiguousAddress with
    | some ambiguous => ambiguous.resultSet
    | none => .error (.missingAnswerData .ambiguousAddress "ambiguous address")
  | .municipalityDataOnly =>
    match answer.normalizedLocality with
    | some found => .ok (.single (found.candidate region))
    | none => .error (.missingAnswerData .municipalityDataOnly "normalized locality")
  | .dataAccessError => .error .dataAccessError

def interpret (answer : RawAnswer) (region : String) : Except InterpretationError ResultSet :=
  match ResponseCode.ofWire? answer.responseCode with
  | some code => answer.interpretAs region code
  | none => .error (.unknownResponseCode answer.responseCode)

end RawAnswer

end Geocoding
