/-!
# Response codes

The normalization service marks each answer with one of eight codes.  Any other
text is no code, however close it comes to one.
-/

namespace Geocoding

/-- What the service reports about a question. -/
inductive ResponseCode
  | ok
  | unknownAddress
  | unknownMunicipality
  | inputParameterError
  | ambiguousMunicipality
  | ambiguousAddress
  | municipalityDataOnly
  | dataAccessError
deriving DecidableEq, Repr

namespace ResponseCode

def all : List ResponseCode :=
  [ok, unknownAddress, unknownMunicipality, inputParameterError, ambiguousMunicipality,
    ambiguousAddress, municipalityDataOnly, dataAccessError]

def wireCode : ResponseCode → String
  | ok => "0"
  | unknownAddress => "1"
  | unknownMunicipality => "2"
  | inputParameterError => "3"
  | ambiguousMunicipality => "6"
  | ambiguousAddress => "7"
  | municipalityDataOnly => "8"
  | dataAccessError => "9"

def label : ResponseCode → String
  | ok => "Ok"
  | unknownAddress => "UnknownAddress"
  | unknownMunicipality => "UnknownMunicipality"
  | inputParameterError => "InputParameterError"
  | ambiguousMunicipality => "AmbiguousMunicipality"
  | ambiguousAddress => "AmbiguousAddress"
  | municipalityDataOnly => "MunicipalityDataOnly"
  | dataAccessError => "DataAccessError"

def ofWire? (text : String) : Option ResponseCode :=
  all.find? (fun code => code.wireCode = text)

def ofLabel? (text : String) : Option ResponseCode :=
  all.find? (fun code => code.label = text)

@[simp] theorem ofWire?_wireCode (code : ResponseCode) : ofWire? code.wireCode = some code := by
  cases code <;> rfl

theorem wireCode_of_ofWire? {text : String} {code : ResponseCode}
    (found : ofWire? text = some code) : code.wireCode = text := by
  simpa using List.find?_some found

end ResponseCode

end Geocoding
