import Geocoding.Address.Validation

/-!
# Questions to the normalization service

The service is asked for one address at a time.  A question names a matching
algorithm, a gazetteer and the parts of a checked address; this adapter always
uses the same algorithm and the same gazetteer.
-/

namespace Geocoding

/-- How the service matches an address against its gazetteer. -/
inductive Algorithm
  | termQueries
  | fuzzyQueries
  | radix
deriving DecidableEq, Repr

namespace Algorithm

def all : List Algorithm := [termQueries, fuzzyQueries, radix]

def wireCode : Algorithm → String
  | termQueries => "1"
  | fuzzyQueries => "2"
  | radix => "3"

def parse? (text : String) : Option Algorithm :=
  all.find? (fun algorithm => algorithm.wireCode = text)

end Algorithm

/-- The gazetteer the service looks an address up in. -/
inductive DataSource
  | regioneToscana
  | other
deriving DecidableEq, Repr

namespace DataSource

def all : List DataSource := [regioneToscana, other]

def wireCode : DataSource → String
  | regioneToscana => "1"
  | other => "2"

def parse? (text : String) : Option DataSource :=
  all.find? (fun source => source.wireCode = text)

end DataSource

def adapterAlgorithm : Algorithm := .fuzzyQueries

def adapterDataSource : DataSource := .regioneToscana

/-- One question to the normalization service. -/
structure NormalizationRequest where
  algorithm : Algorithm
  address : String
  municipality : String
  subdivision : Option String
  postalCode : Option String
  dataSource : DataSource
deriving DecidableEq, Repr

namespace NormalizationRequest

def ofAddress (address : ValidatedAddress) : NormalizationRequest where
  algorithm := adapterAlgorithm
  address := address.line
  municipality := address.municipality
  subdivision := address.subdivision
  postalCode := address.postalCode
  dataSource := adapterDataSource

/-- The named parameters of a question, in the order in which they are sent.  The
province and the postal code are sent only if there are any. -/
def parameters (request : NormalizationRequest) : List (String × String) :=
  [("algoritmo", request.algorithm.wireCode),
    ("indirizzo", request.address),
    ("localita", request.municipality)] ++
  (request.subdivision.toList.map fun value => ("provincia", value)) ++
  (request.postalCode.toList.map fun value => ("cap", value)) ++
  [("fonte", request.dataSource.wireCode)]

end NormalizationRequest

end Geocoding
