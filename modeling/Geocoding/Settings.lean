import Geocoding.Batch
import Geocoding.Duration.Expression
import Geocoding.Files
import Geocoding.Text.Blank
import Geocoding.Toml.Document

/-!
# Settings

The settings name the normalization service, the deadline of a question and the
region the service covers.  A file may tell them in two sections.  What it leaves
out comes from a file that is built in, or from the deadline that every question
has without settings; an environment variable may replace the endpoint of settings
that are complete without it.
-/

namespace Geocoding

/-- What the geocoder has to be told. -/
structure Settings where
  endpoint : String
  timeout : Duration
  region : String
deriving DecidableEq, Repr

structure NormalizationSection where
  endpoint : Option String := none
  timeout : Option Duration := none
deriving DecidableEq, Repr

structure GeocodingSection where
  region : Option String := none
deriving DecidableEq, Repr

structure SettingsFile where
  normalization : Option NormalizationSection := none
  geocoding : Option GeocodingSection := none
deriving DecidableEq, Repr

inductive SettingsError
  | file (error : FileError)
  | notToml
  | missingEndpoint
  | zeroTimeout
  | missingRegion
deriving DecidableEq, Repr

def SettingsError.message : SettingsError → String
  | file .notFound => "No such file or directory"
  | file .notADirectory => "Not a directory"
  | file .isADirectory => "Is a directory"
  | file .invalidData => "The file is not text"
  | notToml => "The file does not hold settings"
  | missingEndpoint => "Missing normalization service endpoint"
  | zeroTimeout => "The request timeout must not be zero"
  | missingRegion => "No geocoding region defined"

def defaultSettingsPath : String := "ols-geocoder.toml"

def endpointVariable : String := "OLS_NORMALIZATION_ENDPOINT"

def defaultEndpoint : String := "http://localhost:8080/normaws/rfc59"

def defaultRegion : String := "Toscana"

namespace SettingsFile

def text? : Option Toml.Value → Option (Option String)
  | none => some none
  | some (.string content) => some (some (String.ofList content))
  | some _ => none

def duration? (value : Option Toml.Value) : Option (Option Duration) := do
  match ← text? value with
  | none => return none
  | some content => return some (← Duration.parse? content)

/-- The value of each key of a section.  An array gives them by position, so it
must reach as far as the `required` keys; a date has none of them. -/
def values? (required : Nat) (keys : List String) : Toml.Value →
    Option (List (Option Toml.Value))
  | .dateTime _ => some (keys.map fun _ => none)
  | .inlineTable entries | .table _ entries =>
    some (keys.map fun key => Toml.Entries.find? entries key.toList)
  | .array items =>
    if items.length < required then none
    else some ((List.range keys.length).map fun index => items[index]?)
  | _ => none

def normalization? (tables : Toml.Value) : Option NormalizationSection := do
  match ← values? 1 ["endpoint", "request-timeout"] tables with
  | [endpoint, timeout] =>
    return {
      endpoint := ← text? endpoint
      timeout := ← duration? timeout }
  | _ => none

def geocoding? (tables : Toml.Value) : Option GeocodingSection := do
  match ← values? 1 ["region"] tables with
  | [region] => return { region := ← text? region }
  | _ => none

def ofEntries? (entries : Toml.Entries) : Option SettingsFile := do
  return {
    normalization := ← (entries.find? "normalization".toList).mapM normalization?
    geocoding := ← (entries.find? "geocoding".toList).mapM geocoding? }

def read? (text : List Char) : Option SettingsFile :=
  (Toml.read? text).bind ofEntries?

def builtInText : String :=
  "[normalization]\nendpoint = \"" ++ defaultEndpoint ++ "\"\nrequest-timeout = \"60s\"\n\n" ++
    "[geocoding]\nregion = \"" ++ defaultRegion ++ "\"\n"

def builtIn : SettingsFile :=
  (read? builtInText.toList).getD {}

/-- Reads a settings file.  The one that is built in stands for one that is not there. -/
def load (files : Files) (path : String) : Except SettingsError SettingsFile :=
  match files.readText path with
  | .error .notFound => .ok builtIn
  | .error error => .error (.file error)
  | .ok content =>
    match read? content with
    | some told => .ok told
    | none => .error .notToml

/-- The settings that a file gives together with the defaults.  A section that is left out
is taken from the file that is built in; of one that is there, only what it leaves out. -/
def complete (told : SettingsFile) : Except SettingsError Settings := do
  let normalization := told.normalization.getD (builtIn.normalization.getD {})
  let some endpoint := normalization.endpoint.or (builtIn.normalization.getD {}).endpoint
    | throw .missingEndpoint
  let timeout := normalization.timeout.getD defaultTimeout
  if timeout.nanoseconds = 0 then throw .zeroTimeout
  let geocoding := told.geocoding.getD (builtIn.geocoding.getD {})
  let some region := (geocoding.region.or (builtIn.geocoding.getD {}).region).filter
      fun region => !(Text.trim region.toList).isEmpty
    | throw .missingRegion
  return { endpoint, timeout, region }

end SettingsFile

namespace Settings

def withEnvironment (settings : Settings) (environment : Option String) : Settings :=
  { settings with endpoint := environment.getD settings.endpoint }

def load (files : Files) (path : Option String) (environment : Option String) :
    Except SettingsError Settings := do
  let told ← SettingsFile.load files (path.getD defaultSettingsPath)
  let settings ← told.complete
  return settings.withEnvironment environment

end Settings

end Geocoding
