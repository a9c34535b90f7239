import Geocoding.CommandLine
import Geocoding.Environment
import Geocoding.Envelope.Response
import Geocoding.Http.Service
import Geocoding.Settings

/-!
# The program

A run of the program reads files, the environment and standard input, asks the
normalization service over a network, and ends with a text on standard output and
an exit code.  It sets up its environment before all else, and breaks down if it
cannot.  Nothing is written unless the settings and the request were read.
-/

namespace Geocoding

/-- What a run of the program can read. -/
structure Surroundings where
  files : Files
  environment : Environment := ⟨[]⟩
  input : List UInt8 := []

/-- How a run of the program ends. -/
inductive ExitCode
  | success
  | failure
  | usage
  /-- The run broke down. -/
  | breakdown
deriving DecidableEq, Repr

def ExitCode.toNat : ExitCode → Nat
  | success => 0
  | failure => 1
  | usage => 2
  | breakdown => 101

/-- What a run of the program leaves behind. -/
structure Outcome where
  exit : ExitCode
  output : String := ""
deriving DecidableEq, Repr

namespace Program

def version : String := "ols-geocoder 0.3.0"

def assignmentsName : String := ".env"

def codeList : String :=
  String.join (ResponseCode.all.map fun code => code.wireCode ++ "\t" ++ code.label ++ "\n")

/-- The environment of a run, with what the nearest file of assignments adds to it. -/
def environment? (surroundings : Surroundings) : Option Environment :=
  match surroundings.files.nearest? assignmentsName with
  | some content => surroundings.environment.withFile (Text.Symbol.ofBytes content)
  | none => some surroundings.environment

def settings (surroundings : Surroundings) (path : Option String) :
    Except SettingsError Settings :=
  Settings.load surroundings.files path (surroundings.environment.get? endpointVariable)

def request? (surroundings : Surroundings) (path : Option String) : Option (List AddressQuery) := do
  let content ←
    match path with
    | some path => (surroundings.files.read path).toOption
    | none => some surroundings.input
  (Envelope.readRequest (Text.Symbol.ofBytes content)).toOption

def outcomeOf : Except Failure BatchResult → Outcome
  | .ok result => ⟨.success, Envelope.writeResponse .pretty result ++ "\n"⟩
  | .error failure => ⟨.failure, Envelope.writeFailure .pretty failure ++ "\n"⟩

def geocode (surroundings : Surroundings) (settingsPath requestPath : Option String)
    (network : Http.Network) : Outcome × Http.Network :=
  match settings surroundings settingsPath, request? surroundings requestPath with
  | .ok settings, some addresses =>
    let service := Http.service settings.endpoint settings.timeout
    let (outcome, after) := (service.geocode settings.region addresses).run.run network
    (outcomeOf outcome, after)
  | _, _ => (⟨.failure, ""⟩, network)

def runCommand (arguments : List String) (surroundings : Surroundings) (network : Http.Network) :
    Outcome × Http.Network :=
  match CommandLine.parse? arguments with
  | none => (⟨.usage, ""⟩, network)
  | some .version => (⟨.success, version ++ "\n"⟩, network)
  | some (.run _ .codes) => (⟨.success, codeList⟩, network)
  | some (.run settingsPath (.geocode requestPath)) =>
    geocode surroundings settingsPath requestPath network

def run (arguments : List String) (surroundings : Surroundings) (network : Http.Network) :
    Outcome × Http.Network :=
  match environment? surroundings with
  | none => (⟨.breakdown, ""⟩, network)
  | some environment => runCommand arguments { surroundings with environment } network

def paths (arguments : List String) (levels : Nat) : List String :=
  (List.range (levels + 1)).map (fun level => "/".intercalate (Files.upward assignmentsName level)) ++
    match CommandLine.parse? arguments with
    | some (.run settingsPath (.geocode requestPath)) =>
      settingsPath.getD defaultSettingsPath :: requestPath.toList
    | _ => []

def readsInput (arguments : List String) : Bool :=
  match CommandLine.parse? arguments with
  | some (.run _ (.geocode none)) => true
  | _ => false

end Program

end Geocoding
