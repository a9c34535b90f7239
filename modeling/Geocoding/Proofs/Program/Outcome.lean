import Geocoding.Proofs.Envelope.Response
import Geocoding.Proofs.Http.Course
import Geocoding.Proofs.Program.Surroundings
import Geocoding.Proofs.Text.Symbol

/-!
# How a run of the program ends

A run that is asked to geocode a request ends in one of three ways: it cannot read its
settings or the request, an address fails, or every address is geocoded.  Nothing is sent
before all has been read, and nothing is printed of a batch that fails but its failure.  Only a
value that has no place in the environment makes a run break down before all that.
-/

namespace Geocoding.Program

open Http (Exchange Network)

/-- The ways in which a run ends. -/
inductive Ending
  | brokenDown
  | unread
  | failed
  | geocoded
deriving DecidableEq, Repr

def Ending.code : Ending → Nat
  | brokenDown => 101
  | unread | failed => 1
  | geocoded => 0

/-- The exit code and the output of a run that ends in one of these ways, and the network that it
leaves behind. -/
inductive Ends (surroundings : Surroundings) (assigned : List (String × String))
    (settingsPath requestPath : Option String) (network : Network) :
    Ending → Nat → String → Network → Prop
  | brokenDown (overfilled : surroundings.environment.Overfilled assigned) :
      Ends surroundings assigned settingsPath requestPath network .brokenDown 101 "" network
  | unread (sound : ¬ surroundings.environment.Overfilled assigned)
      (unreadable : (∀ settings, ¬ surroundings.Loads assigned settingsPath settings) ∨
        ∀ addresses, ¬ surroundings.Requests requestPath addresses) :
      Ends surroundings assigned settingsPath requestPath network .unread 1 "" network
  | failed {settings : Settings} {addresses : List AddressQuery} {position : Nat}
      {failure : Failure} {posted : List Exchange}
      (sound : ¬ surroundings.environment.Overfilled assigned)
      (loads : surroundings.Loads assigned settingsPath settings)
      (requests : surroundings.Requests requestPath addresses)
      (fails : Http.FailsAt settings.endpoint settings.timeout settings.region network addresses
        position failure)
      (posts : Http.Posts settings.endpoint (addresses.take posted.length) posted)
      (earlier : position ≤ posted.length) (atMost : posted.length ≤ position + 1) :
      Ends surroundings assigned settingsPath requestPath network .failed 1
        ("\x7b\n  \"message\": " ++ String.ofList (Json.writeString failure.message) ++ "\n\x7d\n")
        (network.after posted)
  | geocoded {settings : Settings} {addresses : List AddressQuery} {sets : List ResultSet}
      {lists : List Envelope.responseListShape.Carrier} {posted : List Exchange}
      (sound : ¬ surroundings.environment.Overfilled assigned)
      (loads : surroundings.Loads assigned settingsPath settings)
      (requests : surroundings.Requests requestPath addresses)
      (all : Http.GeocodesAll settings.endpoint settings.region network addresses sets)
      (listed : List.Forall₂ Envelope.SameSet lists sets)
      (posts : Http.Posts settings.endpoint addresses posted) :
      Ends surroundings assigned settingsPath requestPath network .geocoded 0
        (Envelope.responseShape.writeText .pretty (lists, ()) ++ "\n")
        (network.after posted)

/-- Every address that a run is asked for is answered by the service its settings name. -/
structure Succeeds (surroundings : Surroundings) (assigned : List (String × String))
    (settingsPath requestPath : Option String) (network : Network) : Prop where
  sound : ¬ surroundings.environment.Overfilled assigned
  answered : ∃ settings addresses, surroundings.Loads assigned settingsPath settings ∧
    surroundings.Requests requestPath addresses ∧
    ∀ position query, addresses[position]? = some query →
      ∃ set, Http.Answered settings.endpoint settings.region network position query set

theorem writeFailure_pretty (failure : Failure) :
    Envelope.writeFailure .pretty failure ++ "\n" =
      "\x7b\n  \"message\": " ++ String.ofList (Json.writeString failure.message) ++ "\n\x7d\n" := by
  have opening : "\x7b\n  " ++ String.ofList (Json.writeString "message") ++ ": " =
      "\x7b\n  \"message\": " := by decide
  have closing : "\n\x7d" ++ "\n" = "\n\x7d\n" := by decide
  have written : Envelope.writeFailure .pretty failure =
      String.ofList ("\x7b\n  ".toList ++ Json.writeString "message" ++ ": ".toList ++
        Json.writeString failure.message ++ "\n\x7d".toList) := by
    apply congrArg String.ofList
    change _ ++ Json.writeString failure.message ++ [] ++ ['\n'] ++ ['\x7d'] = _
    rw [List.append_nil, List.append_assoc]
    rfl
  rw [written, ← opening, ← closing]
  simp only [String.ofList_append, String.ofList_toList, String.append_assoc]

variable {surroundings : Surroundings} {assigned : List (String × String)}
variable {settingsPath requestPath : Option String} {network : Network}

theorem geocode_eq {loaded : Settings} {addresses : List AddressQuery}
    (loads : settings surroundings settingsPath = .ok loaded)
    (reads : request? surroundings requestPath = some addresses) :
    geocode surroundings settingsPath requestPath network =
      (outcomeOf ((Http.batchRun loaded.endpoint loaded.timeout loaded.region network addresses).1.map
          .mk),
        (Http.batchRun loaded.endpoint loaded.timeout loaded.region network addresses).2) := by
  rw [geocode, loads, reads]
  have run := Service.geocodeUnlessCancelled_runFrom (Http.service loaded.endpoint loaded.timeout)
    (fun _ => false) loaded.region addresses network
  dsimp only
  rw [Service.geocode, ← Attempt.runFrom, run]
  rfl

theorem geocode_eq_of_unread
    (unreadable : (∀ loaded, settings surroundings settingsPath ≠ .ok loaded) ∨
      request? surroundings requestPath = none) :
    geocode surroundings settingsPath requestPath network = (⟨.failure, ""⟩, network) := by
  unfold geocode
  split
  · next loads reads =>
    rcases unreadable with unloaded | missing
    · exact (unloaded _ loads).elim
    · rw [missing] at reads
      cases reads
  · rfl

/-- What is left behind, as it can be told from outside. -/
def EndsWith (surroundings : Surroundings) (assigned : List (String × String))
    (settingsPath requestPath : Option String) (network : Network) (ending : Ending)
    (result : Outcome × Network) : Prop :=
  Ends surroundings assigned settingsPath requestPath network ending result.1.exit.toNat
    result.1.output result.2

theorem exists_endsWith_batchRun {loaded : Settings} {addresses : List AddressQuery}
    (sound : ¬ surroundings.environment.Overfilled assigned)
    (loads : surroundings.Loads assigned settingsPath loaded)
    (requests : surroundings.Requests requestPath addresses) :
    ∃ ending, EndsWith surroundings assigned settingsPath requestPath network ending
      (outcomeOf ((Http.batchRun loaded.endpoint loaded.timeout loaded.region network addresses).1.map
          .mk),
        (Http.batchRun loaded.endpoint loaded.timeout loaded.region network addresses).2) := by
  cases outcome : (Http.batchRun loaded.endpoint loaded.timeout loaded.region network
      addresses).1 with
  | error failure =>
    obtain ⟨position, posted, fails, posts, earlier, atMost, last⟩ := Http.batchRun_error outcome
    change ∃ ending, Ends _ _ _ _ _ ending 1 (Envelope.writeFailure .pretty failure ++ "\n") _
    rw [last, writeFailure_pretty]
    exact ⟨_, .failed sound loads requests fails posts earlier atMost⟩
  | ok sets =>
    obtain ⟨all, posted, posts, last⟩ := Http.batchRun_ok outcome
    rw [last]
    have listed := Envelope.sameSet_ofBatchResult ⟨sets⟩
    exact ⟨_, .geocoded sound loads requests all listed posts⟩

theorem exists_endsWith_geocode (finds : surroundings.Finds assigned) {environment : Environment}
    (made : environment? surroundings = some environment) :
    ∃ ending, EndsWith surroundings assigned settingsPath requestPath network ending
      (geocode { surroundings with environment } settingsPath requestPath network) := by
  have sound : ¬ surroundings.environment.Overfilled assigned := by
    rw [← finds.environment?_spec.1, made]
    exact Option.some_ne_none environment
  cases loads : settings { surroundings with environment } settingsPath with
  | error error =>
    have unloaded : ∀ loaded, ¬ surroundings.Loads assigned settingsPath loaded := by
      intro loaded
      rw [← finds.settings_eq_ok_iff made, loads]
      simp
    rw [geocode_eq_of_unread (.inl (by simp [loads]))]
    exact ⟨_, .unread sound (.inl unloaded)⟩
  | ok loaded =>
    cases reads : request? { surroundings with environment } requestPath with
    | none =>
      have unasked : ∀ addresses, ¬ surroundings.Requests requestPath addresses := by
        intro addresses
        rw [← Surroundings.request?_eq_some_iff environment, reads]
        simp
      rw [geocode_eq_of_unread (.inr reads)]
      exact ⟨_, .unread sound (.inr unasked)⟩
    | some addresses =>
      rw [geocode_eq loads reads]
      exact exists_endsWith_batchRun sound ((finds.settings_eq_ok_iff made).mp loads)
        ((Surroundings.request?_eq_some_iff environment).mp reads)

section Ends

variable {ending : Ending} {code : Nat} {output : String} {after : Network}

theorem Ends.code_eq
    (ends : Ends surroundings assigned settingsPath requestPath network ending code output after) :
    code = ending.code := by
  cases ends <;> rfl

theorem Ends.output_eq_empty_iff
    (ends : Ends surroundings assigned settingsPath requestPath network ending code output after) :
    output = "" ↔ ending = .brokenDown ∨ ending = .unread := by
  cases ends with
  | brokenDown => simp
  | unread => simp
  | failed => simp [String.append_eq_empty_iff]
  | geocoded => simp [String.append_eq_empty_iff]

theorem Ends.unique {other : Ending}
    (ends : Ends surroundings assigned settingsPath requestPath network ending code output after)
    (alsoEnds : Ends surroundings assigned settingsPath requestPath network other code output after) :
    ending = other := by
  have codes := ends.code_eq.symm.trans alsoEnds.code_eq
  have outputs := ends.output_eq_empty_iff.symm.trans alsoEnds.output_eq_empty_iff
  revert codes outputs
  cases ending <;> cases other <;> simp [Ending.code]

theorem Ends.eq_failed
    (ends : Ends surroundings assigned settingsPath requestPath network ending code output after)
    (failure : code = 1) (printed : output ≠ "") : ending = .failed := by
  cases ends with
  | brokenDown => cases failure
  | unread => exact (printed rfl).elim
  | failed => rfl
  | geocoded => cases failure

theorem Ends.succeeds_iff (finds : surroundings.Finds assigned)
    (ends : Ends surroundings assigned settingsPath requestPath network ending code output after) :
    code = 0 ↔ Succeeds surroundings assigned settingsPath requestPath network := by
  cases ends with
  | brokenDown overfilled =>
    exact iff_of_false (by decide) fun succeeds => succeeds.sound overfilled
  | unread sound unreadable =>
    refine iff_of_false (by decide) ?_
    rintro ⟨_, settings, addresses, loads, requests, _⟩
    rcases unreadable with unloaded | unasked
    · exact unloaded settings loads
    · exact unasked addresses requests
  | failed sound loads requests fails posts earlier atMost =>
    refine iff_of_false (by decide) ?_
    rintro ⟨_, settings, addresses, alsoLoads, alsoRequests, answered⟩
    obtain rfl := finds.loads_unique sound loads alsoLoads
    obtain rfl := requests.unique alsoRequests
    obtain ⟨query, found, failed⟩ := fails.failed
    obtain ⟨set, each⟩ := answered _ query found
    cases (Http.verdict_eq_ok_iff.mpr each).symm.trans failed.verdict_eq
  | geocoded sound loads requests all listed posts =>
    refine iff_of_true rfl ⟨sound, _, _, loads, requests, fun position query found => ?_⟩
    obtain ⟨before, _⟩ := List.getElem?_eq_some_iff.mp found
    obtain ⟨other, set, alsoFound, _, answered⟩ := all.geocoded position before
    obtain rfl := Option.some.inj (found.symm.trans alsoFound)
    exact ⟨set, answered⟩

end Ends

/-- A run that is asked to geocode ends in exactly one way: nothing is printed or sent because
something cannot be read; one failure is printed, that of the first address that fails; or one
list is printed for each address, after one message for each.  It is a success just if the
settings and the request are read and every address is answered.  It ends in a fourth way, and
again nothing is printed or sent, if the file of assignments gives a name a value that has no
place in the environment. -/
theorem run_geocode_outcome {arguments : List String} {settingsPath requestPath : Option String}
    (asked : CommandLine.parse? arguments = some (.run settingsPath (.geocode requestPath)))
    (surroundings : Surroundings) (network : Network) :
    (∃ assigned, surroundings.Finds assigned) ∧
    ∀ assigned, surroundings.Finds assigned →
      (∃! ending, EndsWith surroundings assigned settingsPath requestPath network ending
        (run arguments surroundings network)) ∧
      ((run arguments surroundings network).1.exit.toNat = 0 ↔
        Succeeds surroundings assigned settingsPath requestPath network) := by
  refine ⟨surroundings.exists_finds, fun assigned finds => ?_⟩
  obtain ⟨ending, ends⟩ : ∃ ending, EndsWith surroundings assigned settingsPath requestPath network
      ending (run arguments surroundings network) := by
    rw [run]
    cases made : environment? surroundings with
    | none => exact ⟨_, .brokenDown (finds.environment?_spec.1.mp made)⟩
    | some environment =>
      dsimp only
      rw [runCommand, asked]
      exact exists_endsWith_geocode finds made
  exact ⟨⟨ending, ends, fun other alsoEnds => alsoEnds.unique ends⟩, ends.succeeds_iff finds⟩

def streetText (street : String) : String :=
  "\x7b\"countryCode\":\"IT\",\"streetAddress\":\x7b\"streets\":[\"" ++ street ++
    "\"]\x7d,\"places\":[\x7b\"type\":\"MUNICIPALITY\",\"value\":\"Firenze\"\x7d]\x7d"

def streetQuery (street : String) : AddressQuery where
  countryCode := "IT"
  streetAddress := some ⟨[street], none⟩
  places := [⟨.municipality, "Firenze"⟩]

def streetForm (street : String) : Exchange where
  method := "POST"
  url := "http://rfc59/"
  contentType := "application/x-www-form-urlencoded"
  body := "algoritmo=2&indirizzo=" ++ street ++ "&localita=Firenze&fonte=1"

/-- What a run reads that is asked for two streets, and told of a service in the directory above
and of a region in the settings. -/
def twoStreets : Surroundings where
  files := .ofList [
    ("../.env", .file (Text.utf8 "OLS_NORMALIZATION_ENDPOINT=http://rfc59\n")),
    ("ols-geocoder.toml", .file (Text.utf8 "[geocoding]\nregion = \"Umbria\"\n"))]
  input := Text.utf8 ("\x7b\"addresses\":[" ++ streetText "Via Roma" ++ "," ++
    streetText "Via Pisana" ++ "]\x7d")

def florence (region : String) : Candidate where
  position := ⟨11.25, 43.5⟩
  address := {
    countryCode := "IT"
    places := [⟨.municipalitySubdivision, ""⟩, ⟨.municipality, "Firenze"⟩,
      ⟨.countrySecondarySubdivision, ""⟩, ⟨.countrySubdivision, region⟩]
    postalCode := none
    street := none }
  matchCode := ⟨"RFC59-2", 1⟩

/-- A network over which the city is told first, and behind a status that nothing is found. -/
def florenceThen (status : Http.Status) : Network where
  replies := [
    .interim (.answer ⟨200, by decide⟩ (Text.utf8 ("\x7b\"tipoRispostaNorm\":\"8\"," ++
      "\"localitaNormalizzata\":\x7b\"datiNormalizzazioneLoc\":\x7b\"localita\":\"Firenze\"," ++
      "\"xSezioneIstat\":11.25,\"ySezioneIstat\":43.5\x7d\x7d\x7d"))),
    .answer status (Text.utf8 "\x7b\"tipoRispostaNorm\":\"1\"\x7d")]

theorem run_twoStreets (network : Network) :
    run ["geocode"] twoStreets network =
      (outcomeOf ((Http.batchRun "http://rfc59" defaultTimeout "Umbria" network
          [streetQuery "Via Roma", streetQuery "Via Pisana"]).1.map .mk),
        (Http.batchRun "http://rfc59" defaultTimeout "Umbria" network
          [streetQuery "Via Roma", streetQuery "Via Pisana"]).2) := by
  have asked : CommandLine.parse? ["geocode"] = some (.run none (.geocode none)) := by decide
  have made : environment? twoStreets =
      some ⟨[("OLS_NORMALIZATION_ENDPOINT", "http://rfc59")]⟩ := by decide +kernel
  have loads : settings { twoStreets with
        environment := ⟨[("OLS_NORMALIZATION_ENDPOINT", "http://rfc59")]⟩ } none =
      .ok ⟨"http://rfc59", defaultTimeout, "Umbria"⟩ := by decide +kernel
  have reads : request? { twoStreets with
        environment := ⟨[("OLS_NORMALIZATION_ENDPOINT", "http://rfc59")]⟩ } none =
      some [streetQuery "Via Roma", streetQuery "Via Pisana"] := by decide +kernel
  rw [run, made]
  dsimp only
  rw [runCommand, asked]
  dsimp only
  rw [geocode_eq loads reads]

/-- Two streets that are answered are printed together.  If the second is refused, nothing is
printed of the first. -/
theorem run_geocode_outcome_twoStreets :
    CommandLine.parse? ["geocode"] = some (.run none (.geocode none)) ∧
    run ["geocode"] twoStreets (florenceThen ⟨200, by decide⟩) =
      (⟨.success, Envelope.writeResponse .pretty ⟨[.single (florence "Umbria"), .empty]⟩ ++ "\n"⟩,
        (florenceThen ⟨200, by decide⟩).after [streetForm "Via+Roma", streetForm "Via+Pisana"]) ∧
    (∃ assigned, twoStreets.Finds assigned ∧
      Succeeds twoStreets assigned none none (florenceThen ⟨200, by decide⟩)) ∧
    run ["geocode"] twoStreets (florenceThen ⟨500, by decide⟩) =
      (⟨.failure, "\x7b\n  \"message\": \"Remote error: Unexpected response status: " ++
          "500 Internal Server Error\"\n\x7d\n"⟩,
        (florenceThen ⟨500, by decide⟩).after [streetForm "Via+Roma", streetForm "Via+Pisana"]) ∧
    ∃ assigned, twoStreets.Finds assigned ∧
      EndsWith twoStreets assigned none none (florenceThen ⟨500, by decide⟩) .failed
        (run ["geocode"] twoStreets (florenceThen ⟨500, by decide⟩)) ∧
      ¬ Succeeds twoStreets assigned none none (florenceThen ⟨500, by decide⟩) := by
  have asked : CommandLine.parse? ["geocode"] = some (.run none (.geocode none)) := by decide
  have answered : Http.batchRun "http://rfc59" defaultTimeout "Umbria"
      (florenceThen ⟨200, by decide⟩) [streetQuery "Via Roma", streetQuery "Via Pisana"] =
        (.ok [.single (florence "Umbria"), .empty],
          (florenceThen ⟨200, by decide⟩).after
            [streetForm "Via+Roma", streetForm "Via+Pisana"]) := by
    decide +kernel
  have refused : Http.batchRun "http://rfc59" defaultTimeout "Umbria"
      (florenceThen ⟨500, by decide⟩) [streetQuery "Via Roma", streetQuery "Via Pisana"] =
        (.error (.remote (.transport "Unexpected response status: 500 Internal Server Error")),
          (florenceThen ⟨500, by decide⟩).after
            [streetForm "Via+Roma", streetForm "Via+Pisana"]) := by
    decide +kernel
  have message : outcomeOf (.error (.remote (.transport
        "Unexpected response status: 500 Internal Server Error"))) =
      ⟨.failure, "\x7b\n  \"message\": \"Remote error: Unexpected response status: " ++
        "500 Internal Server Error\"\n\x7d\n"⟩ := by
    decide +kernel
  have succeeded := run_twoStreets (florenceThen ⟨200, by decide⟩)
  rw [answered] at succeeded
  have failed := run_twoStreets (florenceThen ⟨500, by decide⟩)
  rw [refused] at failed
  obtain ⟨⟨assigned, finds⟩, outcome⟩ :=
    run_geocode_outcome asked twoStreets (florenceThen ⟨200, by decide⟩)
  obtain ⟨_, success⟩ := outcome assigned finds
  obtain ⟨_, failedOutcome⟩ :=
    run_geocode_outcome asked twoStreets (florenceThen ⟨500, by decide⟩)
  obtain ⟨⟨ending, ends, _⟩, failure⟩ := failedOutcome assigned finds
  obtain rfl : ending = .failed := by
    apply ends.eq_failed
    · rw [failed]
      rfl
    · rw [failed, Except.map, message]
      simp
  refine ⟨asked, succeeded, ⟨assigned, finds, success.mp ?_⟩, failed.trans ?_, assigned, finds,
    ends, failure.not.mp ?_⟩
  · rw [succeeded]
    rfl
  · rw [← message]
    rfl
  · rw [failed]
    decide

/-- What a run reads that finds the character zero for an endpoint, and no addresses on standard
input. -/
def zeroAssigned : Surroundings where
  files := .ofList [(".env", .file (Text.utf8 "OLS_NORMALIZATION_ENDPOINT=\x00\n"))]
  input := Text.utf8 "\x7b\"addresses\":[]\x7d"

/-- The settings and the request can be read and there is nothing to ask, and yet the run does not
end with a response, nor with a failure. -/
theorem run_geocode_zeroAssigned :
    CommandLine.parse? ["geocode"] = some (.run none (.geocode none)) ∧
    settings zeroAssigned none = .ok ⟨defaultEndpoint, defaultTimeout, defaultRegion⟩ ∧
    request? zeroAssigned none = some [] ∧
    run ["geocode"] zeroAssigned { reachable := false } =
      (⟨.breakdown, ""⟩, { reachable := false }) ∧
    ExitCode.breakdown.toNat = 101 := by
  decide +kernel

end Geocoding.Program
