import Geocoding.Proofs.Json.Record
import Geocoding.Proofs.Text.Blank
import Geocoding.Proofs.Text.Symbol
import Geocoding.Settings

/-!
# Where each setting comes from

An endpoint, a deadline and a region are each looked for in the settings file and have a default
otherwise, whether the file, the section or the key is missing.  The defaults reach a setting by
different ways, as part of the file that is built in or as a value of their own, and agree.
The environment has a say in the endpoint only, and only once the rest is known to be complete.
-/

namespace Geocoding

namespace SettingsFile

/-! ## What is told of each setting -/

def endpoint? (told : SettingsFile) : Option String := told.normalization.bind (·.endpoint)

def timeout? (told : SettingsFile) : Option Duration := told.normalization.bind (·.timeout)

def region? (told : SettingsFile) : Option String := told.geocoding.bind (·.region)

/-- What is told by the file under a path.  One that is not there tells nothing. -/
inductive ToldBy (files : Files) (path : String) : SettingsFile → Prop
  | absent (missing : files.readText path = .error .notFound) : ToldBy files path {}
  | present {content : List Char} {told : SettingsFile} (stands : files.readText path = .ok content)
      (accepted : read? content = some told) : ToldBy files path told

/-! ## The defaults -/

theorem builtIn_eq :
    builtIn = ⟨some ⟨some defaultEndpoint, some defaultTimeout⟩, some ⟨some defaultRegion⟩⟩ := by
  decide +kernel

theorem read?_nil : read? [] = some {} := by
  decide +kernel

theorem getD_or_eq {Section Value : Type} (tables : Option Section) (key : Section → Option Value)
    (others : Section) {value : Value} (known : key others = some value) :
    (key (tables.getD others)).or (some value) = some ((tables.bind key).getD value) := by
  cases tables with
  | none => simp [known]
  | some tables => cases found : key tables <;> simp [found]

theorem getD_timeout (told : SettingsFile) :
    (told.normalization.getD ⟨some defaultEndpoint, some defaultTimeout⟩).timeout.getD
      defaultTimeout = told.timeout?.getD defaultTimeout := by
  have same := getD_or_eq told.normalization NormalizationSection.timeout
    ⟨some defaultEndpoint, some defaultTimeout⟩ rfl
  rw [← Option.some_inj, timeout?, ← same]
  cases (told.normalization.getD _).timeout <;> rfl

/-! ## Complete settings -/

/-- Settings that can be worked with: there is time for a question, and the region has a
character that is not blank. -/
structure Usable (timeout : Duration) (region : String) : Prop where
  positive : 0 < timeout.nanoseconds
  named : ∃ character ∈ region.toList, Text.isBlank character = false

theorem exists_not_blank_iff {region : String} :
    (∃ character ∈ region.toList, Text.isBlank character = false) ↔
      (Text.trim region.toList).isEmpty = false := by
  rw [← not_iff_not, Bool.not_eq_false, List.isEmpty_iff, Text.trim_eq_nil_iff]
  simp

/-- A file gives settings just if its deadline and its region can be worked with.  Each
setting is what the file tells of it, or else its default. -/
theorem complete_eq_ok_iff {told : SettingsFile} {settings : Settings} :
    told.complete = .ok settings ↔
      Usable (told.timeout?.getD defaultTimeout) (told.region?.getD defaultRegion) ∧
        settings = ⟨told.endpoint?.getD defaultEndpoint, told.timeout?.getD defaultTimeout,
          told.region?.getD defaultRegion⟩ := by
  have endpoint := getD_or_eq told.normalization NormalizationSection.endpoint
    ⟨some defaultEndpoint, some defaultTimeout⟩ rfl
  have region := getD_or_eq told.geocoding GeocodingSection.region
    ⟨some defaultRegion⟩ rfl
  rw [complete, builtIn_eq]
  simp only [Option.getD_some, endpoint, region, getD_timeout, endpoint?, region?]
  generalize told.timeout?.getD defaultTimeout = timeout
  generalize (told.geocoding.bind GeocodingSection.region).getD defaultRegion = region
  by_cases zero : timeout.nanoseconds = 0
  · refine iff_of_false ?_ fun usable => usable.1.positive.ne' zero
    simp [zero, throw, throwThe, MonadExceptOf.throw, bind, Except.bind]
  · cases blank : (Text.trim region.toList).isEmpty with
    | true =>
      refine iff_of_false ?_ fun usable => ?_
      · simp [zero, blank, Option.filter, throw, throwThe, MonadExceptOf.throw]
      · simpa [blank] using exists_not_blank_iff.mp usable.1.named
    | false =>
      have usable : Usable timeout region :=
        ⟨Nat.pos_of_ne_zero zero, exists_not_blank_iff.mpr blank⟩
      simp [zero, blank, Option.filter, pure, Except.pure, usable, eq_comm]

theorem usable_iff (told : SettingsFile) :
    Usable (told.timeout?.getD defaultTimeout) (told.region?.getD defaultRegion) ↔
      (∀ timeout ∈ told.timeout?, timeout.nanoseconds ≠ 0) ∧
        ∀ region ∈ told.region?, ∃ character ∈ region.toList, Text.isBlank character = false := by
  have timeDefault : 0 < defaultTimeout.nanoseconds := by decide
  have regionDefault : ∃ character ∈ defaultRegion.toList, Text.isBlank character = false :=
    ⟨'T', by decide, by decide⟩
  constructor
  · rintro ⟨positive, named⟩
    constructor
    · intro timeout told
      rw [told] at positive
      exact positive.ne'
    · intro region told
      rw [told] at named
      exact named
  · rintro ⟨positive, named⟩
    constructor
    · cases told : told.timeout? with
      | none => exact timeDefault
      | some timeout => exact Nat.pos_of_ne_zero (positive timeout told)
    · cases told : told.region? with
      | none => exact regionDefault
      | some region => exact named region told

/-- The file that is built in stands for one that is not there, which makes no difference to
the settings. -/
theorem complete_builtIn : builtIn.complete = complete {} := by
  have same {settings : Settings} :
      builtIn.complete = .ok settings ↔ complete {} = .ok settings := by
    rw [complete_eq_ok_iff, complete_eq_ok_iff, builtIn_eq]
    rfl
  have usable : Usable defaultTimeout defaultRegion := (usable_iff {}).mpr ⟨nofun, nofun⟩
  have made : complete {} = .ok ⟨defaultEndpoint, defaultTimeout, defaultRegion⟩ :=
    complete_eq_ok_iff.mpr ⟨usable, rfl⟩
  exact (same.mpr made).trans made.symm

theorem ToldBy.load_bind_complete {files : Files} {path : String} {told : SettingsFile}
    (stands : told.ToldBy files path) : load files path >>= complete = told.complete := by
  cases stands with
  | absent missing =>
    rw [load, missing]
    exact (pure_bind builtIn complete).trans complete_builtIn
  | present stands accepted =>
    rw [load, stands]
    dsimp only
    rw [accepted]
    rfl

end SettingsFile

namespace Settings

open SettingsFile

variable {files : Files} {path : Option String}

theorem load_eq_map (environment : Option String) :
    load files path environment =
      (load files path none).map (·.withEnvironment environment) := by
  rw [load, load]
  cases SettingsFile.load files (path.getD defaultSettingsPath) with
  | error => rfl
  | ok told =>
    cases made : told.complete with
    | error => simp [made, bind, Except.bind, Except.map]
    | ok settings => simp [made, bind, Except.bind, Except.map, pure, Except.pure, withEnvironment]

theorem load_eq_error_iff (environment other : Option String) (error : SettingsError) :
    load files path environment = .error error ↔ load files path other = .error error := by
  rw [load_eq_map environment, load_eq_map other]
  cases load files path none <;> simp [Except.map]

theorem load_eq_ok_iff {told : SettingsFile}
    (stands : told.ToldBy files (path.getD defaultSettingsPath)) {environment : Option String}
    {settings : Settings} :
    load files path environment = .ok settings ↔
      Usable (told.timeout?.getD defaultTimeout) (told.region?.getD defaultRegion) ∧
        settings = ⟨environment.getD (told.endpoint?.getD defaultEndpoint),
          told.timeout?.getD defaultTimeout, told.region?.getD defaultRegion⟩ := by
  have complete : load files path environment =
      told.complete >>= fun settings => pure (settings.withEnvironment environment) := by
    rw [← stands.load_bind_complete, bind_assoc]
    rfl
  rw [complete, Json.Reading.bind_eq_ok]
  constructor
  · rintro ⟨made, isMade, same⟩
    obtain ⟨usable, rfl⟩ := complete_eq_ok_iff.mp isMade
    cases same
    exact ⟨usable, rfl⟩
  · rintro ⟨usable, rfl⟩
    exact ⟨_, complete_eq_ok_iff.mpr ⟨usable, rfl⟩, rfl⟩

/-- Settings are loaded just if the file tells of no deadline that is zero and of no blank
region, whatever the environment.  Then each of them is told by the file or is its default,
except for an endpoint from the environment; and the defaults are the same whatever is missing. -/
theorem load_layering {told : SettingsFile}
    (stands : told.ToldBy files (path.getD defaultSettingsPath)) (environment : Option String) :
    ((∃ settings, load files path environment = .ok settings) ↔
      (∀ timeout ∈ told.timeout?, timeout.nanoseconds ≠ 0) ∧
        ∀ region ∈ told.region?, ∃ character ∈ region.toList, Text.isBlank character = false) ∧
    (∀ settings, load files path environment = .ok settings →
      settings.endpoint = environment.getD (told.endpoint?.getD defaultEndpoint) ∧
        settings.timeout = told.timeout?.getD defaultTimeout ∧
        settings.region = told.region?.getD defaultRegion ∧
        Usable settings.timeout settings.region) ∧
    (∀ other error, load files path environment = .error error ↔
      load files path other = .error error) ∧
    builtIn = ⟨some ⟨some defaultEndpoint, some defaultTimeout⟩, some ⟨some defaultRegion⟩⟩ ∧
    read? [] = some {} := by
  refine ⟨?_, ?_, load_eq_error_iff environment, builtIn_eq, read?_nil⟩
  · rw [← usable_iff]
    constructor
    · rintro ⟨settings, loaded⟩
      exact ((load_eq_ok_iff stands).mp loaded).1
    · intro usable
      exact ⟨_, (load_eq_ok_iff stands).mpr ⟨usable, rfl⟩⟩
  · intro settings loaded
    obtain ⟨usable, rfl⟩ := (load_eq_ok_iff stands).mp loaded
    exact ⟨rfl, rfl, rfl, usable⟩

def regionOnly : Files :=
  .ofList [(defaultSettingsPath,
    .file (Text.utf8 "[normalization]\n[geocoding]\nregion = \" Toscana \"\n"))]

/-- A region stays as it is written, and an endpoint may be empty. -/
theorem load_layering_regionOnly :
    (SettingsFile.mk (some {}) (some ⟨some " Toscana "⟩)).ToldBy regionOnly
      (Option.getD none defaultSettingsPath) ∧
    ∃ settings, load regionOnly none (some "") = .ok settings ∧ settings.endpoint = "" ∧
      settings.timeout = defaultTimeout ∧ settings.region = " Toscana " := by
  have stands : (SettingsFile.mk (some {}) (some ⟨some " Toscana "⟩)).ToldBy regionOnly
      (Option.getD none defaultSettingsPath) := by
    have text : regionOnly.readText defaultSettingsPath =
        .ok "[normalization]\n[geocoding]\nregion = \" Toscana \"\n".toList := by
      decide +kernel
    exact .present text (by decide +kernel)
  obtain ⟨loads, each, _⟩ := load_layering stands (some "")
  have usable : ∀ region ∈ some " Toscana ", ∃ character ∈ region.toList,
      Text.isBlank character = false := by
    rintro region ⟨⟩
    exact ⟨'T', by decide, by decide⟩
  obtain ⟨settings, loaded⟩ := loads.mpr ⟨nofun, usable⟩
  obtain ⟨endpoint, timeout, region, _⟩ := each settings loaded
  exact ⟨stands, settings, loaded, endpoint, timeout, region⟩

end Settings

end Geocoding
