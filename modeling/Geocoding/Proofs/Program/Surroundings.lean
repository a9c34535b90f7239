import Geocoding.Program
import Geocoding.Proofs.Envelope.Request
import Geocoding.Proofs.Json.Wholeness
import Geocoding.Proofs.Settings.Layering

/-!
# What a run is told

A run makes the assignments of the nearest file of them before all else.  Then it has its settings
from a file, with the endpoint that the environment or else these assignments name, and its
addresses from a request in a file or on standard input.
-/

namespace Geocoding

open Text (Symbol)

/-! ## The nearest file -/

namespace Files

variable {files : Files} {name : String} {content : List UInt8}

/-- The file with a name that is met first on the way up from the directory the program runs in,
at last in the root. -/
inductive Nearest (files : Files) (name : String) (content : List UInt8) : Prop
  | upward (level : Nat)
      (stands : files.lookup? (List.replicate level ".." ++ [name]) = some (.file content))
      (first : ∀ lower < level, ∀ other,
        files.lookup? (List.replicate lower ".." ++ [name]) ≠ some (.file other))
  | root (stands : files.lookup? ["/", name] = some (.file content))
      (first : ∀ level other,
        files.lookup? (List.replicate level ".." ++ [name]) ≠ some (.file other))

theorem content?_eq_some_iff {place : List String} :
    files.content? place = some content ↔ files.lookup? place = some (.file content) := by
  rw [content?]
  split
  · next found => simp [found]
  · next absent => simpa using absent content

theorem length_le_depth {place : List String} {entry : FileEntry}
    (listed : (place, entry) ∈ files.entries) : place.length ≤ files.depth := by
  obtain ⟨entries⟩ := files
  rw [depth]
  induction entries with
  | nil => simp at listed
  | cons head rest ih =>
    rw [List.foldr_cons]
    obtain rfl | listed := List.mem_cons.mp listed
    · exact Nat.le_max_left _ _
    · exact (ih listed).trans (Nat.le_max_right _ _)

theorem lt_depth_of_content? {level : Nat}
    (stands : files.content? (upward name level) = some content) : level < files.depth := by
  rw [content?_eq_some_iff, lookup?] at stands
  split at stands
  · cases stands
  · obtain ⟨before, after, split, _⟩ := List.lookup_eq_some_iff.mp stands
    have listed : (upward name level, FileEntry.file content) ∈ files.entries := by simp [split]
    have short := length_le_depth listed
    rw [upward, List.length_append, List.length_replicate, List.length_singleton] at short
    exact short

theorem isSome_content?_eq_false_iff {place : List String} :
    (files.content? place).isSome = false ↔ ∀ other, files.lookup? place ≠ some (.file other) := by
  rw [Option.isSome_eq_false_iff, Option.isNone_iff_eq_none, Option.eq_none_iff_forall_ne_some]
  simp only [ne_eq, content?_eq_some_iff]

theorem nearest_of_nearest?_eq (found : files.nearest? name = some content) :
    files.Nearest name content := by
  rw [nearest?] at found
  split at found
  · next level search =>
    obtain ⟨_, _, first⟩ := List.find?_range_eq_some.mp search
    refine .upward level (content?_eq_some_iff.mp found) fun lower below => ?_
    exact isSome_content?_eq_false_iff.mp ((Bool.not_eq_true' _).mp (first lower below))
  · next search =>
    have absent := List.find?_range_eq_none.mp search
    refine .root (content?_eq_some_iff.mp found) fun level other stands => ?_
    have within := lt_depth_of_content? (content?_eq_some_iff.mpr stands)
    exact isSome_content?_eq_false_iff.mp ((Bool.not_eq_true' _).mp (absent level within)) other stands

theorem Nearest.nearest?_eq (nearest : files.Nearest name content) :
    files.nearest? name = some content := by
  rw [nearest?]
  cases nearest with
  | upward level stands first =>
    have held : files.content? (Files.upward name level) = some content :=
      content?_eq_some_iff.mpr stands
    have search : (List.range files.depth).find? (fun level =>
        (files.content? (Files.upward name level)).isSome) = some level := by
      refine List.find?_range_eq_some.mpr ⟨by rw [held]; rfl,
        List.mem_range.mpr (lt_depth_of_content? held), fun lower below => ?_⟩
      exact congrArg not (isSome_content?_eq_false_iff.mpr (first lower below))
    rw [search]
    exact held
  | root stands first =>
    have search : (List.range files.depth).find? (fun level =>
        (files.content? (Files.upward name level)).isSome) = none :=
      List.find?_range_eq_none.mpr fun level _ =>
        congrArg not (isSome_content?_eq_false_iff.mpr (first level))
    rw [search]
    exact content?_eq_some_iff.mpr stands

theorem nearest?_eq_some_iff :
    files.nearest? name = some content ↔ files.Nearest name content :=
  ⟨nearest_of_nearest?_eq, Nearest.nearest?_eq⟩

end Files

/-! ## Assignments -/

namespace Environment

/-- The assignments that are read from some lines, up to the first line that cannot be read.  A
value may refer to the environment and to what is assigned before it. -/
inductive Assigns : Environment → List (String × String) → List (Option (List Char)) →
    List (String × String) → Prop
  | done {environment : Environment} {earlier : List (String × String)} :
      Assigns environment earlier [] []
  | unknown {environment : Environment} {earlier : List (String × String)}
      {rest : List (Option (List Char))} : Assigns environment earlier (none :: rest) []
  | unreadable {environment : Environment} {earlier : List (String × String)} {line : List Char}
      {rest : List (Option (List Char))}
      (refused : readAssignment? (environment.valueOf earlier) line = none) :
      Assigns environment earlier (some line :: rest) []
  | empty {environment : Environment} {earlier assigned : List (String × String)}
      {line : List Char} {rest : List (Option (List Char))}
      (skipped : readAssignment? (environment.valueOf earlier) line = some none)
      (others : Assigns environment earlier rest assigned) :
      Assigns environment earlier (some line :: rest) assigned
  | assign {environment : Environment} {earlier assigned : List (String × String)}
      {line name value : List Char} {rest : List (Option (List Char))}
      (accepted : readAssignment? (environment.valueOf earlier) line = some (some (name, value)))
      (others : Assigns (environment.extend (String.ofList name) (String.ofList value))
        ((String.ofList name, String.ofList value) :: earlier) rest assigned) :
      Assigns environment earlier (some line :: rest)
        ((String.ofList name, String.ofList value) :: assigned)

/-- A name without a value is first given one that the environment has no place for. -/
def Overfilled (environment : Environment) (assigned : List (String × String)) : Prop :=
  ∃ name value, environment.get? name = none ∧ assigned.lookup name = some value ∧
    '\x00' ∈ value.toList

variable {environment : Environment} {earlier assigned : List (String × String)}

theorem exists_assigns (environment : Environment) (earlier : List (String × String))
    (lines : List (Option (List Char))) :
    ∃ assigned, Assigns environment earlier lines assigned := by
  induction lines generalizing environment earlier with
  | nil => exact ⟨_, .done⟩
  | cons line rest ih =>
    cases line with
    | none => exact ⟨_, .unknown⟩
    | some line =>
      cases read : readAssignment? (environment.valueOf earlier) line with
      | none => exact ⟨_, .unreadable read⟩
      | some pair =>
        cases pair with
        | none =>
          obtain ⟨assigned, others⟩ := ih environment earlier
          exact ⟨_, .empty read others⟩
        | some pair =>
          obtain ⟨assigned, others⟩ := ih _ _
          exact ⟨_, .assign read others⟩

theorem get?_extend (name value other : String) :
    (environment.extend name value).get? other =
      (environment.get? other).or ([(name, value)].lookup other) := by
  rw [extend]
  split
  · next known =>
    by_cases same : other = name
    · rw [same]
      cases found : environment.get? name with
      | none => simp [found] at known
      | some value => rfl
    · simp [List.lookup_cons, beq_false_of_ne same]
  · rw [get?, List.lookup_append]
    rfl

theorem overfilled_cons_iff {name value : String} :
    environment.Overfilled ((name, value) :: assigned) ↔
      (environment.get? name = none ∧ '\x00' ∈ value.toList) ∨
        (environment.extend name value).Overfilled assigned := by
  constructor
  · rintro ⟨known, found, unset, first, zero⟩
    by_cases same : known = name
    · subst same
      obtain rfl : value = found := by simpa using first
      exact .inl ⟨unset, zero⟩
    · rw [List.lookup_cons, beq_false_of_ne same] at first
      refine .inr ⟨known, found, ?_, first, zero⟩
      rw [get?_extend, unset, List.lookup_cons, beq_false_of_ne same]
      rfl
  · rintro (⟨unset, zero⟩ | ⟨known, found, unset, first, zero⟩)
    · exact ⟨name, value, unset, by simp, zero⟩
    · rw [get?_extend, Option.or_eq_none_iff] at unset
      have differs : known ≠ name := by
        rintro rfl
        simp at unset
      exact ⟨known, found, unset.1, by rw [List.lookup_cons, beq_false_of_ne differs]; exact first,
        zero⟩

/-- Assignments are made unless a name is overfilled, and give their values to names that have
none. -/
theorem Assigns.assignLines_spec {lines : List (Option (List Char))}
    (assigns : Assigns environment earlier lines assigned) :
    (environment.assignLines earlier lines = none ↔ environment.Overfilled assigned) ∧
      ∀ after, environment.assignLines earlier lines = some after →
        ∀ name, after.get? name = (environment.get? name).or (assigned.lookup name) := by
  induction assigns with
  | done => simp [assignLines, Overfilled]
  | unknown => simp [assignLines, Overfilled]
  | unreadable refused => simp [assignLines, refused, Overfilled]
  | empty skipped others ih =>
    rw [assignLines, skipped]
    exact ih
  | @assign environment earlier assigned line name value rest accepted others ih =>
    rw [assignLines, accepted, overfilled_cons_iff]
    dsimp only
    rw [define?]
    split
    · next full => exact ⟨iff_of_true rfl (.inl full), fun _ made => by cases made⟩
    · next room =>
      obtain ⟨stuck, values⟩ := ih
      refine ⟨stuck.trans (or_iff_right room).symm, fun after made other => ?_⟩
      rw [values after made, get?_extend, Option.or_assoc, ← List.lookup_append]
      rfl

end Environment

namespace Surroundings

variable {surroundings : Surroundings} {assigned : List (String × String)}

/-- The assignments that a run finds. -/
inductive Finds (surroundings : Surroundings) : List (String × String) → Prop
  | nearest {content : List UInt8} {assigned : List (String × String)}
      (stands : surroundings.files.Nearest ".env" content)
      (assigns : Environment.Assigns surroundings.environment []
        (Environment.lines (Symbol.ofBytes content)) assigned) : Finds surroundings assigned
  | nothing (absent : ∀ content, ¬ surroundings.files.Nearest ".env" content) :
      Finds surroundings []

theorem exists_finds (surroundings : Surroundings) :
    ∃ assigned, surroundings.Finds assigned := by
  by_cases found : ∃ content, surroundings.files.Nearest ".env" content
  · obtain ⟨content, stands⟩ := found
    obtain ⟨assigned, assigns⟩ := Environment.exists_assigns surroundings.environment []
      (Environment.lines (Symbol.ofBytes content))
    exact ⟨assigned, .nearest stands assigns⟩
  · exact ⟨[], .nothing (not_exists.mp found)⟩

theorem Finds.environment?_spec (finds : surroundings.Finds assigned) :
    (Program.environment? surroundings = none ↔ surroundings.environment.Overfilled assigned) ∧
      ∀ environment, Program.environment? surroundings = some environment →
        ∀ name, environment.get? name =
          (surroundings.environment.get? name).or (assigned.lookup name) := by
  rw [Program.environment?, Program.assignmentsName]
  cases finds with
  | nearest stands assigns =>
    rw [Files.nearest?_eq_some_iff.mpr stands]
    exact assigns.assignLines_spec
  | nothing absent =>
    have nowhere : surroundings.files.nearest? ".env" = none := by
      rw [Option.eq_none_iff_forall_ne_some]
      intro content stands
      exact absent content (Files.nearest?_eq_some_iff.mp stands)
    rw [nowhere]
    simp [Environment.Overfilled]

/-! ## Settings and requests -/

/-- A run goes by these settings, which a file tells together with the defaults.  The endpoint is
the one that the environment names, or else the assignments, if they name one. -/
def Loads (surroundings : Surroundings) (assigned : List (String × String)) (path : Option String)
    (settings : Settings) : Prop :=
  ∃ told, SettingsFile.ToldBy surroundings.files (path.getD "ols-geocoder.toml") told ∧
    SettingsFile.Usable settings.timeout settings.region ∧
    settings.endpoint = ((surroundings.environment.get? "OLS_NORMALIZATION_ENDPOINT").or
      (assigned.lookup "OLS_NORMALIZATION_ENDPOINT")).getD
        (told.endpoint?.getD defaultEndpoint) ∧
    settings.timeout = told.timeout?.getD defaultTimeout ∧
    settings.region = told.region?.getD defaultRegion

/-- What a request is read from, the file under a path or standard input. -/
inductive Receives (surroundings : Surroundings) : Option String → List UInt8 → Prop
  | input : Receives surroundings none surroundings.input
  | file {path : String} {content : List UInt8}
      (stands : surroundings.files.read path = .ok content) :
      Receives surroundings (some path) content

/-- A run is asked for these addresses, by one JSON document that is read as a request with the
same parts. -/
def Requests (surroundings : Surroundings) (path : Option String)
    (addresses : List AddressQuery) : Prop :=
  ∃ content node value, surroundings.Receives path content ∧
    Symbol.ofBytes content ∈ node.documents ∧ Envelope.requestShape.read 0 node = .ok value ∧
    List.Forall₂ Envelope.SameAddress value.1 addresses

end Surroundings

theorem toOption_eq_some_iff {Cause Result : Type} {outcome : Except Cause Result}
    {result : Result} : outcome.toOption = some result ↔ outcome = .ok result := by
  cases outcome <;> simp [Except.toOption]

theorem readRequest_eq_ok_iff {text : List Symbol} {addresses : List AddressQuery} :
    Envelope.readRequest text = .ok addresses ↔
      ∃ node value, text ∈ node.documents ∧ Envelope.requestShape.read 0 node = .ok value ∧
        List.Forall₂ Envelope.SameAddress value.1 addresses := by
  simp only [← Envelope.addressesOf_eq_iff]
  exact Json.Shape.readText_bind_eq_ok_iff

theorem SettingsFile.exists_toldBy {files : Files} {path : String} {told : SettingsFile}
    (loaded : load files path = .ok told) : ∃ found, ToldBy files path found := by
  rw [load] at loaded
  split at loaded
  · next missing => exact ⟨_, .absent missing⟩
  · cases loaded
  · next content stands =>
    split at loaded
    · next found accepted => exact ⟨_, .present stands accepted⟩
    · cases loaded

namespace Surroundings

variable {surroundings : Surroundings} {assigned : List (String × String)}

theorem Finds.settings_eq_ok_iff (finds : surroundings.Finds assigned) {environment : Environment}
    (made : Program.environment? surroundings = some environment) {path : Option String}
    {settings : Settings} :
    Program.settings { surroundings with environment } path = .ok settings ↔
      surroundings.Loads assigned path settings := by
  obtain ⟨_, values⟩ := finds.environment?_spec
  rw [Program.settings, values environment made]
  constructor
  · intro loaded
    obtain ⟨_, found, _⟩ := Json.Reading.bind_eq_ok.mp loaded
    obtain ⟨told, stands⟩ := SettingsFile.exists_toldBy found
    obtain ⟨usable, rfl⟩ := (Settings.load_eq_ok_iff stands).mp loaded
    exact ⟨told, stands, usable, rfl, rfl, rfl⟩
  · rintro ⟨told, stands, usable, endpoint, timeout, region⟩
    rw [timeout, region] at usable
    refine (Settings.load_eq_ok_iff stands).mpr ⟨usable, ?_⟩
    rw [← timeout, ← region]
    exact congrArg (Settings.mk · settings.timeout settings.region) endpoint

theorem Finds.loads_unique (finds : surroundings.Finds assigned)
    (sound : ¬ surroundings.environment.Overfilled assigned) {path : Option String}
    {first second : Settings} (loads : surroundings.Loads assigned path first)
    (alsoLoads : surroundings.Loads assigned path second) : first = second := by
  cases made : Program.environment? surroundings with
  | none => exact (sound (finds.environment?_spec.1.mp made)).elim
  | some environment =>
    have loaded := (finds.settings_eq_ok_iff made).mpr loads
    rw [(finds.settings_eq_ok_iff made).mpr alsoLoads] at loaded
    exact (Except.ok.inj loaded).symm

theorem request?_eq_some_iff (environment : Environment) {path : Option String}
    {addresses : List AddressQuery} :
    Program.request? { surroundings with environment } path = some addresses ↔
      surroundings.Requests path addresses := by
  cases path with
  | none =>
    change (Envelope.readRequest (Symbol.ofBytes surroundings.input)).toOption = _ ↔ _
    rw [toOption_eq_some_iff, readRequest_eq_ok_iff]
    constructor
    · rintro ⟨node, value, read⟩
      exact ⟨_, node, value, .input, read⟩
    · rintro ⟨content, node, value, received, read⟩
      cases received
      exact ⟨node, value, read⟩
  | some path =>
    change ((surroundings.files.read path).toOption.bind fun content =>
      (Envelope.readRequest (Symbol.ofBytes content)).toOption) = _ ↔ _
    simp only [Option.bind_eq_some_iff, toOption_eq_some_iff, readRequest_eq_ok_iff]
    constructor
    · rintro ⟨content, stands, node, value, read⟩
      exact ⟨content, node, value, .file stands, read⟩
    · rintro ⟨content, node, value, received, read⟩
      cases received with
      | file stands => exact ⟨content, stands, node, value, read⟩

theorem Requests.unique {path : Option String} {first second : List AddressQuery}
    (requests : surroundings.Requests path first)
    (alsoRequests : surroundings.Requests path second) : first = second := by
  have asked := (request?_eq_some_iff surroundings.environment).mpr requests
  rw [(request?_eq_some_iff surroundings.environment).mpr alsoRequests] at asked
  exact (Option.some.inj asked).symm

end Surroundings

end Geocoding
