import Geocoding.Interpretation

/-!
# What an answer is read as

Four kinds of answers yield a result set, each from the one section its code selects, and
every other answer is refused for one cause.  The cases are stated by the texts of the codes,
as the service sends them: a text that is not one of the eight is no code, whatever number it
may spell.
-/

namespace Geocoding

theorem ResponseCode.ofWire?_eq_some_iff {text : String} {code : ResponseCode} :
    ofWire? text = some code ↔ text = code.wireCode :=
  ⟨fun found => (wireCode_of_ofWire? found).symm, fun same => by rw [same, ofWire?_wireCode]⟩

theorem ResponseCode.ofWire?_eq_none_iff {text : String} :
    ofWire? text = none ↔ text ∉ ["0", "1", "2", "3", "6", "7", "8", "9"] := by
  rw [ofWire?, List.find?_eq_none]
  simp [all, wireCode, eq_comm]

theorem AmbiguousAddress.resultSet_eq_ok_iff {ambiguous : AmbiguousAddress} {set : ResultSet} :
    ambiguous.resultSet = .ok set ↔
      ambiguous.reportedCount = ambiguous.items.length ∧
        set = ⟨ambiguous.reportedCount, ambiguous.items.map AmbiguousItem.candidate⟩ := by
  rw [resultSet]
  split <;> simp [*, eq_comm]

theorem AmbiguousAddress.resultSet_eq_error_iff {ambiguous : AmbiguousAddress}
    {error : InterpretationError} :
    ambiguous.resultSet = .error error ↔
      ambiguous.reportedCount ≠ ambiguous.items.length ∧
        error = .candidateCountMismatch ambiguous.reportedCount ambiguous.items.length := by
  rw [resultSet]
  split <;> simp [*, eq_comm]

namespace RawAnswer

/-- The result sets that an answer is read as, by its code and the section in it that
counts. -/
inductive ReadAs (answer : RawAnswer) (region : String) : ResultSet → Prop
  | recognized {recognized : RecognizedAddress} (code : answer.responseCode = "0")
      (found : answer.recognizedAddress = some recognized) :
      ReadAs answer region (.single (recognized.candidate region))
  | unmatched (code : answer.responseCode = "1" ∨ answer.responseCode = "2" ∨
      answer.responseCode = "6") :
      ReadAs answer region .empty
  | ambiguous {ambiguous : AmbiguousAddress} (code : answer.responseCode = "7")
      (found : answer.ambiguousAddress = some ambiguous)
      (complete : ambiguous.reportedCount = ambiguous.items.length) :
      ReadAs answer region ⟨ambiguous.reportedCount, ambiguous.items.map AmbiguousItem.candidate⟩
  | locality {locality : NormalizedLocality} (code : answer.responseCode = "8")
      (found : answer.normalizedLocality = some locality) :
      ReadAs answer region (.single (locality.candidate region))

variable {answer : RawAnswer} {region : String} {set : ResultSet}

theorem interpretAs_eq_ok {code : ResponseCode} (same : answer.responseCode = code.wireCode)
    (read : answer.interpretAs region code = .ok set) : answer.ReadAs region set := by
  cases code with
  | ok =>
    cases found : answer.recognizedAddress with
    | none => simp [interpretAs, found] at read
    | some recognized =>
      obtain rfl : _ = set := by simpa [interpretAs, found] using read
      exact .recognized same found
  | ambiguousAddress =>
    cases found : answer.ambiguousAddress with
    | none => simp [interpretAs, found] at read
    | some ambiguous =>
      obtain ⟨complete, rfl⟩ := AmbiguousAddress.resultSet_eq_ok_iff.mp
        (by simpa only [interpretAs, found] using read)
      exact .ambiguous same found complete
  | municipalityDataOnly =>
    cases found : answer.normalizedLocality with
    | none => simp [interpretAs, found] at read
    | some locality =>
      obtain rfl : _ = set := by simpa [interpretAs, found] using read
      exact .locality same found
  | unknownAddress => cases read; exact .unmatched (.inl same)
  | unknownMunicipality => cases read; exact .unmatched (.inr (.inl same))
  | ambiguousMunicipality => cases read; exact .unmatched (.inr (.inr same))
  | inputParameterError | dataAccessError => cases read

/-- Why an answer is refused, by its code and the section in it that counts. -/
inductive FailsWith (answer : RawAnswer) : InterpretationError → Prop
  | unlisted (code : answer.responseCode ∉ ["0", "1", "2", "3", "6", "7", "8", "9"]) :
      FailsWith answer (.unknownResponseCode answer.responseCode)
  | parameter (code : answer.responseCode = "3") : FailsWith answer .inputParameterError
  | dataAccess (code : answer.responseCode = "9") : FailsWith answer .dataAccessError
  | noRecognized (code : answer.responseCode = "0") (absent : answer.recognizedAddress = none) :
      FailsWith answer (.missingAnswerData .ok "recognized address")
  | noAmbiguous (code : answer.responseCode = "7") (absent : answer.ambiguousAddress = none) :
      FailsWith answer (.missingAnswerData .ambiguousAddress "ambiguous address")
  | noLocality (code : answer.responseCode = "8") (absent : answer.normalizedLocality = none) :
      FailsWith answer (.missingAnswerData .municipalityDataOnly "normalized locality")
  | miscounted {ambiguous : AmbiguousAddress} (code : answer.responseCode = "7")
      (found : answer.ambiguousAddress = some ambiguous)
      (different : ambiguous.reportedCount ≠ ambiguous.items.length) :
      FailsWith answer (.candidateCountMismatch ambiguous.reportedCount ambiguous.items.length)

theorem interpretAs_eq_error {code : ResponseCode} {error : InterpretationError}
    (same : answer.responseCode = code.wireCode)
    (refused : answer.interpretAs region code = .error error) : answer.FailsWith error := by
  cases code with
  | ok =>
    cases found : answer.recognizedAddress with
    | none =>
      obtain rfl : _ = error := by simpa [interpretAs, found] using refused
      exact .noRecognized same found
    | some recognized => simp [interpretAs, found] at refused
  | ambiguousAddress =>
    cases found : answer.ambiguousAddress with
    | none =>
      obtain rfl : _ = error := by simpa [interpretAs, found] using refused
      exact .noAmbiguous same found
    | some ambiguous =>
      obtain ⟨different, rfl⟩ := AmbiguousAddress.resultSet_eq_error_iff.mp
        (by simpa only [interpretAs, found] using refused)
      exact .miscounted same found different
  | municipalityDataOnly =>
    cases found : answer.normalizedLocality with
    | none =>
      obtain rfl : _ = error := by simpa [interpretAs, found] using refused
      exact .noLocality same found
    | some locality => simp [interpretAs, found] at refused
  | inputParameterError => cases refused; exact .parameter same
  | dataAccessError => cases refused; exact .dataAccess same
  | unknownAddress | unknownMunicipality | ambiguousMunicipality => cases refused

theorem interpret_of_code (code : ResponseCode) (same : answer.responseCode = code.wireCode) :
    answer.interpret region = answer.interpretAs region code := by
  rw [interpret, ResponseCode.ofWire?_eq_some_iff.mpr same]

theorem interpret_eq_ok_iff : answer.interpret region = .ok set ↔ answer.ReadAs region set := by
  constructor
  · intro read
    rw [interpret] at read
    split at read
    · next code found => exact interpretAs_eq_ok (ResponseCode.ofWire?_eq_some_iff.mp found) read
    · cases read
  · intro read
    cases read with
    | recognized code found => rw [interpret_of_code .ok code, interpretAs, found]
    | ambiguous code found complete =>
      rw [interpret_of_code .ambiguousAddress code, interpretAs, found]
      exact AmbiguousAddress.resultSet_eq_ok_iff.mpr ⟨complete, rfl⟩
    | locality code found =>
      rw [interpret_of_code .municipalityDataOnly code, interpretAs, found]
    | unmatched code =>
      obtain code | code | code := code
      · rw [interpret_of_code .unknownAddress code, interpretAs]
      · rw [interpret_of_code .unknownMunicipality code, interpretAs]
      · rw [interpret_of_code .ambiguousMunicipality code, interpretAs]

theorem FailsWith.interpret_eq {error : InterpretationError} (fails : answer.FailsWith error) :
    answer.interpret region = .error error := by
  cases fails with
  | unlisted code => rw [interpret, ResponseCode.ofWire?_eq_none_iff.mpr code]
  | parameter code => rw [interpret_of_code .inputParameterError code, interpretAs]
  | dataAccess code => rw [interpret_of_code .dataAccessError code, interpretAs]
  | noRecognized code absent => rw [interpret_of_code .ok code, interpretAs, absent]
  | noAmbiguous code absent => rw [interpret_of_code .ambiguousAddress code, interpretAs, absent]
  | noLocality code absent =>
    rw [interpret_of_code .municipalityDataOnly code, interpretAs, absent]
  | miscounted code found different =>
    rw [interpret_of_code .ambiguousAddress code, interpretAs, found]
    exact AmbiguousAddress.resultSet_eq_error_iff.mpr ⟨different, rfl⟩

theorem interpret_eq_error_iff {error : InterpretationError} :
    answer.interpret region = .error error ↔ answer.FailsWith error := by
  constructor
  · intro refused
    rw [interpret] at refused
    split at refused
    · next code found =>
      exact interpretAs_eq_error (ResponseCode.ofWire?_eq_some_iff.mp found) refused
    · next unlisted =>
      cases refused
      exact .unlisted (ResponseCode.ofWire?_eq_none_iff.mp unlisted)
  · exact FailsWith.interpret_eq

theorem interpret_eq_mismatch_iff {reported actual : Nat} :
    answer.interpret region = .error (.candidateCountMismatch reported actual) ↔
      answer.responseCode = "7" ∧ ∃ ambiguous, answer.ambiguousAddress = some ambiguous ∧
        ambiguous.reportedCount = reported ∧ ambiguous.items.length = actual ∧
        reported ≠ actual := by
  rw [interpret_eq_error_iff]
  constructor
  · rintro (⟨⟩ | ⟨⟩)
    next ambiguous code found different =>
    exact ⟨code, ambiguous, found, rfl, rfl, different⟩
  · rintro ⟨code, ambiguous, found, rfl, rfl, different⟩
    exact .miscounted code found different

theorem ReadAs.isEmpty_iff (read : answer.ReadAs region set) :
    set.isEmpty = true ↔ answer.responseCode ∈ ["1", "2", "6"] ∨
      answer.responseCode = "7" ∧
        ∃ ambiguous, answer.ambiguousAddress = some ambiguous ∧ ambiguous.items = [] := by
  cases read with
  | recognized code found => simp [ResultSet.isEmpty, ResultSet.single, code]
  | unmatched code => simpa [ResultSet.isEmpty, ResultSet.empty] using .inl code
  | ambiguous code found complete => simp [ResultSet.isEmpty, code, found]
  | locality code found => simp [ResultSet.isEmpty, ResultSet.single, code]

theorem ReadAs.eq_empty (read : answer.ReadAs region set) (isEmpty : set.isEmpty = true) :
    set = .empty := by
  have none : set.candidates = [] := List.isEmpty_iff.mp isEmpty
  cases read with
  | recognized | locality => cases none
  | unmatched => rfl
  | ambiguous code found complete =>
    have noItems := List.map_eq_nil_iff.mp none
    rw [complete, noItems]
    rfl

/-- An answer is refused for the cause that its code and its section give, and for no other;
whenever there is none, it is read as a result set.  That is empty if nothing was matched, or
if the answer lists no address that may have been meant. -/
theorem interpret_failure (answer : RawAnswer) (region : String) :
    (∀ error, answer.interpret region = .error error ↔ answer.FailsWith error) ∧
    ((∃ set, answer.interpret region = .ok set) ↔ ∀ error, ¬ answer.FailsWith error) ∧
    ∀ set, answer.interpret region = .ok set →
      (set.isEmpty = true ↔ answer.responseCode ∈ ["1", "2", "6"] ∨
        answer.responseCode = "7" ∧
          ∃ ambiguous, answer.ambiguousAddress = some ambiguous ∧ ambiguous.items = []) ∧
      (set.isEmpty = true → set = .empty) := by
  have refused (error : InterpretationError) :
      answer.interpret region = .error error ↔ answer.FailsWith error := interpret_eq_error_iff
  refine ⟨refused, ?_, ?_⟩
  · simp only [← refused]
    cases answer.interpret region <;> simp
  · intro set read
    have readAs := interpret_eq_ok_iff.mp read
    exact ⟨readAs.isEmpty_iff, readAs.eq_empty⟩

/-- An answer that lists no address, beside one that is left over from another answer. -/
theorem interpret_failure_nothingListed :
    let leftover : RecognizedAddress :=
      ⟨⟨10.4, 43.7⟩, "Pisa", "PI", none, some "12", "VIA", "ROMA"⟩
    let answer : RawAnswer := {
      responseCode := "7"
      recognizedAddress := some leftover
      ambiguousAddress := some { reportedCount := 0, items := [] } }
    let misspelt : RawAnswer := { answer with responseCode := " 7" }
    let unlisted : RawAnswer := { answer with ambiguousAddress := none }
    answer.interpret "Toscana" = .ok .empty ∧ ResultSet.empty.isEmpty = true ∧
      misspelt.interpret "Toscana" = .error (.unknownResponseCode " 7") ∧
      unlisted.interpret "Toscana" =
        .error (.missingAnswerData .ambiguousAddress "ambiguous address") := by
  intro leftover answer misspelt unlisted
  have read : answer.interpret "Toscana" = .ok .empty := rfl
  have emptied := ((interpret_failure answer "Toscana").2.2 .empty read).1.mpr
    (.inr ⟨rfl, _, rfl, rfl⟩)
  have misread := ((interpret_failure misspelt "Toscana").1 _).mpr (.unlisted (by decide))
  have missed := ((interpret_failure unlisted "Toscana").1 _).mpr (.noAmbiguous rfl rfl)
  exact ⟨read, emptied, misread, missed⟩

end RawAnswer

end Geocoding
