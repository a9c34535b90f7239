import Geocoding.Normalization.AnswerText
import Geocoding.Proofs.Batch.Scripted
import Geocoding.Proofs.Envelope.Response
import Geocoding.Proofs.Json.Readable

/-!
# Responses that can be read again

The text of a response is read as a response again if all its positions are finite.  Positions
are passed on as the service reports them, and a position reported as a string may be
infinite or no number at all.  It is printed as `null`, which stands for no position.
-/

namespace Geocoding

open Json (Shape Style)
open Text (Symbol)

def Coordinates.Finite (position : Coordinates) : Prop :=
  position.longitude.isFinite = true ∧ position.latitude.isFinite = true

instance (position : Coordinates) : Decidable position.Finite :=
  inferInstanceAs (Decidable (_ ∧ _))

theorem ResultSet.Consistent.isFinite_accuracy {region : String} {set : ResultSet}
    (consistent : set.Consistent region) {candidate : Candidate}
    (found : candidate ∈ set.candidates) : candidate.matchCode.accuracy.isFinite = true := by
  rcases consistent.oneKind with direct | ambiguous
  · rw [direct candidate found]
    decide
  · rw [ambiguous candidate found]
    decide

namespace Envelope

theorem inRange_of_exact {shape : Shape} (exact : shape.exact = true) (value : shape.Carrier) :
    shape.InRange value :=
  (shape.exists_rereads_iff value).mp ⟨value, shape.rereads_self exact value⟩

theorem inRange_ofCandidate_iff {candidate : Candidate}
    (accuracy : candidate.matchCode.accuracy.isFinite = true) :
    geocodedAddressShape.InRange (ofCandidate candidate) ↔ candidate.position.Finite := by
  have address : returnAddressShape.InRange (ofReconstructedAddress candidate.address) :=
    inRange_of_exact (by decide) _
  constructor
  · rintro ⟨⟨position, -⟩, -⟩
    exact position
  · intro position
    exact ⟨⟨position, trivial⟩, address, ⟨trivial, accuracy, trivial⟩, trivial⟩

/-- A list of a response is in range if its positions are finite, and it is not longer than
64 bits can tell. -/
theorem inRange_ofResultSet_iff {region : String} {set : ResultSet}
    (consistent : set.Consistent region) :
    responseListShape.InRange (ofResultSet set) ↔
      set.candidates.length < 2 ^ 64 ∧ ∀ candidate ∈ set.candidates, candidate.position.Finite := by
  have parts : responseListShape.InRange (ofResultSet set) ↔
      set.addressCount < 2 ^ 64 ∧
        List.Forall geocodedAddressShape.InRange (set.candidates.map ofCandidate) ∧ True :=
    Iff.rfl
  rw [parts, consistent.counted, and_true, List.forall_iff_forall_mem, List.forall_mem_map]
  refine and_congr_right fun _ => forall₂_congr fun candidate found => ?_
  exact inRange_ofCandidate_iff (consistent.isFinite_accuracy found)

theorem exists_readText_response_iff {region : String} {result : BatchResult}
    (consistent : ∀ set ∈ result.results, set.Consistent region) (style : Style) :
    (∃ response, responseShape.readText (Symbol.ofString (writeResponse style result)) =
        .ok response) ↔
      ∀ set ∈ result.results, set.candidates.length < 2 ^ 64 ∧
        ∀ candidate ∈ set.candidates, candidate.position.Finite := by
  have parts : responseShape.InRange (ofBatchResult result) ↔
      List.Forall responseListShape.InRange (result.results.map ofResultSet) ∧ True :=
    Iff.rfl
  rw [writeResponse, Shape.exists_readText_writeText_iff (by decide), parts, and_true,
    List.forall_iff_forall_mem, List.forall_mem_map]
  exact forall₂_congr fun set found => inRange_ofResultSet_iff (consistent set found)

/-- What is printed of a batch that succeeds is read as a response again exactly if all
positions in it are finite, whatever service was asked. -/
theorem response_readable_iff {Binding State : Type} (service : Service Binding State)
    (cancelled : State → Bool) (region : String) (addresses : List AddressQuery)
    (state last : State) (result : BatchResult)
    (succeeded : (service.geocodeUnlessCancelled cancelled region addresses).runFrom state =
      (.ok result, last)) (style : Style) :
    (∃ response, responseShape.readText (Symbol.ofString (writeResponse style result)) =
        .ok response) ↔
      ∀ set ∈ result.results, set.candidates.length < 2 ^ 64 ∧
        ∀ candidate ∈ set.candidates, candidate.position.Finite :=
  exists_readText_response_iff
    (Service.forall_consistent (Service.answers_of_geocodeUnlessCancelled succeeded)) style

/-! ## A position reported as infinite -/

def localityText (longitude : String) : String :=
  "\x7b\"tipoRispostaNorm\":\"8\",\"localitaNormalizzata\":\x7b\"datiNormalizzazioneLoc\":" ++
    "\x7b\"xSezioneIstat\":\"" ++ longitude ++ "\",\"ySezioneIstat\":43.5\x7d\x7d\x7d"

def localityAnswer (position : Coordinates) : RawAnswer where
  responseCode := "8"
  normalizedLocality := some
    { position, hamlet := "", locality := "", province := "", postalCode := none }

def localityResult (position : Coordinates) : BatchResult :=
  ⟨[.single (NormalizedLocality.candidate ⟨position, "", "", "", none⟩ "Toscana")]⟩

def localityQuery : AddressQuery where
  countryCode := "IT"
  streetAddress := some { streets := ["Via Roma"] }
  places := [⟨.municipality, "Firenze"⟩]

def localityRun (position : Coordinates) : Except Failure BatchResult × Script :=
  (Script.service.geocodeUnlessCancelled Script.cancelled "Toscana" [localityQuery]).runFrom
    { binds := [], answers := [.ok (localityAnswer position)] }

theorem response_readable_finite :
    Answer.read (Symbol.ofString (localityText " 11.25 ")) = .ok (localityAnswer ⟨11.25, 43.5⟩) ∧
      ∃ result last, localityRun ⟨11.25, 43.5⟩ = (.ok result, last) ∧
        ∀ style, ∃ response,
          responseShape.readText (Symbol.ofString (writeResponse style result)) = .ok response := by
  have found : (localityRun ⟨11.25, 43.5⟩).1 = .ok (localityResult ⟨11.25, 43.5⟩) := by
    decide +kernel
  have succeeded := Prod.ext (y := (_, (localityRun ⟨11.25, 43.5⟩).2)) found rfl
  refine ⟨by decide +kernel, _, _, succeeded, fun style => ?_⟩
  refine (response_readable_iff _ _ _ _ _ _ _ succeeded style).mpr ?_
  decide

/-- A service may report an infinite longitude.  The batch succeeds, and what is printed of it
is no response. -/
theorem response_unreadable_infinite :
    Answer.read (Symbol.ofString (localityText "inf")) = .ok (localityAnswer ⟨1 / 0, 43.5⟩) ∧
      ∃ result last, localityRun ⟨1 / 0, 43.5⟩ = (.ok result, last) ∧
        ∀ style, ¬ ∃ response,
          responseShape.readText (Symbol.ofString (writeResponse style result)) = .ok response := by
  have found : (localityRun ⟨1 / 0, 43.5⟩).1 = .ok (localityResult ⟨1 / 0, 43.5⟩) := by
    decide +kernel
  have succeeded := Prod.ext (y := (_, (localityRun ⟨1 / 0, 43.5⟩).2)) found rfl
  refine ⟨by decide +kernel, _, _, succeeded, fun style => ?_⟩
  have consistent := Service.forall_consistent (Service.answers_of_geocodeUnlessCancelled succeeded)
  rw [exists_readText_response_iff consistent style]
  decide

end Envelope

end Geocoding
