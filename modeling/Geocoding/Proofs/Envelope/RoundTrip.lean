import Geocoding.Proofs.Envelope.Response
import Geocoding.Proofs.Json.Readable

/-!
# Responses come back as they were written

Everything in a response but its numbers is read as it is written.  A floating-point number
is written with its shortest digits, and the reading of digits may miss it by the last bit, so
a response comes back from its text exactly if each of its numbers does on its own.  The
conversion to an envelope loses nothing, so two such responses are never the same text.
-/

namespace Geocoding

open Json (Shape Style Leaf)
open Text (Symbol)

namespace Json

def Leaf.ReadsBack (leaf : Leaf) (value : leaf.Carrier) : Prop :=
  (Shape.leaf leaf).readText (Symbol.ofString ((Shape.leaf leaf).writeText .compact value)) =
    .ok value

namespace Leaf

instance : (leaf : Leaf) → DecidableEq leaf.Carrier
  | string => inferInstanceAs (DecidableEq String)
  | count => inferInstanceAs (DecidableEq Nat)
  | double | coordinate => inferInstanceAs (DecidableEq Float)
  | single => inferInstanceAs (DecidableEq Float32)
  | pair => inferInstanceAs (DecidableEq (Float × Float))
  | placeKind => inferInstanceAs (DecidableEq PlaceKind)

instance (leaf : Leaf) (value result : leaf.Carrier) : Decidable (leaf.Rereads value result) :=
  inferInstanceAs (Decidable (leaf.read 0 (leaf.write value).node = .ok result))

theorem readsBack_iff {leaf : Leaf} {value : leaf.Carrier} :
    leaf.ReadsBack value ↔ leaf.Rereads value value :=
  Shape.readText_writeText_iff (rfl : (Shape.leaf leaf).regular = true) .compact

example : ¬ double.Rereads (1e-23 : Float) (1e-23 : Float) := by decide +kernel

theorem rereads_pair_iff (first second : Float) :
    pair.Rereads (first, second) (first, second) ↔
      double.ReadsBack first ∧ double.ReadsBack second := by
  rw [readsBack_iff, readsBack_iff]
  exact readPair_eq_ok_iff

theorem rereads_count_iff (number : Nat) : count.Rereads number number ↔ number < 2 ^ 64 := by
  constructor
  · intro read
    exact (exists_readCount_iff number).mp ⟨number, read⟩
  · exact readCount_count

end Leaf

end Json

/-- Whether the position and the accuracy of a candidate come back from their digits.
Infinite numbers do not, since they are not written with digits. -/
structure Candidate.ReadsBack (candidate : Candidate) : Prop where
  longitude : Leaf.double.ReadsBack candidate.position.longitude
  latitude : Leaf.double.ReadsBack candidate.position.latitude
  accuracy : Leaf.single.ReadsBack candidate.matchCode.accuracy

/-- Whether all numbers of a set come back.  Its count is one of 64 bits. -/
structure ResultSet.ReadsBack (set : ResultSet) : Prop where
  counted : set.addressCount < 2 ^ 64
  candidates : ∀ candidate ∈ set.candidates, candidate.ReadsBack

def BatchResult.ReadsBack (result : BatchResult) : Prop :=
  ∀ set ∈ result.results, set.ReadsBack

namespace Envelope

/-! ## Reading what has been written -/

theorem rereads_ofCandidate_iff (candidate : Candidate) :
    geocodedAddressShape.Rereads (ofCandidate candidate) (ofCandidate candidate) ↔
      candidate.ReadsBack := by
  have address : returnAddressShape.Rereads (ofReconstructedAddress candidate.address)
      (ofReconstructedAddress candidate.address) :=
    returnAddressShape.rereads_self (by decide) _
  have matchType : textShape.Rereads candidate.matchCode.matchType candidate.matchCode.matchType :=
    textShape.rereads_self rfl _
  have position := Leaf.rereads_pair_iff candidate.position.longitude candidate.position.latitude
  constructor
  · rintro ⟨⟨point, -⟩, -, ⟨-, accuracy, -⟩, -⟩
    obtain ⟨longitude, latitude⟩ := position.mp point
    exact ⟨longitude, latitude, Leaf.readsBack_iff.mpr accuracy⟩
  · rintro ⟨longitude, latitude, accuracy⟩
    have point := position.mpr ⟨longitude, latitude⟩
    exact ⟨⟨point, trivial⟩, address, ⟨matchType, Leaf.readsBack_iff.mp accuracy, trivial⟩, trivial⟩

theorem rereads_ofResultSet_iff (set : ResultSet) :
    responseListShape.Rereads (ofResultSet set) (ofResultSet set) ↔ set.ReadsBack := by
  have parts : responseListShape.Rereads (ofResultSet set) (ofResultSet set) ↔
      Leaf.count.Rereads set.addressCount set.addressCount ∧
        List.Forall₂ geocodedAddressShape.Rereads (set.candidates.map ofCandidate)
          (set.candidates.map ofCandidate) ∧ True :=
    Iff.rfl
  rw [parts, Leaf.rereads_count_iff, List.forall₂_same, List.forall_mem_map, and_true]
  simp only [rereads_ofCandidate_iff]
  exact ⟨fun ⟨counted, candidates⟩ => ⟨counted, candidates⟩, fun back => ⟨back.1, back.2⟩⟩

theorem rereads_ofBatchResult_iff (result : BatchResult) :
    responseShape.Rereads (ofBatchResult result) (ofBatchResult result) ↔ result.ReadsBack := by
  have parts : responseShape.Rereads (ofBatchResult result) (ofBatchResult result) ↔
      List.Forall₂ responseListShape.Rereads (result.results.map ofResultSet)
        (result.results.map ofResultSet) ∧ True :=
    Iff.rfl
  rw [parts, List.forall₂_same, List.forall_mem_map, and_true]
  simp only [rereads_ofResultSet_iff]
  rfl

theorem readText_writeResponse_iff (style : Style) (result : BatchResult) :
    responseShape.readText (Symbol.ofString (writeResponse style result)) =
      .ok (ofBatchResult result) ↔ result.ReadsBack := by
  rw [writeResponse, Shape.readText_writeText_iff (by decide), rereads_ofBatchResult_iff]

/-! ## One envelope for each result -/

theorem samePlace_unique : Relator.RightUnique SamePlace := by
  intro carrier first second sameFirst sameSecond
  rw [← (placeOf_eq_iff carrier first).mpr sameFirst, (placeOf_eq_iff carrier second).mpr sameSecond]

theorem sameReconstructedAddress_unique : Relator.RightUnique SameReconstructedAddress := by
  rintro ⟨countryCode, places, postalCode, street, ⟨⟩⟩ ⟨_, firsts, _, _⟩ ⟨_, seconds, _, _⟩
    ⟨rfl, placesFirst, rfl, rfl⟩ ⟨rfl, placesSecond, rfl, rfl⟩
  have named : firsts = seconds := samePlace_unique.forall₂ placesFirst placesSecond
  rw [named]

theorem sameCandidate_unique : Relator.RightUnique SameCandidate := by
  rintro ⟨⟨⟨longitude, latitude⟩, ⟨⟩⟩, address, ⟨matchType, accuracy, ⟨⟩⟩, ⟨⟩⟩
    ⟨⟨_, _⟩, first, ⟨_, _⟩⟩ ⟨⟨_, _⟩, second, ⟨_, _⟩⟩
    ⟨⟨rfl, rfl⟩, addressFirst, rfl, rfl⟩ ⟨⟨rfl, rfl⟩, addressSecond, rfl, rfl⟩
  have located : first = second := sameReconstructedAddress_unique addressFirst addressSecond
  rw [located]

theorem sameSet_unique : Relator.RightUnique SameSet := by
  rintro ⟨number, addresses, ⟨⟩⟩ ⟨_, firsts⟩ ⟨_, seconds⟩ ⟨rfl, candidatesFirst⟩
    ⟨rfl, candidatesSecond⟩
  have found : firsts = seconds := sameCandidate_unique.forall₂ candidatesFirst candidatesSecond
  rw [found]

theorem ofBatchResult_injective : Function.Injective ofBatchResult := by
  rintro ⟨firsts⟩ ⟨seconds⟩ same
  have ofFirsts := sameSet_ofBatchResult ⟨firsts⟩
  rw [same] at ofFirsts
  have sets : firsts = seconds := sameSet_unique.forall₂ ofFirsts (sameSet_ofBatchResult ⟨seconds⟩)
  rw [sets]

/-- Responses survive being written and read, be it from the text or from its bytes, exactly
if each number in them does on its own.  The envelope has one list for each set, in order, and
no other result has the same envelope, so two different results whose numbers come back are
never the same text, whichever style they are written in. -/
theorem response_roundTrip :
    (∀ style result,
      (responseShape.readText (Symbol.ofString (writeResponse style result)) =
          .ok (ofBatchResult result) ↔ result.ReadsBack) ∧
        (responseShape.readText (Symbol.ofBytes (Text.utf8 (writeResponse style result))) =
          .ok (ofBatchResult result) ↔ result.ReadsBack)) ∧
    (∀ result, List.Forall₂ SameSet (listsOf (ofBatchResult result)) result.results) ∧
    Function.Injective ofBatchResult ∧
    ∀ style other first second, first.ReadsBack → second.ReadsBack → first ≠ second →
      writeResponse style first ≠ writeResponse other second := by
  refine ⟨fun style result => ⟨?_, ?_⟩, sameSet_ofBatchResult, ofBatchResult_injective, ?_⟩
  · exact readText_writeResponse_iff style result
  · rw [Symbol.ofBytes_utf8]
    exact readText_writeResponse_iff style result
  · intro style other first second backFirst backSecond different same
    have readFirst := (readText_writeResponse_iff style first).mpr backFirst
    have readSecond := (readText_writeResponse_iff other second).mpr backSecond
    rw [same, readSecond] at readFirst
    exact different (ofBatchResult_injective (Except.ok.inj readFirst)).symm

def florence (postalCode : Option String) : Candidate where
  position := ⟨11.25, 43.77⟩
  address := ⟨"IT", [⟨.municipality, "Firenze"⟩], postalCode, some "Via Roma"⟩
  matchCode := ⟨"RFC59-2", 1⟩

/-- What is found for two addresses, of which the second has no candidate. -/
def foundOnce (postalCode : Option String) : BatchResult :=
  ⟨[.single (florence postalCode), .empty]⟩

theorem florence_readsBack (postalCode : Option String) : (florence postalCode).ReadsBack := by
  have longitude : Leaf.double.Rereads (11.25 : Float) (11.25 : Float) := by decide +kernel
  have latitude : Leaf.double.Rereads (43.77 : Float) (43.77 : Float) := by decide +kernel
  have accuracy : Leaf.single.Rereads (1 : Float32) (1 : Float32) := by decide +kernel
  exact ⟨Leaf.readsBack_iff.mpr longitude, Leaf.readsBack_iff.mpr latitude,
    Leaf.readsBack_iff.mpr accuracy⟩

theorem foundOnce_readsBack (postalCode : Option String) : (foundOnce postalCode).ReadsBack := by
  have first : (ResultSet.single (florence postalCode)).ReadsBack :=
    ⟨Nat.one_lt_two_pow (by decide), List.forall_mem_singleton.mpr (florence_readsBack postalCode)⟩
  have second : ResultSet.empty.ReadsBack := ⟨by decide, nofun⟩
  exact List.forall_mem_cons.mpr ⟨first, List.forall_mem_singleton.mpr second⟩

/-- An absent postal code and an empty one are told apart by every text. -/
theorem response_roundTrip_postalCode :
    (∀ style postalCode,
      responseShape.readText (Symbol.ofString (writeResponse style (foundOnce postalCode))) =
        .ok (ofBatchResult (foundOnce postalCode))) ∧
    ∀ style other,
      writeResponse style (foundOnce none) ≠ writeResponse other (foundOnce (some "")) := by
  obtain ⟨reads, -, -, separates⟩ := response_roundTrip
  refine ⟨fun style postalCode => ?_, fun style other => ?_⟩
  · exact (reads style _).1.mpr (foundOnce_readsBack postalCode)
  · exact separates style other _ _ (foundOnce_readsBack none) (foundOnce_readsBack (some ""))
      (by decide)

end Envelope

end Geocoding
