import Geocoding.Proofs.Envelope.Response
import Geocoding.Proofs.Normalization.AnswerText

/-!
# From an answer to a response

What a response tells of a position, a street or a postal code is what stands for it in the
answer of the service, in the section that the response code selects.
-/

namespace Geocoding.Envelope

open Answer
open Json (Node Document)

def pointsIn (list : responseListShape.Carrier) : List (Float × Float) :=
  (addressesIn list).map fun ((pair, ()), _, _, ()) => pair

def streetsIn (list : responseListShape.Carrier) : List (Option String) :=
  (addressesIn list).map fun (_, (_, _, _, street, ()), _, ()) => street

def postalCodesIn (list : responseListShape.Carrier) : List (Option String) :=
  (addressesIn list).map fun (_, (_, _, postalCode, _, ()), _, ()) => postalCode

/-- A list of a response is made from the text with this root, which has this code. -/
inductive ListFrom (root : Node) (list : responseListShape.Carrier) : String → Prop
  | recognized {pair : Float × Float} {postalCode : Option String}
      (position : recognizedPair? root = some pair) (points : pointsIn list = [pair])
      (code : recognizedPostalCode? root = some postalCode)
      (codes : postalCodesIn list = [postalCode]) :
      ListFrom root list "0"
  | unmatched {code : String} (known : code = "1" ∨ code = "2" ∨ code = "6")
      (points : pointsIn list = []) :
      ListFrom root list code
  | ambiguous {nodes : List Node} {streets : List String} (items : itemNodes? root = some nodes)
      (points : nodes.map itemPair? = (pointsIn list).map some)
      (named : nodes.map itemStreet? = streets.map some)
      (listed : streetsIn list = streets.map some) :
      ListFrom root list "7"
  | locality {pair : Float × Float} {postalCode : Option String}
      (position : localityPair? root = some pair) (points : pointsIn list = [pair])
      (code : localityPostalCode? root = some postalCode)
      (codes : postalCodesIn list = [postalCode]) :
      ListFrom root list "8"

theorem pointsIn_ofResultSet (set : ResultSet) :
    pointsIn (ofResultSet set) =
      set.candidates.map fun candidate =>
        (candidate.position.longitude, candidate.position.latitude) :=
  List.map_map

theorem streetsIn_ofResultSet (set : ResultSet) :
    streetsIn (ofResultSet set) = set.candidates.map (·.address.street) :=
  List.map_map

theorem map_eq_of_itemFrom {Told : Type} {ofNode : Node → Option Told}
    {ofItem : AmbiguousItem → Told} {nodes : List Node} {items : List AmbiguousItem}
    (each : List.Forall₂ ItemFrom nodes items)
    (told : ∀ node item, ItemFrom node item → ofNode node = some (ofItem item)) :
    nodes.map ofNode = (items.map ofItem).map some := by
  rw [List.map_map, ← List.forall₂_eq_eq_eq, List.forall₂_map_left_iff,
    List.forall₂_map_right_iff]
  exact each.imp told

theorem listFrom_ambiguous {root : Node} {nodes : List Node} {items : List AmbiguousItem}
    (found : itemNodes? root = some nodes) (each : List.Forall₂ ItemFrom nodes items)
    (count : Nat) :
    ListFrom root (ofResultSet ⟨count, items.map AmbiguousItem.candidate⟩) "7" := by
  have points := map_eq_of_itemFrom each fun _ _ item => item.position
  have streets := map_eq_of_itemFrom each fun _ _ item => item.street
  refine .ambiguous found ?_ streets ?_
  · rw [points, pointsIn_ofResultSet, List.map_map, List.map_map, List.map_map]
    rfl
  · rw [streetsIn_ofResultSet, List.map_map, List.map_map]
    rfl

theorem mismatch_iff_of_answerFrom {root : Node} {answer : RawAnswer}
    (source : AnswerFrom root answer) {region : String} {reported actual : Nat} :
    answer.interpret region = .error (.candidateCountMismatch reported actual) ↔
      code? root = some "7" ∧ itemCount? root = some (some reported) ∧
        (itemNodes? root).map List.length = some actual ∧ reported ≠ actual := by
  rw [RawAnswer.interpret_eq_mismatch_iff, source.code, Option.some_inj]
  refine and_congr_right fun _ => ?_
  cases several : answer.ambiguousAddress with
  | none =>
    rw [source.unambiguous several]
    simp
  | some ambiguous =>
    obtain ⟨nodes, count, found, each, counted, told⟩ := source.ambiguous _ several
    simp only [found, counted, Option.map_some, Option.some_inj, each.length_eq] at told ⊢
    constructor
    · rintro ⟨_, rfl, rfl, rfl, different⟩
      cases count with
      | none => exact absurd told different
      | some number => exact ⟨congrArg some told.symm, rfl, different⟩
    · rintro ⟨rfl, rfl, different⟩
      exact ⟨ambiguous, rfl, told, rfl, different⟩

/-- The response to an answer tells the positions of the section that the code selects, in
order, with the streets of several addresses and the postal code of one.  An answer is
refused for its number of addresses if it tells one that is not theirs, and only then. -/
theorem response_fidelity {text : List Text.Symbol} {answer : RawAnswer}
    (read : Answer.read text = .ok answer) (region : String) :
    let root := (Document.read text).root
    (∀ set, answer.interpret region = .ok set →
      ∃ code, code? root = some code ∧ ListFrom root (ofResultSet set) code) ∧
    ∀ reported actual,
      answer.interpret region = .error (.candidateCountMismatch reported actual) ↔
        code? root = some "7" ∧ itemCount? root = some (some reported) ∧
          (itemNodes? root).map List.length = some actual ∧ reported ≠ actual := by
  intro root
  have source : AnswerFrom root answer := answerFrom_of_read read
  refine ⟨fun set interpreted => ?_, fun reported actual => mismatch_iff_of_answerFrom source⟩
  refine ⟨answer.responseCode, source.code, ?_⟩
  cases RawAnswer.interpret_eq_ok_iff.mp interpreted with
  | recognized code found =>
    rw [code]
    obtain ⟨position, postalCode⟩ := source.recognized _ found
    exact .recognized position rfl postalCode rfl
  | unmatched code => exact .unmatched code rfl
  | ambiguous code found complete =>
    rw [code]
    obtain ⟨nodes, count, foundItems, each, -⟩ := source.ambiguous _ found
    exact listFrom_ambiguous foundItems each _
  | locality code found =>
    rw [code]
    obtain ⟨position, postalCode⟩ := source.locality _ found
    exact .locality position rfl postalCode rfl

/-- An answer with two addresses that does not tell their number, one given by position and
one by name. -/
def severalText : String :=
  "\x7b\"tipoRispostaNorm\":\"7\",\"indirizzoAmbiguo\":\x7b\"ambiguitaInd\":\x7b" ++
    "\"ambiguitaIndItem\":[[\" 11.25 \",43,\"VIA ROMA\",\"1\"]," ++
    "\x7b\"indirizzo\":\"VIA ROMA\",\"y\":\"44\",\"x\":10.5\x7d]," ++
    "\"ambiguitaIndItemCount\":null\x7d\x7d\x7d"

def severalAnswer : RawAnswer where
  responseCode := "7"
  ambiguousAddress := some
    { reportedCount := 2
      items := [⟨⟨11.25, 43⟩, "VIA ROMA", some "1"⟩, ⟨⟨10.5, 44⟩, "VIA ROMA", none⟩] }

theorem response_fidelity_several :
    let text := Text.Symbol.ofString severalText
    let root := (Document.read text).root
    Answer.read text = .ok severalAnswer ∧ ∃ set, severalAnswer.interpret "Toscana" = .ok set ∧
      ∃ code, code? root = some code ∧ ListFrom root (ofResultSet set) code := by
  have read : Answer.read (Text.Symbol.ofString severalText) = .ok severalAnswer := by
    decide +kernel
  exact ⟨read, _, rfl, (response_fidelity read "Toscana").1 _ rfl⟩

end Geocoding.Envelope
